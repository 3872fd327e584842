import BoundUpdate.Proofs.Association
import BoundUpdate.Proofs.Backend.ConnectionText
import BoundUpdate.Proofs.Backend.Opening
import BoundUpdate.Proofs.Failure.Sequence
import BoundUpdate.Proofs.Number.Notation
import BoundUpdate.Proofs.Value.Entries

namespace BoundUpdate

/-!
# Connecting by parts

A database that takes a connection text may be given by parts: the parts are
written into the text as they are.  The text is read as the parts exactly when
all of them are given and can stand bare: what is not given is written as a word,
what holds white space or a backslash or starts with a quote is misread, an empty
text takes on what stands behind it, and the port zero is replaced.

A misread value cannot be made good by what stands behind it, because no letter
of a text is read twice.
-/

namespace ConnectionText

/-! ## Settings as they are meant -/

/-- A setting as it is written, and the value that it is meant to have, if it is meant at all. -/
structure Part where
  keyword : List Char
  value : List Char
  meant : Option (List Char)

namespace Part

/-- What is written for some parts. -/
def settings (parts : List Part) : List Setting := parts.map fun p => (p.keyword, p.value)

/-- What is meant by some parts. -/
def intended (parts : List Part) : List Setting :=
  parts.filterMap fun p => p.meant.map fun v => (p.keyword, v)

end Part

/-- A text denotes settings: it is read, and every keyword has the value that is meant. -/
def Denotes (known : Keywords) (text : List Char) (intended : List Setting) : Prop :=
  ∃ found, settings? known text = some found ∧ ∀ k, valueOf? found k = intended.lookup k

section Parts

variable {known : Keywords} {c : Char} {k v : List Char} {settings found : List Setting}
  {parts : List Part} {p : Part}

theorem mem_of_valueOf? (h : valueOf? found k = some v) : (k, v) ∈ found :=
  List.mem_reverse.1 (mem_of_lookup h)

theorem valueOf?_ne_none (h : (k, v) ∈ found) : valueOf? found k ≠ none := by
  intro hnone
  have hall := List.lookup_eq_none_iff.1 hnone (k, v) (List.mem_reverse.2 h)
  simp at hall

theorem valueOf?_of_nodup (hnodup : (settings.map Prod.fst).Nodup) (k : List Char) :
    valueOf? settings k = settings.lookup k := by
  have hreverse : (settings.reverse.map Prod.fst).Nodup := by
    rw [List.map_reverse, List.nodup_reverse]
    exact hnodup
  refine Option.ext fun v => ?_
  rw [valueOf?, lookup_eq_some_iff_mem hreverse, lookup_eq_some_iff_mem hnodup, List.mem_reverse]

theorem count_written (hc : isOrdinary c = true) (settings : List Setting) :
    (written settings).count c = tally c settings := by
  obtain ⟨hspace, hequals, -⟩ := isOrdinary_iff.1 hc
  have hblank : c ≠ ' ' := by
    rintro rfl
    cases hspace
  induction settings with
  | nil => rfl
  | cons s rest ih =>
    cases rest with
    | nil =>
      rw [written_singleton, List.count_append, List.count_cons_of_ne hequals.symm, tally_cons]
      rfl
    | cons other rest =>
      rw [written_cons_cons, List.count_append, List.count_cons_of_ne hequals.symm,
        List.count_append, List.count_cons_of_ne hblank.symm, ih, tally_cons c s, Nat.add_assoc]

theorem map_settings (parts : List Part) :
    (Part.settings parts).map Prod.fst = parts.map Part.keyword := by
  rw [Part.settings, List.map_map]
  rfl

theorem mem_settings (hp : p ∈ parts) : (p.keyword, p.value) ∈ Part.settings parts :=
  List.mem_map_of_mem hp

theorem sublist_intended (parts : List Part) :
    ((Part.intended parts).map Prod.fst).Sublist (parts.map Part.keyword) := by
  induction parts with
  | nil => exact .slnil
  | cons p rest ih =>
    rw [Part.intended, List.filterMap_cons, List.map_cons]
    cases p.meant with
    | none => exact ih.cons p.keyword
    | some v => exact ih.cons_cons p.keyword

theorem mem_intended : (k, v) ∈ Part.intended parts ↔
    ∃ p ∈ parts, p.keyword = k ∧ p.meant = some v := by
  rw [Part.intended, List.mem_filterMap]
  simp [and_comm]

/-- A keyword has the value that is meant for it. -/
theorem lookup_intended (hnodup : (parts.map Part.keyword).Nodup) (hp : p ∈ parts) :
    (Part.intended parts).lookup p.keyword = p.meant := by
  refine Option.ext fun v => ?_
  rw [lookup_eq_some_iff_mem (hnodup.sublist (sublist_intended parts)), mem_intended]
  refine ⟨?_, fun hmeant => ⟨p, hp, rfl, hmeant⟩⟩
  rintro ⟨q, hq, hkeyword, hmeant⟩
  rwa [← List.inj_on_of_nodup_map hnodup hq hp hkeyword]

/-- Letters that no wrongly written part holds are written as often as they are meant. -/
theorem tally_intended (h : ∀ q ∈ parts, q.meant ≠ some q.value →
    c ∉ q.keyword ∧ c ∉ q.value ∧ ∀ v ∈ q.meant, c ∉ v) :
    tally c (Part.settings parts) = tally c (Part.intended parts) := by
  induction parts with
  | nil => rfl
  | cons q rest ih =>
    obtain ⟨hq, hrest⟩ := List.forall_mem_cons.1 h
    have htail := ih hrest
    rw [Part.settings, Part.intended] at htail
    rw [Part.settings, Part.intended, List.map_cons, List.filterMap_cons, tally_cons, htail]
    by_cases hmeant : q.meant = some q.value
    · rw [hmeant]
      rfl
    · obtain ⟨hkeyword, hvalue, hother⟩ := hq hmeant
      have hzero : q.keyword.count c = 0 := List.count_eq_zero.2 hkeyword
      have hnone : q.value.count c = 0 := List.count_eq_zero.2 hvalue
      cases hintended : q.meant with
      | none => simp [hzero, hnone]
      | some v =>
        have hv : v.count c = 0 := List.count_eq_zero.2 (hother v hintended)
        simp [tally_cons, hzero, hnone, hv]

theorem tally_le_of_sublist (h : settings.Sublist found) : tally c settings ≤ tally c found := by
  induction h with
  | slnil => exact Nat.le_refl _
  | cons s _ ih =>
    rw [tally_cons]
    omega
  | cons_cons s _ ih =>
    rw [tally_cons, tally_cons]
    omega

theorem tally_eq_of_perm (h : settings.Perm found) : tally c settings = tally c found := by
  induction h with
  | nil => rfl
  | cons s _ ih => rw [tally_cons, tally_cons, ih]
  | swap s other rest =>
    simp only [tally_cons]
    omega
  | trans _ _ hfirst hlast => exact hfirst.trans hlast

/-- Different settings that are all found hold no more than what is found. -/
theorem tally_le_of_subset (hnodup : settings.Nodup) (h : settings ⊆ found) :
    tally c settings ≤ tally c found := by
  obtain ⟨same, hperm, hsub⟩ := hnodup.subperm h
  rw [← tally_eq_of_perm hperm]
  exact tally_le_of_sublist hsub

/-- Parts under different keywords that are known; what is misread is written as it is meant, and
its keyword has a letter that is not in a part that is not. -/
structure Apart (known : Keywords) (parts : List Part) : Prop where
  nodup : (parts.map Part.keyword).Nodup
  isKnown : ∀ p ∈ parts, known.known p.keyword = true
  bare : ∀ p ∈ parts, IsBareInside p.value ∨ p.meant = none ∨ p.meant = some p.value
  letter : ∀ p ∈ parts, p.meant = some p.value → ¬ IsBareInside p.value →
    ∃ c ∈ p.keyword, ∀ q ∈ parts, q.meant ≠ some q.value →
      c ∉ q.keyword ∧ c ∉ q.value ∧ ∀ v ∈ q.meant, c ∉ v

theorem intended_of_meant (h : ∀ p ∈ parts, p.meant = some p.value) :
    Part.intended parts = Part.settings parts := by
  rw [Part.intended, Part.settings, ← List.filterMap_eq_map]
  exact List.filterMap_congr fun p hp => by rw [h p hp]; rfl

/-- What is written denotes what is meant exactly when every part is written as it is meant and can
stand bare. -/
theorem denotes_written_iff (h : Apart known parts) :
    Denotes known (written (Part.settings parts)) (Part.intended parts) ↔
      (∀ p ∈ parts, p.meant = some p.value) ∧ AllBare (Part.settings parts) := by
  have hkeys : ((Part.settings parts).map Prod.fst).Nodup := by
    rw [map_settings]
    exact h.nodup
  have hknown : ∀ s ∈ Part.settings parts, known.known s.1 = true :=
    List.forall_mem_map.2 h.isKnown
  constructor
  · rintro ⟨found, hread, hvalues⟩
    rcases settings?_written_cases hknown hread with
      ⟨rfl, hbare⟩ | ⟨front, k, v, behind, r, more, hsettings, hfound, hne, hnot⟩
    · refine ⟨fun p hp => ?_, hbare⟩
      rw [← lookup_intended h.nodup hp, ← hvalues, valueOf?_of_nodup hkeys]
      exact (lookup_eq_some_iff_mem hkeys).2 (mem_settings hp)
    · obtain ⟨p, hp, hsame⟩ := List.mem_map.1
        (hsettings ▸ List.mem_append_right front List.mem_cons_self :
          (k, v) ∈ Part.settings parts)
      obtain ⟨rfl, rfl⟩ := Prod.mk.inj hsame
      have hmem : (p.keyword, r) ∈ found :=
        hfound ▸ List.mem_append_right front List.mem_cons_self
      -- the keyword has a value, so one is meant; it is the one that was written
      have hmeant : p.meant = some p.value := by
        have hsome := valueOf?_ne_none hmem
        rw [hvalues, lookup_intended h.nodup hp] at hsome
        rcases h.bare p hp with hbare | hnone | hmeant
        · exact absurd hbare hnot
        · exact absurd hnone hsome
        · exact hmeant
      -- so the keyword is found twice, more often than it was written
      obtain ⟨c, hc, hapart⟩ := h.letter p hp hmeant hnot
      have hordinary := isOrdinary_of_isKeywordChar ((known.known_word _ (h.isKnown p hp)).2 c hc)
      have hintended : ((Part.intended parts).map Prod.fst).Nodup :=
        h.nodup.sublist (sublist_intended parts)
      have hmisread : (p.keyword, r) ∉ Part.intended parts := by
        intro hin
        rw [← lookup_eq_some_iff_mem hintended, lookup_intended h.nodup hp, hmeant] at hin
        exact hne (Option.some.inj hin).symm
      have hsubset : (p.keyword, r) :: Part.intended parts ⊆ found := by
        refine List.cons_subset.2 ⟨hmem, fun s hs => mem_of_valueOf? ?_⟩
        rw [hvalues]
        exact (lookup_eq_some_iff_mem hintended).2 hs
      have hfewer := tally_le_of_subset (c := c) (hintended.of_map.cons hmisread) hsubset
      have hall : tally c found = tally c (Part.intended parts) := by
        rw [tally_settings? hordinary hread, count_written hordinary, tally_intended hapart]
      have hpositive : 0 < p.keyword.count c := List.count_pos_iff.2 hc
      rw [tally_cons] at hfewer
      dsimp only at hfewer
      omega
  · rintro ⟨hmeant, hbare⟩
    refine ⟨_, settings?_written hknown hbare, fun k => ?_⟩
    rw [intended_of_meant hmeant, valueOf?_of_nodup hkeys]

/-- What is meant is read, in order and nothing else, in the same case. -/
theorem settings?_written_intended_iff (h : Apart known parts) :
    settings? known (written (Part.settings parts)) = some (Part.intended parts) ↔
      (∀ p ∈ parts, p.meant = some p.value) ∧ AllBare (Part.settings parts) := by
  constructor
  · intro hread
    have hkeys := h.nodup.sublist (sublist_intended parts)
    exact (denotes_written_iff h).1 ⟨_, hread, valueOf?_of_nodup hkeys⟩
  · rintro ⟨hmeant, hbare⟩
    rw [intended_of_meant hmeant]
    exact settings?_written (List.forall_mem_map.2 h.isKnown) hbare

end Parts

end ConnectionText

/-! ## Connecting -/

open ConnectionText

/-- The parts that a server database is given by, and the seconds to wait for a connection. -/
structure ServerParts where
  host : Option String
  port : Option Int
  database : Option String
  user : Option String
  password : Option String
  timeout : Int
  /-- The option of that name, or the mode that is preferred if it is left out. -/
  sslMode : Option String

namespace ServerParts

/-- The setting of a part, if it is given. -/
def given (keyword : String) (v : Option String) : List Setting :=
  (v.map fun s => (keyword.toList, s.toList)).toList

/-- The settings that the parts mean. -/
def intended (p : ServerParts) : List Setting :=
  given "host" p.host ++ given "port" (some (Number.intText (p.port.getD 5432))) ++
    given "dbname" p.database ++ given "user" p.user ++ given "password" p.password ++
    given "connect_timeout" (some (Number.intText p.timeout)) ++ given "sslmode" p.sslMode

/-- Whether a text is given that can stand bare in front of another setting. -/
def IsPlain (v : Option String) : Prop := ∃ s, v = some s ∧ IsBareInside s.toList

/-- Whether all parts are given and can stand bare where they are written. -/
structure Plain (p : ServerParts) : Prop where
  host : IsPlain p.host
  port : p.port ≠ some 0
  database : IsPlain p.database
  user : IsPlain p.user
  password : IsPlain p.password
  sslMode : ∃ s, p.sslMode = some s ∧ IsBare s.toList

/-- Whether an entry gives the parts of a database that is opened with a text, and no address. -/
structure Describes (p : ServerParts) (e : DatabaseEntry) : Prop where
  dsn : e.dsn.truth = .ok false
  host : e.host = DatabaseEntry.ofText? p.host
  port : e.port = (p.port.map Value.int).getD .none
  database : e.database = DatabaseEntry.ofText? p.database
  user : e.user = DatabaseEntry.ofText? p.user
  password : e.password = DatabaseEntry.ofText? p.password
  options : ∃ options entries, Connector.TakesText e options ∧ options.entries? = some entries ∧
    entries.getD "sslmode" (.text "prefer") = DatabaseEntry.ofText? p.sslMode

/-! ### The text -/

/-- A text as a part; what is not given is written as a word. -/
def textPart (keyword : String) (v : Option String) : Part :=
  { keyword := keyword.toList, value := (v.getD "None").toList, meant := v.map String.toList }

/-- The port as a part; the port zero is replaced, too. -/
def portPart (port : Option Int) : Part :=
  { keyword := "port".toList
    value := (Number.intText (if port.getD 0 = 0 then 5432 else port.getD 0)).toList
    meant := some (Number.intText (port.getD 5432)).toList }

/-- The seconds to wait as a part. -/
def timeoutPart (timeout : Int) : Part :=
  { keyword := "connect_timeout".toList, value := (Number.intText timeout).toList
    meant := some (Number.intText timeout).toList }

/-- The parts in the order in which they are written. -/
def parts (p : ServerParts) : List Part :=
  [textPart "host" p.host, portPart p.port, textPart "dbname" p.database,
    textPart "user" p.user, textPart "password" p.password, timeoutPart p.timeout,
    textPart "sslmode" p.sslMode]

variable {p : ServerParts} {e : DatabaseEntry}

theorem intended_parts (p : ServerParts) : Part.intended p.parts = p.intended := by
  obtain ⟨host, port, database, user, password, timeout, sslMode⟩ := p
  cases host <;> cases database <;> cases user <;> cases password <;> cases sslMode <;> rfl

theorem mem_intText {c : Char} {n : Int} (h : c ∈ (Number.intText n).toList) :
    Number.isDigit c = true ∨ c = '-' := by
  unfold Number.intText at h
  split at h
  · rw [String.toList_ofList] at h
    exact (List.mem_cons.1 h).symm.imp_left Number.isDigit_of_mem_natChars
  · rw [Number.natText, String.toList_ofList] at h
    exact .inl (Number.isDigit_of_mem_natChars h)

theorem not_mem_intText {c : Char} (h : Number.isDigit c = false) (hminus : c ≠ '-') (n : Int) :
    c ∉ (Number.intText n).toList := by
  intro hmem
  rcases mem_intText hmem with hdigit | heq
  · rw [hdigit] at h
    cases h
  · exact hminus heq

theorem intText_ne_nil (n : Int) : (Number.intText n).toList ≠ [] := by
  unfold Number.intText
  split
  · rw [String.toList_ofList]
    exact List.cons_ne_nil _ _
  · rw [Number.natText, String.toList_ofList]
    exact Number.natChars_ne_nil _

theorem isBareInside_intText (n : Int) : IsBareInside (Number.intText n).toList := by
  have hnot : ∀ d : Char, Number.isDigit d = false → d ≠ '-' →
      ∀ c ∈ (Number.intText n).toList, c ≠ d := by
    rintro d hdigit hminus c hc rfl
    exact not_mem_intText hdigit hminus n hc
  refine ⟨intText_ne_nil n, fun c hc => ⟨?_, hnot '\\' (by decide) (by decide) c hc⟩,
    fun c hc => hnot '\'' (by decide) (by decide) c (List.mem_of_mem_head? hc)⟩
  rw [Bool.eq_false_iff]
  intro hspace
  rcases mem_intText hc with hdigit | rfl
  · simp only [Number.isDigit, Bool.and_eq_true, decide_eq_true_eq] at hdigit
    simp only [isSpace, Bool.or_eq_true, beq_iff_eq, Bool.and_eq_true, decide_eq_true_eq] at hspace
    rcases hspace with rfl | ⟨-, hlast⟩
    · exact absurd hdigit (by decide)
    · omega
  · exact absurd hspace (by decide)

theorem isBareInside_portPart (port : Option Int) : IsBareInside (portPart port).value :=
  isBareInside_intText _

theorem isBareInside_timeoutPart (timeout : Int) : IsBareInside (timeoutPart timeout).value :=
  isBareInside_intText timeout

theorem meant_textPart (keyword : String) (v : Option String) :
    (textPart keyword v).meant = none ∨
      (textPart keyword v).meant = some (textPart keyword v).value := by
  cases v
  · exact .inl rfl
  · exact .inr rfl

/-- Whether a letter is in no wrongly written part. -/
def IsFree (c : Char) (q : Part) : Prop :=
  q.meant ≠ some q.value → c ∉ q.keyword ∧ c ∉ q.value ∧ ∀ v ∈ q.meant, c ∉ v

theorem isFree_of_meant {c : Char} {q : Part} (h : q.meant = some q.value) : IsFree c q :=
  fun hne => absurd h hne

theorem isFree_textPart {c : Char} {keyword : String} (hkeyword : c ∉ keyword.toList)
    (hword : c ∉ "None".toList) (v : Option String) : IsFree c (textPart keyword v) := by
  cases v with
  | none => exact fun _ => ⟨hkeyword, hword, nofun⟩
  | some v => exact isFree_of_meant rfl

theorem isFree_portPart {c : Char} (hkeyword : c ∉ "port".toList)
    (hdigit : Number.isDigit c = false) (hminus : c ≠ '-') (port : Option Int) :
    IsFree c (portPart port) := by
  refine fun _ => ⟨hkeyword, not_mem_intText hdigit hminus _, ?_⟩
  rintro v ⟨⟩
  exact not_mem_intText hdigit hminus _

theorem forall_mem_parts {P : Part → Prop} : (∀ q ∈ p.parts, P q) ↔
    P (textPart "host" p.host) ∧ P (portPart p.port) ∧ P (textPart "dbname" p.database) ∧
      P (textPart "user" p.user) ∧ P (textPart "password" p.password) ∧
      P (timeoutPart p.timeout) ∧ P (textPart "sslmode" p.sslMode) := by
  simp only [parts, List.forall_mem_cons, List.not_mem_nil, false_implies, implies_true, and_true]

/-- Every keyword of a text has a letter of its own. -/
theorem apart_parts (known : Keywords) (p : ServerParts) : Apart known p.parts where
  nodup := by
    show (["host".toList, "port".toList, "dbname".toList, "user".toList, "password".toList,
      "connect_timeout".toList, "sslmode".toList]).Nodup
    decide
  isKnown := by
    have hown : ∀ q ∈ p.parts, q.keyword ∈ ownKeywords := by
      refine (forall_mem_parts (P := fun q => q.keyword ∈ ownKeywords)).2
        ⟨(?_ : "host".toList ∈ ownKeywords), (?_ : "port".toList ∈ ownKeywords),
          (?_ : "dbname".toList ∈ ownKeywords), (?_ : "user".toList ∈ ownKeywords),
          (?_ : "password".toList ∈ ownKeywords), (?_ : "connect_timeout".toList ∈ ownKeywords),
          (?_ : "sslmode".toList ∈ ownKeywords)⟩
      all_goals decide
    exact fun q hq => known.known_own _ (hown q hq)
  bare := forall_mem_parts.2
    ⟨.inr (meant_textPart _ _), .inl (isBareInside_portPart _), .inr (meant_textPart _ _),
      .inr (meant_textPart _ _), .inr (meant_textPart _ _), .inl (isBareInside_timeoutPart _),
      .inr (meant_textPart _ _)⟩
  letter := by
    have htext : ∀ {c : Char} {keyword : String}, c ∉ keyword.toList → c ∉ "None".toList →
        ∀ v, IsFree c (textPart keyword v) := isFree_textPart
    have hport : ∀ {c : Char}, c ∉ "port".toList → Number.isDigit c = false → c ≠ '-' →
        IsFree c (portPart p.port) := fun hk hd hm => isFree_portPart hk hd hm _
    have htimeout : ∀ {c : Char}, IsFree c (timeoutPart p.timeout) := isFree_of_meant rfl
    refine forall_mem_parts.2 ⟨
      fun hmeant _ => ⟨'h', (by decide : 'h' ∈ "host".toList), forall_mem_parts.2 ?_⟩,
      fun _ hnot => absurd (isBareInside_portPart _) hnot,
      fun hmeant _ => ⟨'b', (by decide : 'b' ∈ "dbname".toList), forall_mem_parts.2 ?_⟩,
      fun hmeant _ => ⟨'u', (by decide : 'u' ∈ "user".toList), forall_mem_parts.2 ?_⟩,
      fun hmeant _ => ⟨'w', (by decide : 'w' ∈ "password".toList), forall_mem_parts.2 ?_⟩,
      fun _ hnot => absurd (isBareInside_timeoutPart _) hnot,
      fun hmeant _ => ⟨'l', (by decide : 'l' ∈ "sslmode".toList), forall_mem_parts.2 ?_⟩⟩
    · exact ⟨isFree_of_meant hmeant, hport (by decide) (by decide) (by decide),
        htext (by decide) (by decide) _, htext (by decide) (by decide) _,
        htext (by decide) (by decide) _, htimeout, htext (by decide) (by decide) _⟩
    · exact ⟨htext (by decide) (by decide) _, hport (by decide) (by decide) (by decide),
        isFree_of_meant hmeant, htext (by decide) (by decide) _,
        htext (by decide) (by decide) _, htimeout, htext (by decide) (by decide) _⟩
    · exact ⟨htext (by decide) (by decide) _, hport (by decide) (by decide) (by decide),
        htext (by decide) (by decide) _, isFree_of_meant hmeant,
        htext (by decide) (by decide) _, htimeout, htext (by decide) (by decide) _⟩
    · exact ⟨htext (by decide) (by decide) _, hport (by decide) (by decide) (by decide),
        htext (by decide) (by decide) _, htext (by decide) (by decide) _,
        isFree_of_meant hmeant, htimeout, htext (by decide) (by decide) _⟩
    · exact ⟨htext (by decide) (by decide) _, hport (by decide) (by decide) (by decide),
        htext (by decide) (by decide) _, htext (by decide) (by decide) _,
        htext (by decide) (by decide) _, htimeout, isFree_of_meant hmeant⟩

theorem meant_textPart_iff {keyword : String} {v : Option String} :
    (textPart keyword v).meant = some (textPart keyword v).value ↔ ∃ s, v = some s := by
  cases v with
  | none => exact ⟨nofun, nofun⟩
  | some s => exact ⟨fun _ => ⟨s, rfl⟩, fun _ => rfl⟩

theorem meant_portPart_iff {port : Option Int} :
    (portPart port).meant = some (portPart port).value ↔ port ≠ some 0 := by
  cases port with
  | none => exact ⟨fun _ => nofun, fun _ => rfl⟩
  | some n =>
    by_cases hn : n = 0
    · subst hn
      refine ⟨fun h => ?_, fun h => absurd rfl h⟩
      have hsame : (Number.intText 0).toList = (Number.intText 5432).toList := Option.some.inj h
      have hdigits : Number.natChars 0 = Number.natChars 5432 := by
        simpa [Number.intText, Number.natText] using hsame
      exact absurd (Number.natChars_injective hdigits) (by decide)
    · simp [portPart, hn]

theorem isPlain_iff (keyword : String) {v : Option String} :
    (textPart keyword v).meant = some (textPart keyword v).value ∧
      IsBareInside (textPart keyword v).value ↔ IsPlain v := by
  cases v with
  | none => exact ⟨fun h => (nomatch h.1), nofun⟩
  | some s =>
    refine ⟨fun h => ⟨s, rfl, h.2⟩, ?_⟩
    rintro ⟨s, ⟨⟩, hbare⟩
    exact ⟨rfl, hbare⟩

/-- The parts are written as they are meant, and can stand bare, exactly when they are plain. -/
theorem plain_iff : ((∀ q ∈ p.parts, q.meant = some q.value) ∧
    AllBare (Part.settings p.parts)) ↔ p.Plain := by
  rw [forall_mem_parts (P := fun q => q.meant = some q.value)]
  constructor
  · rintro ⟨⟨hhost, hport, hdatabase, huser, hpassword, -, hmode⟩, hbare⟩
    obtain ⟨hhost', -, hdatabase', huser', hpassword', -, hmode'⟩ := hbare
    obtain ⟨s, hs⟩ := meant_textPart_iff.1 hmode
    refine ⟨(isPlain_iff _).1 ⟨hhost, hhost'⟩, meant_portPart_iff.1 hport,
      (isPlain_iff _).1 ⟨hdatabase, hdatabase'⟩, (isPlain_iff _).1 ⟨huser, huser'⟩,
      (isPlain_iff _).1 ⟨hpassword, hpassword'⟩, s, hs, ?_⟩
    rw [hs] at hmode'
    exact hmode'
  · rintro ⟨hhost, hport, hdatabase, huser, hpassword, s, hs, hmode⟩
    obtain ⟨hhost, hhost'⟩ := (isPlain_iff "host").2 hhost
    obtain ⟨hdatabase, hdatabase'⟩ := (isPlain_iff "dbname").2 hdatabase
    obtain ⟨huser, huser'⟩ := (isPlain_iff "user").2 huser
    obtain ⟨hpassword, hpassword'⟩ := (isPlain_iff "password").2 hpassword
    have hlast : (textPart "sslmode" p.sslMode).meant =
        some (textPart "sslmode" p.sslMode).value ∧
          IsBare (textPart "sslmode" p.sslMode).value := by
      rw [hs]
      exact ⟨rfl, hmode⟩
    exact ⟨⟨hhost, meant_portPart_iff.2 hport, hdatabase, huser, hpassword, rfl, hlast.1⟩, hhost',
      isBareInside_portPart _, hdatabase', huser', hpassword', isBareInside_timeoutPart _, hlast.2⟩

theorem plain_ofText? (v : Option String) :
    (DatabaseEntry.ofText? v).plain = v.getD "None" := by
  cases v <;> rfl

theorem exists_port (port : Option Int) :
    ∃ chosen, ((port.map Value.int).getD .none).orElse (.int 5432) = .ok chosen ∧
      chosen.plain.toList = (portPart port).value := by
  cases port with
  | none => exact ⟨.int 5432, rfl, rfl⟩
  | some n =>
    by_cases hn : n = 0
    · subst hn
      exact ⟨.int 5432, rfl, rfl⟩
    · refine ⟨.int n, ?_, ?_⟩
      · show (if (n != 0) = true then Except.ok (Value.int n) else .ok (.int 5432)) = _
        rw [if_pos (bne_iff_ne.2 hn)]
      · simp [portPart, hn]
        rfl

theorem exists_truth_port (port : Option Int) :
    ∃ told, ((port.map Value.int).getD .none).truth = .ok told := by
  cases port <;> exact ⟨_, rfl⟩

/-- The text that the parts are written into. -/
theorem exists_partsText (h : p.Describes e) {options : Value} {entries : Value.Entries}
    (hentries : options.entries? = some entries)
    (hmode : entries.getD "sslmode" (.text "prefer") = DatabaseEntry.ofText? p.sslMode) :
    ∃ text : String, (∀ c : Connector, c.entry = e → c.options = options →
        c.timeout = .int p.timeout → c.partsText = .ok text) ∧
      text.toList = written (Part.settings p.parts) := by
  obtain ⟨port, hport, hwritten⟩ := exists_port p.port
  have hoption : Connector.option options "sslmode" (.text "prefer") =
      .ok (DatabaseEntry.ofText? p.sslMode) := by
    rw [Connector.option, hentries, ← hmode]
  rw [← h.port] at hport
  have htext : ∀ c : Connector, c.entry = e → c.options = options →
      c.timeout = .int p.timeout → c.partsText = .ok ("host=" ++ p.host.getD "None" ++
        " port=" ++ port.plain ++ " dbname=" ++ p.database.getD "None" ++ " user=" ++
        p.user.getD "None" ++ " password=" ++ p.password.getD "None" ++ " connect_timeout=" ++
        (Value.int p.timeout).plain ++ " sslmode=" ++ p.sslMode.getD "None") := by
    rintro c rfl rfl htimeout
    unfold Connector.partsText
    rw [hoption, except_ok_bind]
    dsimp only
    rw [hport, except_ok_bind, h.host, h.database, h.user, h.password, htimeout]
    simp only [plain_ofText?]
    rfl
  refine ⟨_, htext, ?_⟩
  simp only [String.toList_append, List.append_assoc, hwritten]
  rfl

/-- The text that the parts are written into is handed over. -/
theorem exists_handsOver (h : p.Describes e) {before : Activity}
    (hready : Connector.Ready before p.timeout) (opens : Connection) :
    ∃ text, Connector.HandsOver opens e before text ∧
      text.toList = written (Part.settings p.parts) := by
  obtain ⟨options, entries, htakes, hentries, hmode⟩ := h.options
  obtain ⟨text, htext, hwritten⟩ := exists_partsText h hentries hmode
  refine ⟨text, Connector.handsOver_of_openText htakes hready fun c hentry hoptions htimeout => ?_,
    hwritten⟩
  exact Connector.openText_of_parts (hentry ▸ h.dsn) (htext c hentry hoptions htimeout) _

/-- Connecting to a database that is given by parts hands the driver one text.  The text denotes the
parts, and is read as them and nothing else, exactly when they are plain: all of them are given, the
port is not zero, and all can stand bare. -/
theorem denoted_iff_plain (known : Keywords) (h : p.Describes e) {before : Activity}
    (hready : Connector.Ready before p.timeout) (opens : Connection) :
    ∃ text, Connector.HandsOver opens e before text ∧
      (Denotes known text.toList p.intended ↔ p.Plain) ∧
      (settings? known text.toList = some p.intended ↔ p.Plain) := by
  obtain ⟨text, hover, hwritten⟩ := exists_handsOver h hready opens
  refine ⟨text, hover, ?_, ?_⟩
  · rw [hwritten, ← intended_parts, denotes_written_iff (apart_parts known p), plain_iff]
  · rw [hwritten, ← intended_parts, settings?_written_intended_iff (apart_parts known p), plain_iff]

/-- Parts that are given by an entry with a type. -/
def entryOf (p : ServerParts) : DatabaseEntry :=
  { type := .text "PostgreSQL", host := DatabaseEntry.ofText? p.host
    port := (p.port.map Value.int).getD .none, database := DatabaseEntry.ofText? p.database
    user := DatabaseEntry.ofText? p.user, password := DatabaseEntry.ofText? p.password
    options := .dict [(.text "sslmode", DatabaseEntry.ofText? p.sslMode)] }

/-- The settings in force give the seconds to wait. -/
def waiting (timeout : Int) : Activity :=
  { replacement := some { serial := 0, settings := { connectTimeout := .int timeout } } }

theorem ready_waiting (timeout : Int) : Connector.Ready (waiting timeout) timeout :=
  ⟨_, _, rfl, rfl, rfl⟩

theorem describes_entryOf (p : ServerParts) : p.Describes (entryOf p) where
  dsn := rfl
  host := rfl
  port := rfl
  database := rfl
  user := rfl
  password := rfl
  options := by
    have habsent : Value.Entries.get? [(.text "sslmode", DatabaseEntry.ofText? p.sslMode)]
        "autocommit" = none := by
      rw [Value.Entries.get?_cons, Value.sameKey_text_text]
      rfl
    refine ⟨_, _, ⟨⟨_, rfl, by decide⟩, ?_, rfl, true, ?_⟩, rfl, rfl⟩
    · exact exists_truth_port p.port
    · exact Connector.autocommitOf_of_absent rfl habsent

/-- Plain parts without a port are read back; the password may hold an equals sign and a quote. -/
theorem denoted_plain_parts :
    let p : ServerParts :=
      { host := some "h", port := none, database := some "d", user := some "u"
        password := some "a=b'c", timeout := 40, sslMode := some "require" }
    p.Describes (entryOf p) ∧ Connector.Ready (waiting 40) p.timeout ∧ p.Plain ∧
      ∃ text, Connector.HandsOver {} (entryOf p) (waiting 40) text ∧
        settings? .documented text.toList = some p.intended := by
  intro p
  have hplain : p.Plain :=
    { host := ⟨"h", rfl, by decide⟩, port := nofun, database := ⟨"d", rfl, by decide⟩
      user := ⟨"u", rfl, by decide⟩, password := ⟨"a=b'c", rfl, by decide⟩
      sslMode := ⟨"require", rfl, by decide⟩ }
  obtain ⟨text, hover, -, hread⟩ :=
    denoted_iff_plain .documented (describes_entryOf p) (ready_waiting 40) {}
  exact ⟨describes_entryOf p, ready_waiting 40, hplain, text, hover, hread.2 hplain⟩

/-- A password that holds a space is not carried: the text does not denote the parts. -/
theorem password_with_space_lost :
    let p : ServerParts :=
      { host := some "h", port := none, database := some "d", user := some "u"
        password := some "a b", timeout := 40, sslMode := some "prefer" }
    p.Describes (entryOf p) ∧ ∃ text, Connector.HandsOver {} (entryOf p) (waiting 40) text ∧
      ¬ Denotes .documented text.toList p.intended := by
  intro p
  obtain ⟨text, hover, hwritten⟩ := exists_handsOver (describes_entryOf p) (ready_waiting 40) {}
  refine ⟨describes_entryOf p, text, hover, fun hdenotes => ?_⟩
  rw [hwritten, ← intended_parts, denotes_written_iff (apart_parts _ p), plain_iff] at hdenotes
  obtain ⟨s, hs, -, hbare, -⟩ := hdenotes.password
  cases hs
  exact absurd (hbare ' ' (by decide)).1 (by decide)

end ServerParts
end BoundUpdate
