import BoundUpdate.Proofs.Text.Cutting
import Mathlib.Data.List.Sublists

namespace BoundUpdate

/-!
# Connection texts

A connection text holds settings, each a keyword, an equals sign and a value, with
white space between them.  A value ends at white space, unless it stands in single
quotes; a backslash takes the next character as it is.  A text with an unknown
keyword, without an equals sign behind a keyword or without a closing quote is
refused.

Settings that are written one behind another, their values as they are, are read
back exactly when every value can stand bare.  Otherwise the first value that
cannot is misread, and every letter of the text is still found in some setting.
-/

/-- A keyword and a value. -/
abbrev Setting := List Char × List Char

namespace ConnectionText

/-- Whether a character is white space between settings. -/
def isSpace (c : Char) : Bool := c == ' ' || (0x9 ≤ c.toNat && c.toNat ≤ 0xD)

/-- Whether a character may stand in a keyword: a small letter or a low line. -/
def isKeywordChar (c : Char) : Bool := ('a' ≤ c && c ≤ 'z') || c == '_'

/-- Whether a character means nothing to the reading but itself. -/
def isOrdinary (c : Char) : Bool := !isSpace c && c != '=' && c != '\'' && c != '\\'

/-- The keywords of the parts that a connection is opened with. -/
def ownKeywords : List (List Char) :=
  ["host", "port", "dbname", "user", "password", "connect_timeout", "sslmode"].map String.toList

/-- The keywords that the reader of a connection text knows. -/
structure Keywords where
  known : List Char → Bool
  known_word : ∀ k, known k = true → k ≠ [] ∧ ∀ c ∈ k, isKeywordChar c = true
  known_own : ∀ k ∈ ownKeywords, known k = true

/-- The keywords that are documented for connection texts. -/
def documentedKeywords : List (List Char) :=
  ["host", "hostaddr", "port", "dbname", "user", "password", "passfile", "require_auth",
    "channel_binding", "connect_timeout", "client_encoding", "options", "application_name",
    "fallback_application_name", "keepalives", "keepalives_idle", "keepalives_interval",
    "keepalives_count", "tcp_user_timeout", "replication", "gssencmode", "sslmode", "requiressl",
    "sslcompression", "sslcert", "sslkey", "sslpassword", "sslcertmode", "sslrootcert", "sslcrl",
    "sslcrldir", "sslsni", "requirepeer", "ssl_min_protocol_version", "ssl_max_protocol_version",
    "krbsrvname", "gsslib", "gssdelegation", "service", "target_session_attrs",
    "load_balance_hosts"].map String.toList

namespace Keywords

/-- The reader that knows the documented keywords. -/
def documented : Keywords where
  known k := documentedKeywords.contains k
  known_word := by
    have hall : ∀ k ∈ documentedKeywords, k ≠ [] ∧ k.all isKeywordChar = true := by
      decide +kernel
    intro k hk
    obtain ⟨hne, hchars⟩ := hall k (List.contains_iff_mem.1 hk)
    exact ⟨hne, List.all_eq_true.1 hchars⟩
  known_own := by decide +kernel

end Keywords

/-! ## Reading -/

/-- What a connection text has been read up to. -/
inductive Progress where
  /-- No setting is begun. -/
  | between
  | keyword (k : List Char)
  /-- White space stands behind the keyword. -/
  | named (k : List Char)
  /-- The equals sign stands behind the keyword. -/
  | assigned (k : List Char)
  | bare (k v : List Char)
  | bareEscape (k v : List Char)
  | quoted (k v : List Char)
  | quotedEscape (k v : List Char)

namespace Progress

/-- A keyword must be known when the equals sign comes. -/
def assign (known : Keywords) (k : List Char) : Option (Progress × List Setting) :=
  if known.known k then some (.assigned k, []) else none

/-- A character of a value without quotes. -/
def bareNext (k v : List Char) (c : Char) : Progress :=
  if c = '\\' then .bareEscape k v else .bare k (v ++ [c])

/-- Read one character; a setting whose value has ended is given. -/
def step (known : Keywords) (c : Char) : Progress → Option (Progress × List Setting)
  | .between =>
    if isSpace c then some (.between, []) else if c = '=' then none else some (.keyword [c], [])
  | .keyword k =>
    if c = '=' then assign known k
    else if isSpace c then some (.named k, []) else some (.keyword (k ++ [c]), [])
  | .named k =>
    if c = '=' then assign known k else if isSpace c then some (.named k, []) else none
  | .assigned k =>
    if isSpace c then some (.assigned k, [])
    else if c = '\'' then some (.quoted k [], []) else some (bareNext k [] c, [])
  | .bare k v =>
    if isSpace c then some (.between, [(k, v)]) else some (bareNext k v c, [])
  | .bareEscape k v => some (.bare k (v ++ [c]), [])
  | .quoted k v =>
    if c = '\'' then some (.between, [(k, v)])
    else if c = '\\' then some (.quotedEscape k v, []) else some (.quoted k (v ++ [c]), [])
  | .quotedEscape k v => some (.quoted k (v ++ [c]), [])

/-- The text ends. -/
def finish : Progress → Option (List Setting)
  | .between => some []
  | .assigned k => some [(k, [])]
  | .bare k v => some [(k, v)]
  | .bareEscape k v => some [(k, v)]
  | _ => none

/-- Read some characters. -/
def run (known : Keywords) : Progress → List Char → Option (Progress × List Setting)
  | m, [] => some (m, [])
  | m, c :: rest =>
    (m.step known c).bind fun (next, given) =>
      (run known next rest).map fun (last, more) => (last, given ++ more)

end Progress

open Progress

/-- The settings that are read from a point on. -/
def readFrom (known : Keywords) (m : Progress) (text : List Char) : Option (List Setting) :=
  (m.run known text).bind fun (last, given) => last.finish.map (given ++ ·)

/-- The settings of a connection text, in order. -/
def settings? (known : Keywords) (text : List Char) : Option (List Setting) :=
  readFrom known .between text

/-- The value of a keyword: the last one wins. -/
def valueOf? (settings : List Setting) (k : List Char) : Option (List Char) :=
  settings.reverse.lookup k

/-! ## Writing -/

/-- A setting with its value as it is. -/
def assignment (s : Setting) : List Char := s.1 ++ '=' :: s.2

/-- Settings one behind another, with a space between them. -/
def written (settings : List Setting) : List Char := Text.join ' ' (settings.map assignment)

/-- Whether a value that stands bare is read as it is: it holds no white space and no backslash, and
it does not start with a quote. -/
def IsBare (v : List Char) : Prop :=
  (∀ c ∈ v, isSpace c = false ∧ c ≠ '\\') ∧ ∀ c ∈ v.head?, c ≠ '\''

/-- Whether a value is read as it is in front of another setting: it must not be empty, too. -/
def IsBareInside (v : List Char) : Prop := v ≠ [] ∧ IsBare v

/-- Whether all values are read as they are where they stand. -/
def AllBare : List Setting → Prop
  | [] => True
  | [s] => IsBare s.2
  | s :: rest => IsBareInside s.2 ∧ AllBare rest

instance (v : List Char) : Decidable (IsBare v) :=
  @instDecidableAnd _ _ (List.decidableBAll _ v) (Option.decidableForallMem v.head?)

instance (v : List Char) : Decidable (IsBareInside v) := inferInstanceAs (Decidable (_ ∧ _))

/-! ## Runs -/

section Runs

variable {known : Keywords} {m next last : Progress} {c : Char} {k v w text : List Char}
  {given more found : List Setting}

theorem run_cons (h : m.step known c = some (next, given)) (text : List Char) :
    m.run known (c :: text) =
      (next.run known text).map fun (last, more) => (last, given ++ more) := by
  rw [run, h]
  rfl

theorem exists_of_run_cons (h : m.run known (c :: text) = some (last, given)) :
    ∃ next first more, m.step known c = some (next, first) ∧
      next.run known text = some (last, more) ∧ given = first ++ more := by
  rw [run] at h
  obtain ⟨⟨next, first⟩, hstep, hrest⟩ := Option.bind_eq_some_iff.1 h
  obtain ⟨⟨stop, more⟩, hrun, hpair⟩ := Option.map_eq_some_iff.1 hrest
  cases hpair
  exact ⟨next, first, more, hstep, hrun, rfl⟩

/-- What is read on is given behind what was given before. -/
theorem run_append (known : Keywords) (m : Progress) (front text : List Char) :
    m.run known (front ++ text) = (m.run known front).bind fun (next, given) =>
      (next.run known text).map fun (last, more) => (last, given ++ more) := by
  induction front generalizing m with
  | nil =>
    show m.run known text = (m.run known text).map fun (last, more) => (last, [] ++ more)
    simp
  | cons c front ih =>
    rw [List.cons_append, run, run]
    cases m.step known c with
    | none => rfl
    | some next =>
      simp only [Option.bind_some, ih, Option.map_bind, Option.bind_map]
      cases next.1.run known front with
      | none => rfl
      | some stop => simp [Option.map_map, Function.comp_def]

theorem readFrom_append (h : m.run known v = some (next, given)) (text : List Char) :
    readFrom known m (v ++ text) = (readFrom known next text).map (given ++ ·) := by
  rw [readFrom, readFrom, run_append, h, Option.bind_some]
  dsimp only
  cases next.run known text with
  | none => rfl
  | some after => cases hfinish : after.1.finish <;> simp [hfinish]

theorem readFrom_append_nil (h : m.run known v = some (next, [])) (text : List Char) :
    readFrom known m (v ++ text) = readFrom known next text := by
  rw [readFrom_append h]
  cases readFrom known next text <;> rfl

theorem exists_of_readFrom (h : readFrom known m text = some found) :
    ∃ last given rest, m.run known text = some (last, given) ∧ last.finish = some rest ∧
      found = given ++ rest := by
  obtain ⟨⟨last, given⟩, hrun, hrest⟩ := Option.bind_eq_some_iff.1 h
  obtain ⟨rest, hfinish, heq⟩ := Option.map_eq_some_iff.1 hrest
  exact ⟨last, given, rest, hrun, hfinish, heq.symm⟩

end Runs

/-! ## Reading what was written -/

section Written

variable {known : Keywords} {c : Char} {k v w : List Char} {settings : List Setting}

theorem isOrdinary_iff :
    isOrdinary c = true ↔ isSpace c = false ∧ c ≠ '=' ∧ c ≠ '\'' ∧ c ≠ '\\' := by
  simp [isOrdinary, and_assoc]

theorem isOrdinary_of_isKeywordChar (h : isKeywordChar c = true) : isOrdinary c = true := by
  simp only [isKeywordChar, Bool.or_eq_true, Bool.and_eq_true, decide_eq_true_eq, beq_iff_eq,
    Char.le_def, UInt32.le_iff_toNat_le] at h
  rcases h with ⟨hfirst, -⟩ | rfl
  · have hcode : 97 ≤ c.toNat := hfirst
    have hne : ∀ d : Char, d.toNat < 97 → c ≠ d := by
      rintro d hd rfl
      omega
    have hspace : isSpace c = false := by
      simp only [isSpace, Bool.or_eq_false_iff, beq_eq_false_iff_ne, Bool.and_eq_false_iff,
        decide_eq_false_iff_not]
      exact ⟨hne ' ' (by decide), .inr (by omega)⟩
    exact isOrdinary_iff.2
      ⟨hspace, hne '=' (by decide), hne '\'' (by decide), hne '\\' (by decide)⟩
  · decide

theorem run_keyword (h : ∀ c ∈ v, isKeywordChar c = true) :
    (Progress.keyword k).run known v = some (.keyword (k ++ v), []) := by
  induction v generalizing k with
  | nil => rw [List.append_nil]; rfl
  | cons c v ih =>
    obtain ⟨hc, hrest⟩ := List.forall_mem_cons.1 h
    obtain ⟨hspace, hequals, -⟩ := isOrdinary_iff.1 (isOrdinary_of_isKeywordChar hc)
    have hstep : (Progress.keyword k).step known c = some (.keyword (k ++ [c]), []) := by
      rw [step, if_neg hequals, hspace, if_neg Bool.false_ne_true]
    rw [run_cons hstep, ih hrest, List.append_assoc]
    rfl

/-- A known keyword with its equals sign is read. -/
theorem run_assignment (h : known.known k = true) :
    Progress.between.run known (k ++ ['=']) = some (.assigned k, []) := by
  obtain ⟨hne, hword⟩ := known.known_word k h
  obtain ⟨c, rest, rfl⟩ := List.exists_cons_of_ne_nil hne
  obtain ⟨hc, hrest⟩ := List.forall_mem_cons.1 hword
  obtain ⟨hspace, hequals, -⟩ := isOrdinary_iff.1 (isOrdinary_of_isKeywordChar hc)
  have hfirst : Progress.between.step known c = some (.keyword [c], []) := by
    rw [step, hspace, if_neg Bool.false_ne_true, if_neg hequals]
  have hlast : (Progress.keyword (c :: rest)).step known '=' =
      some (.assigned (c :: rest), []) := by
    rw [step, if_pos rfl, assign, if_pos h]
  rw [List.cons_append, run_cons hfirst, run_append, run_keyword hrest, Option.bind_some]
  dsimp only
  rw [List.singleton_append, run_cons hlast]
  rfl

theorem run_bare (h : ∀ c ∈ v, isSpace c = false ∧ c ≠ '\\') :
    (Progress.bare k w).run known v = some (.bare k (w ++ v), []) := by
  induction v generalizing w with
  | nil => rw [List.append_nil]; rfl
  | cons c v ih =>
    obtain ⟨⟨hspace, hescape⟩, hrest⟩ := List.forall_mem_cons.1 h
    have hstep : (Progress.bare k w).step known c = some (.bare k (w ++ [c]), []) := by
      rw [step, hspace, if_neg Bool.false_ne_true, bareNext, if_neg hescape]
    rw [run_cons hstep, ih hrest, List.append_assoc]
    rfl

theorem run_assigned (h : IsBareInside v) :
    (Progress.assigned k).run known v = some (.bare k v, []) := by
  obtain ⟨hne, hall, hhead⟩ := h
  obtain ⟨c, rest, rfl⟩ := List.exists_cons_of_ne_nil hne
  obtain ⟨⟨hspace, hescape⟩, hrest⟩ := List.forall_mem_cons.1 hall
  have hstep : (Progress.assigned k).step known c = some (.bare k [c], []) := by
    rw [step, hspace, if_neg Bool.false_ne_true, if_neg (hhead c rfl), bareNext, if_neg hescape,
      List.nil_append]
  rw [run_cons hstep, run_bare hrest]
  rfl

/-- A value that ends the text. -/
theorem readFrom_assigned_last (h : IsBare v) :
    readFrom known (.assigned k) v = some [(k, v)] := by
  cases v with
  | nil => rfl
  | cons c v =>
    rw [readFrom, run_assigned ⟨List.cons_ne_nil c v, h⟩]
    rfl

/-- A value in front of a space. -/
theorem readFrom_assigned_inside (h : IsBareInside v) (rest : List Char) :
    readFrom known (.assigned k) (v ++ ' ' :: rest) =
      (readFrom known .between rest).map ((k, v) :: ·) := by
  have hspace : (Progress.bare k v).run known [' '] = some (.between, [(k, v)]) := rfl
  rw [readFrom_append_nil (run_assigned h), ← List.singleton_append, readFrom_append hspace]
  rfl

theorem readFrom_assignment (h : known.known k = true) (text : List Char) :
    readFrom known .between (k ++ '=' :: text) = readFrom known (.assigned k) text := by
  rw [← List.singleton_append, ← List.append_assoc, readFrom_append_nil (run_assignment h)]

theorem written_singleton (s : Setting) : written [s] = s.1 ++ '=' :: s.2 := rfl

theorem written_cons_cons (s other : Setting) (rest : List Setting) :
    written (s :: other :: rest) = s.1 ++ '=' :: (s.2 ++ ' ' :: written (other :: rest)) := by
  show assignment s ++ ' ' :: written (other :: rest) = _
  rw [assignment, List.append_assoc, List.cons_append]

/-- Settings whose values can stand bare are read back. -/
theorem settings?_written (hknown : ∀ s ∈ settings, known.known s.1 = true)
    (h : AllBare settings) : settings? known (written settings) = some settings := by
  induction settings with
  | nil => rfl
  | cons s rest ih =>
    obtain ⟨hs, hrest⟩ := List.forall_mem_cons.1 hknown
    cases rest with
    | nil =>
      rw [written_singleton, settings?, readFrom_assignment hs]
      exact readFrom_assigned_last h
    | cons other rest =>
      obtain ⟨hbare, hall⟩ := h
      have hread : readFrom known .between (written (other :: rest)) = some (other :: rest) :=
        ih hrest hall
      rw [written_cons_cons, settings?, readFrom_assignment hs, readFrom_assigned_inside hbare,
        hread]
      rfl

end Written

/-! ## What is kept -/

theorem not_isOrdinary_of_isSpace {c : Char} (h : isSpace c = true) : isOrdinary c = false := by
  rw [isOrdinary, h]
  rfl

namespace Progress

/-- The setting that is begun, as far as it is read. -/
def content : Progress → Setting
  | .between => ([], [])
  | .keyword k => (k, [])
  | .named k => (k, [])
  | .assigned k => (k, [])
  | .bare k v => (k, v)
  | .bareEscape k v => (k, v)
  | .quoted k v => (k, v)
  | .quotedEscape k v => (k, v)

/-- Whether the equals sign of the setting is read. -/
def isAssigned : Progress → Bool
  | .between => false
  | .keyword _ => false
  | .named _ => false
  | _ => true

/-- What a step does with a character: it means something to the reading and is left out, and it may
end the setting; or it goes on the keyword or on the value. -/
inductive Moves (c : Char) (m : Progress) : Progress → List Setting → Prop
  | skip {next : Progress} : isOrdinary c = false → next.content = m.content →
      (m.isAssigned = true → next.isAssigned = true) → Moves c m next []
  | close : isOrdinary c = false → Moves c m .between [m.content]
  | keyword {next : Progress} : m.isAssigned = false →
      next.content = (m.content.1 ++ [c], m.content.2) → Moves c m next []
  | value {next : Progress} : next.isAssigned = true →
      next.content = (m.content.1, m.content.2 ++ [c]) → Moves c m next []

end Progress

section Kept

variable {known : Keywords} {m next last : Progress} {c d : Char} {k v w text : List Char}
  {given found : List Setting}

theorem moves_assign (hm : m.content = (k, [])) (h : assign known k = some (next, given)) :
    Moves '=' m next given := by
  unfold assign at h
  split at h
  · cases h
    exact .skip rfl hm.symm fun _ => rfl
  · cases h

theorem moves_bareNext (hm : m.content = (k, v)) : Moves c m (bareNext k v c) [] := by
  unfold bareNext
  split
  case isTrue heq =>
    subst heq
    exact .skip rfl hm.symm fun _ => rfl
  case isFalse => exact .value rfl (by rw [hm]; rfl)

theorem moves_of_step (h : m.step known c = some (next, given)) : Moves c m next given := by
  cases m with
  | between =>
    rw [step] at h
    split at h
    case isTrue hspace => cases h; exact .skip (not_isOrdinary_of_isSpace hspace) rfl id
    case isFalse =>
      split at h
      · cases h
      · cases h; exact .keyword rfl rfl
  | keyword k =>
    rw [step] at h
    split at h
    case isTrue heq => subst heq; exact moves_assign rfl h
    case isFalse =>
      split at h
      case isTrue hspace => cases h; exact .skip (not_isOrdinary_of_isSpace hspace) rfl id
      case isFalse => cases h; exact .keyword rfl rfl
  | named k =>
    rw [step] at h
    split at h
    case isTrue heq => subst heq; exact moves_assign rfl h
    case isFalse =>
      split at h
      case isTrue hspace => cases h; exact .skip (not_isOrdinary_of_isSpace hspace) rfl id
      case isFalse => cases h
  | assigned k =>
    rw [step] at h
    split at h
    case isTrue hspace => cases h; exact .skip (not_isOrdinary_of_isSpace hspace) rfl id
    case isFalse =>
      split at h
      case isTrue heq => cases h; subst heq; exact .skip rfl rfl fun _ => rfl
      case isFalse => cases h; exact moves_bareNext rfl
  | bare k v =>
    rw [step] at h
    split at h
    case isTrue hspace => cases h; exact .close (not_isOrdinary_of_isSpace hspace)
    case isFalse => cases h; exact moves_bareNext rfl
  | bareEscape k v => cases h; exact .value rfl rfl
  | quoted k v =>
    rw [step] at h
    split at h
    case isTrue heq => cases h; subst heq; exact .close rfl
    case isFalse =>
      split at h
      case isTrue heq => cases h; subst heq; exact .skip rfl rfl fun _ => rfl
      case isFalse => cases h; exact .value rfl rfl
  | quotedEscape k v => cases h; exact .value rfl rfl

/-- How often a character occurs in settings. -/
def tally (c : Char) : List Setting → Nat
  | [] => 0
  | s :: rest => s.1.count c + s.2.count c + tally c rest

theorem tally_cons (c : Char) (s : Setting) (settings : List Setting) :
    tally c (s :: settings) = s.1.count c + s.2.count c + tally c settings := rfl

theorem tally_nil (c : Char) : tally c [] = 0 := rfl

theorem tally_append (c : Char) (settings more : List Setting) :
    tally c (settings ++ more) = tally c settings + tally c more := by
  induction settings with
  | nil => rw [List.nil_append, tally_nil, Nat.zero_add]
  | cons s settings ih =>
    rw [List.cons_append, tally_cons, tally_cons, ih]
    omega

/-- One step loses no ordinary character and adds none. -/
theorem tally_step (hc : isOrdinary c = true) (h : m.step known d = some (next, given)) :
    tally c given + tally c [next.content] = tally c [m.content] + [d].count c := by
  have hother : isOrdinary d = false → [d].count c = 0 := by
    refine fun hd => List.count_eq_zero.2 fun hmem => ?_
    rw [List.mem_singleton.1 hmem, hd] at hc
    cases hc
  cases moves_of_step h with
  | skip hd hcontent =>
    rw [hother hd, hcontent, tally_nil, Nat.zero_add, Nat.add_zero]
  | close hd =>
    rw [hother hd]
    rfl
  | keyword _ hcontent =>
    simp only [hcontent, tally_cons, tally_nil, List.count_append]
    omega
  | value _ hcontent =>
    simp only [hcontent, tally_cons, tally_nil, List.count_append]
    omega

/-- A run loses no ordinary character and adds none. -/
theorem tally_run (hc : isOrdinary c = true) (h : m.run known text = some (last, given)) :
    tally c given + tally c [last.content] = tally c [m.content] + text.count c := by
  induction text generalizing m given with
  | nil =>
    cases h
    exact Nat.zero_add _
  | cons d text ih =>
    obtain ⟨next, first, more, hstep, hrun, rfl⟩ := exists_of_run_cons h
    have hfirst := tally_step hc hstep
    have hmore := ih hrun
    have hcount : (d :: text).count c = [d].count c + text.count c := by
      rw [← List.singleton_append, List.count_append]
    rw [tally_append]
    omega

theorem tally_finish {rest : List Setting} (h : last.finish = some rest) :
    tally c rest = tally c [last.content] := by
  cases last <;> cases h <;> rfl

/-- Every ordinary character of a text that is read is found in its settings. -/
theorem tally_settings? (hc : isOrdinary c = true) (h : settings? known text = some found) :
    tally c found = text.count c := by
  obtain ⟨last, given, rest, hrun, hfinish, rfl⟩ := exists_of_readFrom h
  have hkept := tally_run hc hrun
  rw [tally_append, tally_finish hfinish, hkept]
  exact Nat.zero_add _

end Kept

/-! ## Values read at their own places -/

section Places

variable {known : Keywords} {m next last : Progress} {c : Char} {k v w text rest : List Char}
  {given found settings : List Setting}

/-- Once the equals sign is read, the value takes on characters of the text, in order, until the
setting is given. -/
theorem run_of_isAssigned (hm : m.isAssigned = true) (h : m.run known text = some (last, given)) :
    (given = [] ∧ last.isAssigned = true ∧
      ∃ x, x.Sublist text ∧ last.content = (m.content.1, m.content.2 ++ x)) ∨
    ∃ x more, given = (m.content.1, m.content.2 ++ x) :: more ∧ x.Sublist text ∧
      x.length < text.length := by
  induction text generalizing m given with
  | nil =>
    cases h
    exact .inl ⟨rfl, hm, [], .slnil, by rw [List.append_nil]⟩
  | cons c text ih =>
    obtain ⟨next, first, more, hstep, hrun, rfl⟩ := exists_of_run_cons h
    have hshorter : ∀ {x : List Char}, x.Sublist text → x.length < (c :: text).length :=
      fun hx => Nat.lt_succ_of_le hx.length_le
    cases moves_of_step hstep with
    | skip _ hcontent hnext =>
      rcases ih (hnext hm) hrun with ⟨rfl, hlast, x, hx, hread⟩ | ⟨x, more, rfl, hx, -⟩
      · rw [hcontent] at hread
        exact .inl ⟨rfl, hlast, x, hx.cons c, hread⟩
      · rw [hcontent]
        exact .inr ⟨x, more, rfl, hx.cons c, hshorter hx⟩
    | close =>
      exact .inr ⟨[], more, by rw [List.append_nil]; rfl, List.nil_sublist _, Nat.succ_pos _⟩
    | keyword hnot =>
      rw [hm] at hnot
      cases hnot
    | value hnext hcontent =>
      rcases ih hnext hrun with ⟨rfl, hlast, x, hx, hread⟩ | ⟨x, more, rfl, hx, hlength⟩
      · rw [hcontent] at hread
        refine .inl ⟨rfl, hlast, c :: x, hx.cons_cons c, ?_⟩
        rw [hread, List.append_assoc, List.singleton_append]
      · rw [hcontent]
        refine .inr ⟨c :: x, more, ?_, hx.cons_cons c, Nat.succ_lt_succ hlength⟩
        rw [List.append_assoc, List.singleton_append]
        rfl

theorem eq_of_finish (hlast : last.isAssigned = true) {tail : List Setting}
    (h : last.finish = some tail) : tail = [last.content] := by
  cases last <;> cases h
  case between => cases hlast
  all_goals rfl

theorem readFrom_of_isAssigned (hm : m.isAssigned = true)
    (h : readFrom known m text = some found) :
    ∃ x more, found = (m.content.1, m.content.2 ++ x) :: more := by
  obtain ⟨last, given, tail, hrun, hfinish, rfl⟩ := exists_of_readFrom h
  rcases run_of_isAssigned hm hrun with ⟨rfl, hlast, x, -, hread⟩ | ⟨x, more, rfl, -, -⟩
  · exact ⟨x, [], by rw [← hread]; exact eq_of_finish hlast hfinish⟩
  · exact ⟨x, more ++ tail, rfl⟩

/-- A value that takes on a whole text without quotes takes on nothing that ends or escapes. -/
theorem forall_of_run_bare (h : (Progress.bare k w).run known v = some (last, []))
    (hlast : last.content = (k, w ++ v)) :
    (∀ c ∈ v, isSpace c = false ∧ c ≠ '\\') ∧ last = .bare k (w ++ v) := by
  induction v generalizing w with
  | nil =>
    cases h
    exact ⟨nofun, by rw [List.append_nil]⟩
  | cons c v ih =>
    obtain ⟨next, first, more, hstep, hrun, hnil⟩ := exists_of_run_cons h
    obtain ⟨rfl, rfl⟩ := List.append_eq_nil_iff.1 hnil.symm
    rw [step] at hstep
    split at hstep
    case isTrue => cases hstep
    case isFalse hspace =>
      by_cases hescape : c = '\\'
      · -- the backslash is left out, so what is taken on is shorter than the text
        rw [bareNext, if_pos hescape] at hstep
        cases hstep
        rcases run_of_isAssigned rfl hrun with ⟨-, -, x, hx, hread⟩ | ⟨x, more, hnil, -, -⟩
        · rw [hlast] at hread
          have hvalue := (Prod.mk.inj hread).2
          have hlength := hx.length_le
          rw [content, List.append_cancel_left_eq] at hvalue
          rw [← hvalue, List.length_cons] at hlength
          omega
        · cases hnil
      · rw [bareNext, if_neg hescape] at hstep
        cases hstep
        rw [← List.singleton_append, ← List.append_assoc] at hlast
        obtain ⟨hall, heq⟩ := ih hrun hlast
        refine ⟨List.forall_mem_cons.2 ⟨⟨Bool.eq_false_iff.2 hspace, hescape⟩, hall⟩, ?_⟩
        rw [heq, List.append_assoc, List.singleton_append]

/-- A value that takes on a whole text stands bare. -/
theorem isBare_of_run_assigned (hne : v ≠ [])
    (h : (Progress.assigned k).run known v = some (last, [])) (hlast : last.content = (k, v)) :
    IsBare v ∧ last = .bare k v := by
  obtain ⟨c, rest, rfl⟩ := List.exists_cons_of_ne_nil hne
  obtain ⟨next, first, more, hstep, hrun, hnil⟩ := exists_of_run_cons h
  obtain ⟨rfl, rfl⟩ := List.append_eq_nil_iff.1 hnil.symm
  -- a first character that is left out leaves too little
  have hshort : next.isAssigned = true → next.content = (k, []) → False := by
    intro hnext hcontent
    rcases run_of_isAssigned hnext hrun with ⟨-, -, x, hx, hread⟩ | ⟨x, more, hnil, -, -⟩
    · rw [hlast, hcontent] at hread
      obtain rfl : c :: rest = x := (Prod.mk.inj hread).2
      exact absurd hx.length_le (Nat.not_succ_le_self _)
    · cases hnil
  rw [step] at hstep
  split at hstep
  case isTrue =>
    cases hstep
    exact (hshort rfl rfl).elim
  case isFalse hspace =>
    split at hstep
    case isTrue =>
      cases hstep
      exact (hshort rfl rfl).elim
    case isFalse hquote =>
      by_cases hescape : c = '\\'
      · rw [bareNext, if_pos hescape] at hstep
        cases hstep
        exact (hshort rfl rfl).elim
      · rw [bareNext, if_neg hescape] at hstep
        cases hstep
        obtain ⟨hall, heq⟩ := forall_of_run_bare hrun hlast
        refine ⟨⟨List.forall_mem_cons.2 ⟨⟨Bool.eq_false_iff.2 hspace, hescape⟩, hall⟩, ?_⟩, heq⟩
        intro d hd
        cases hd
        exact hquote

theorem exists_of_readFrom_append (h : readFrom known m (v ++ text) = some found) :
    ∃ next given more, m.run known v = some (next, given) ∧
      readFrom known next text = some more ∧ found = given ++ more := by
  cases hrun : m.run known v with
  | none =>
    rw [readFrom, run_append, hrun] at h
    cases h
  | some stop =>
    rw [readFrom_append hrun] at h
    obtain ⟨more, hmore, heq⟩ := Option.map_eq_some_iff.1 h
    exact ⟨stop.1, stop.2, more, rfl, hmore, heq.symm⟩

/-- Unless a bare value ends there, a space is left out or taken on, and a letter behind it is taken
on. -/
theorem run_space_letter (known : Keywords) {l : Char} (hl : isOrdinary l = true)
    (hm : m.isAssigned = true) (hbare : ∀ k v, m ≠ .bare k v) :
    ∃ next y, m.run known [' ', l] = some (next, []) ∧ next.isAssigned = true ∧
      next.content = (m.content.1, m.content.2 ++ y) ∧ l ∈ y := by
  obtain ⟨hspace, -, hquote, hescape⟩ := isOrdinary_iff.1 hl
  have hnext : ∀ k v, (Progress.quoted k v).step known l = some (.quoted k (v ++ [l]), []) := by
    intro k v
    rw [step, if_neg hquote, if_neg hescape]
  cases m with
  | between => cases hm
  | keyword k => cases hm
  | named k => cases hm
  | assigned k =>
    have hstep : (Progress.assigned k).step known l = some (.bare k [l], []) := by
      rw [step, hspace, if_neg Bool.false_ne_true, if_neg hquote, bareNext, if_neg hescape,
        List.nil_append]
    refine ⟨.bare k [l], [l], ?_, rfl, rfl, List.mem_cons_self⟩
    rw [run_cons rfl, run_cons hstep]
    rfl
  | bare k v => exact absurd rfl (hbare k v)
  | bareEscape k v =>
    have hstep : (Progress.bare k (v ++ [' '])).step known l =
        some (.bare k (v ++ [' '] ++ [l]), []) := by
      rw [step, hspace, if_neg Bool.false_ne_true, bareNext, if_neg hescape]
    refine ⟨.bare k (v ++ [' '] ++ [l]), [' ', l], ?_, rfl, ?_, by simp⟩
    · rw [run_cons rfl, run_cons hstep]
      rfl
    · simp [content]
  | quoted k v =>
    refine ⟨.quoted k (v ++ [' '] ++ [l]), [' ', l], ?_, rfl, by simp [content], by simp⟩
    rw [run_cons rfl, run_cons (hnext _ _)]
    rfl
  | quotedEscape k v =>
    refine ⟨.quoted k (v ++ [' '] ++ [l]), [' ', l], ?_, rfl, by simp [content], by simp⟩
    rw [run_cons rfl, run_cons (hnext _ _)]
    rfl

/-- A value that is read as it is, in front of a space and a letter, can stand there bare. -/
theorem isBareInside_of_readFrom {l : Char} (hl : isOrdinary l = true)
    (h : readFrom known (.assigned k) (v ++ ' ' :: l :: rest) = some ((k, v) :: found)) :
    IsBareInside v := by
  obtain ⟨next, given, more, hrun, hread, hfound⟩ := exists_of_readFrom_append h
  rcases run_of_isAssigned rfl hrun with ⟨rfl, hnext, x, -, hcontent⟩ | ⟨x, more, rfl, -, hlength⟩
  · rw [List.nil_append] at hfound
    subst hfound
    rw [content, List.nil_append] at hcontent
    by_cases hbare : ∃ k v, next = .bare k v
    · -- the space ends what was read so far, and that is all of the value
      obtain ⟨k', w, rfl⟩ := hbare
      have hstep : (Progress.bare k' w).run known [' '] = some (.between, [(k', w)]) := rfl
      rw [← List.singleton_append, readFrom_append hstep] at hread
      obtain ⟨others, -, heq⟩ := Option.map_eq_some_iff.1 hread
      have hsame : (Progress.bare k' w).content = (k, v) := (List.cons.inj heq).1
      have hne : v ≠ [] := by
        rintro rfl
        cases hrun
      exact ⟨hne, (isBare_of_run_assigned hne hrun hsame).1⟩
    · -- the letter is taken on, but all those of the value were taken on before
      obtain ⟨further, y, hletter, hassigned, hvalue, hmem⟩ := run_space_letter known hl
        hnext fun k v heq => hbare ⟨k, v, heq⟩
      have hsplit : ' ' :: l :: rest = [' ', l] ++ rest := rfl
      rw [hsplit, readFrom_append_nil hletter] at hread
      obtain ⟨z, others, heq⟩ := readFrom_of_isAssigned hassigned hread
      have htaken := tally_run hl hrun
      have hbegun : (Progress.assigned k).content = (k, []) := rfl
      rw [hcontent, hbegun] at htaken
      rw [hvalue, hcontent] at heq
      have hsame : v = x ++ y ++ z := (Prod.mk.inj (List.cons.inj heq).1).2
      have hpositive : 0 < y.count l := List.count_pos_iff.2 hmem
      simp only [tally_cons, tally_nil, List.count_nil] at htaken
      have hcount : v.count l = x.count l + y.count l + z.count l := by
        rw [hsame, List.count_append, List.count_append]
      omega
  · cases hfound
    exact absurd hlength (Nat.lt_irrefl _)

/-- A value that is read as it is at the end of the text can stand there bare. -/
theorem isBare_of_readFrom
    (h : readFrom known (.assigned k) v = some ((k, v) :: found)) : IsBare v := by
  by_cases hne : v = []
  · subst hne
    exact ⟨nofun, nofun⟩
  · obtain ⟨last, given, tail, hrun, hfinish, hfound⟩ := exists_of_readFrom h
    rcases run_of_isAssigned rfl hrun with ⟨rfl, hlast, x, -, -⟩ | ⟨x, more, rfl, -, hlength⟩
    · rw [eq_of_finish hlast hfinish] at hfound
      exact (isBare_of_run_assigned hne hrun (List.cons.inj hfound).1.symm).1
    · cases hfound
      exact absurd hlength (Nat.lt_irrefl _)

end Places

/-! ## Misreading -/

section Misreading

variable {known : Keywords} {settings found : List Setting}

theorem exists_written_cons {s : Setting} (hs : known.known s.1 = true) (rest : List Setting) :
    ∃ l text, isOrdinary l = true ∧ written (s :: rest) = l :: text := by
  obtain ⟨hne, hword⟩ := known.known_word _ hs
  obtain ⟨l, more, hkeyword⟩ := List.exists_cons_of_ne_nil hne
  have hl := isOrdinary_of_isKeywordChar (hword l (hkeyword ▸ List.mem_cons_self))
  cases rest with
  | nil => exact ⟨l, _, hl, by rw [written_singleton, hkeyword]; rfl⟩
  | cons other rest => exact ⟨l, _, hl, by rw [written_cons_cons, hkeyword]; rfl⟩

/-- Settings that are read from what was written are those that were written, or the first one whose
value cannot stand bare is read with another value. -/
theorem settings?_written_cases (hknown : ∀ s ∈ settings, known.known s.1 = true)
    (h : settings? known (written settings) = some found) :
    (found = settings ∧ AllBare settings) ∨
    ∃ front k v behind r more, settings = front ++ (k, v) :: behind ∧
      found = front ++ (k, r) :: more ∧ r ≠ v ∧ ¬ IsBareInside v := by
  induction settings generalizing found with
  | nil =>
    cases h
    exact .inl ⟨rfl, trivial⟩
  | cons s rest ih =>
    obtain ⟨hs, hrest⟩ := List.forall_mem_cons.1 hknown
    cases rest with
    | nil =>
      rw [written_singleton, settings?, readFrom_assignment hs] at h
      by_cases hbare : IsBare s.2
      · rw [readFrom_assigned_last hbare] at h
        cases h
        exact .inl ⟨rfl, hbare⟩
      · obtain ⟨r, more, rfl⟩ := readFrom_of_isAssigned rfl h
        refine .inr ⟨[], s.1, s.2, [], r, more, rfl, rfl, ?_, fun hinside => hbare hinside.2⟩
        rintro rfl
        exact hbare (isBare_of_readFrom h)
    | cons other rest =>
      rw [written_cons_cons, settings?, readFrom_assignment hs] at h
      by_cases hbare : IsBareInside s.2
      · rw [readFrom_assigned_inside hbare] at h
        obtain ⟨more, hmore, rfl⟩ := Option.map_eq_some_iff.1 h
        rcases ih hrest hmore with ⟨rfl, hall⟩ |
          ⟨front, k, v, behind, r, others, hsettings, rfl, hne, hnot⟩
        · exact .inl ⟨rfl, hbare, hall⟩
        · exact .inr ⟨s :: front, k, v, behind, r, others, by rw [hsettings]; rfl, rfl, hne, hnot⟩
      · obtain ⟨l, text, hl, htext⟩ :=
          exists_written_cons (List.forall_mem_cons.1 hrest).1 rest
        obtain ⟨r, more, rfl⟩ := readFrom_of_isAssigned rfl h
        refine .inr ⟨[], s.1, s.2, other :: rest, r, more, rfl, rfl, ?_, hbare⟩
        rintro rfl
        rw [htext] at h
        exact hbare (isBareInside_of_readFrom hl h)

/-- Settings are read back as they were written exactly when every value can stand bare. -/
theorem settings?_written_iff (hknown : ∀ s ∈ settings, known.known s.1 = true) :
    settings? known (written settings) = some settings ↔ AllBare settings := by
  refine ⟨fun h => ?_, settings?_written hknown⟩
  rcases settings?_written_cases hknown h with
    ⟨-, hall⟩ | ⟨front, k, v, behind, r, more, hsettings, hfound, hne, -⟩
  · exact hall
  · rw [hsettings, List.append_cancel_left_eq] at hfound
    cases hfound
    exact absurd rfl hne

end Misreading

end ConnectionText
end BoundUpdate
