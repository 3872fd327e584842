import BoundUpdate.Proofs.Backend.AddressText
import BoundUpdate.Proofs.Backend.ConnectionParts
import BoundUpdate.Proofs.Settings.AddressEntries

namespace BoundUpdate

/-!
# Connecting by address

An entry that has an address is connected by it, the address as it is, so neither
the options of the entry nor the seconds to wait reach the driver.  The same entry
without its address is connected by parts, among them the seconds to wait and the
mode of encryption.  Where the parts are plain, both connections are alike exactly
when the address starts with a scheme that a connection text may start with, is
legible, and tells the seconds to wait and the mode itself.
-/

/-! ## Values in force -/

namespace ConnectionText

/-- The values of the settings that a text leaves out. -/
def defaults : List Setting :=
  [("port".toList, "5432".toList), ("connect_timeout".toList, "0".toList),
    ("sslmode".toList, "prefer".toList)]

/-- The value of a keyword that is in force: the one that is told last, or else the default. -/
def inForce? (found : List Told) (k : List Char) : Option (List UInt8) :=
  (found.reverse.lookup k).or ((defaults.lookup k).map bytesOf)

/-- Two connection texts are alike: both are read, and the same values are in force for the keywords
of parts. -/
def Alike (known : Keywords) (text other : List Char) : Prop :=
  ∃ found others, told? known text = some found ∧ told? known other = some others ∧
    ∀ k ∈ ownKeywords, inForce? found k = inForce? others k

/-- The value of a keyword in settings, or else the default. -/
def effective? (settings : List Setting) (k : List Char) : Option (List Char) :=
  (valueOf? settings k).or (defaults.lookup k)

theorem lookup_map_toldOf (settings : List Setting) (k : List Char) :
    (settings.map toldOf).lookup k = (settings.lookup k).map bytesOf := by
  induction settings with
  | nil => rfl
  | cons s rest ih =>
    obtain ⟨key, v⟩ := s
    rw [List.map_cons, toldOf, List.lookup_cons, List.lookup_cons, ih]
    dsimp only
    cases k == key <;> rfl

theorem inForce?_map_toldOf (settings : List Setting) (k : List Char) :
    inForce? (settings.map toldOf) k = (effective? settings k).map bytesOf := by
  rw [inForce?, ← List.map_reverse, lookup_map_toldOf, effective?, valueOf?]
  cases settings.reverse.lookup k <;> rfl

/-- Texts that tell settings are alike if the settings have the same values. -/
theorem inForce?_eq_iff {settings others : List Setting} {k : List Char} :
    inForce? (settings.map toldOf) k = inForce? (others.map toldOf) k ↔
      effective? settings k = effective? others k := by
  rw [inForce?_map_toldOf, inForce?_map_toldOf]
  exact (Option.map_injective fun s t => bytesOf_inj.1).eq_iff

/-- Further settings win over those in front of them. -/
theorem effective?_append (settings more : List Setting) (k : List Char) :
    effective? (settings ++ more) k = (valueOf? more k).or (effective? settings k) := by
  rw [effective?, effective?, valueOf?, List.reverse_append, List.lookup_append, Option.or_assoc,
    valueOf?, valueOf?]

theorem or_some_eq_some_iff {α : Type} {a : Option α} {v w : α} :
    a.or (some v) = some w ↔ a.getD v = w := by
  cases a <;> simp

theorem getD_eq_self_iff {α : Type} {a : Option α} {v : α} : a.getD v = v ↔ ∀ w ∈ a, w = v := by
  cases a <;> simp

end ConnectionText

namespace AddressParts

open ConnectionText Text

variable (p : AddressParts) {known : Keywords} {s tail rest : List Char}

/-! ## What an address tells -/

/-- The setting of a part that may be empty. -/
def partSetting (keyword : String) (v : List Char) : List Setting :=
  if v = [] then [] else [(keyword.toList, v)]

/-- The settings of the parts. -/
def partSettings : List Setting :=
  partSetting "user" p.user.toList ++ partSetting "password" p.password.toList ++
    [("host".toList, p.host), ("port".toList, Number.natChars p.port),
      ("dbname".toList, p.database)]

/-- The setting of an option; one option is another name for a mode. -/
def optionSetting (option : String × String) : Setting :=
  if option = ("ssl", "true") then ("sslmode".toList, "require".toList)
  else (option.1.toList, option.2.toList)

/-- The settings of the options. -/
def optionSettings : List Setting := p.options.map optionSetting

/-- Whether an option has a name that is known, and no zero character. -/
def IsLegibleOption (known : Keywords) (option : String × String) : Prop :=
  '\x00' ∉ option.1.toList ∧ '\x00' ∉ option.2.toList ∧
    (option = ("ssl", "true") ∨ known.known option.1.toList = true)

instance (known : Keywords) (option : String × String) :
    Decidable (IsLegibleOption known option) := inferInstanceAs (Decidable (_ ∧ _))

/-- Whether no text holds the zero character and all options are known. -/
structure Legible (known : Keywords) (p : AddressParts) : Prop where
  user : '\x00' ∉ p.user.toList
  password : '\x00' ∉ p.password.toList
  options : ∀ option ∈ p.options, IsLegibleOption known option

theorem credentialsOf_eq (rest : List Char) :
    credentialsOf (p.authorityText ++ rest) =
      (percentEncode p.user, percentEncode p.password, p.serverText ++ rest) := by
  have hrun : ∀ c ∈ p.credentialsText, (c != '@' && c != '/') = true := by
    intro c hc
    have hne := p.consists_credentialsText.ne hc
    simp [hne '@' (by decide) (by decide), hne '/' (by decide) (by decide)]
  have hcolon : ':' ∉ percentEncode p.user :=
    (consists_percentEncode _).not_mem (by decide) (by decide)
  have hsplit : p.authorityText ++ rest = p.credentialsText ++ '@' :: (p.serverText ++ rest) := by
    rw [authorityText, List.append_assoc, List.cons_append]
  rw [credentialsOf, hsplit, dropWhile_run hrun (by simp), takeWhile_run hrun (by simp)]
  dsimp only
  rw [credentialsText, cut?_append_cons hcolon]
  rfl

theorem host?_eq (rest : List Char) :
    host? (p.host ++ ':' :: rest) = some (p.host, ':' :: rest) := by
  have hrun : ∀ c ∈ p.host, (!endsHost c) = true := by
    intro c hc
    have hne := p.consists_host.ne hc
    simp [endsHost, hne ':' (by decide) (by decide), hne '/' (by decide) (by decide),
      hne '?' (by decide) (by decide), hne ',' (by decide) (by decide)]
  have hstop : ∀ c ∈ (':' :: rest).head?, (!endsHost c) = false := by simp [endsHost]
  have htake := takeWhile_run hrun hstop
  have hdrop := dropWhile_run hrun hstop
  have hopen : '[' ∉ p.host := p.consists_host.not_mem (by decide) (by decide)
  obtain ⟨c, more, hhost⟩ := List.exists_cons_of_ne_nil p.host_ne_nil
  rw [hhost, List.cons_append] at htake hdrop ⊢
  rw [host?, htake, hdrop]
  -- the host stands in no brackets
  rintro text heq
  exact hopen (hhost ▸ (List.cons.inj heq).1 ▸ List.mem_cons_self)

theorem portOf_eq (h : p.IsTail tail) :
    portOf (':' :: (Number.natChars p.port ++ tail)) = (Number.natChars p.port, tail) := by
  have hrun : ∀ c ∈ Number.natChars p.port, (!endsPort c) = true := by
    intro c hc
    have hne := p.consists_port.ne hc
    simp [endsPort, hne '/' (by decide) (by decide), hne '?' (by decide) (by decide),
      hne ',' (by decide) (by decide)]
  have hstop : ∀ c ∈ tail.head?, (!endsPort c) = false := by
    cases h <;> simp [endsPort]
  rw [portOf, takeWhile_run hrun hstop, dropWhile_run hrun hstop]

/-- An address names one server. -/
theorem servers?_eq (h : p.IsTail tail) (fuel : Nat) :
    servers? (fuel + 1) (p.serverText ++ tail) =
      some ([(p.host, Number.natChars p.port)], tail) := by
  have hsplit : p.serverText ++ tail = p.host ++ ':' :: (Number.natChars p.port ++ tail) := by
    rw [serverText, List.append_assoc, List.cons_append]
  rw [servers?, hsplit, host?_eq, Option.bind_some]
  dsimp only
  rw [portOf_eq p h]
  cases h <;> rfl

theorem pathOf_eq (h : p.IsTail tail) : pathOf tail = ('/' :: p.database, p.queryText) := by
  have hcut := cutTail_eq h
  have hhash : '#' ∉ tail := (p.consists_tail h).not_mem (by decide) (by decide)
  rw [before_of_not_mem hhash] at hcut
  exact hcut

theorem parameterTexts_eq : parameterTexts p.queryText = p.options.map optionText := by
  by_cases hnone : p.options = []
  · rw [queryText, hnone]
    rfl
  · have hlast : (p.options.map optionText).getLast? ≠ some [] := by
      intro hlast
      obtain ⟨option, -, hempty⟩ := List.mem_map.1 (List.mem_of_getLast? hlast)
      exact List.append_ne_nil_of_right_ne_nil _ (List.cons_ne_nil _ _) hempty
    rw [parameterTexts, splitOn_queryText p hnone]
    exact if_neg hlast

theorem splitOn_optionText (option : String × String) :
    splitOn '=' (optionText option) = [percentEncode option.1, percentEncode option.2] := by
  have hequals : ∀ v : String, '=' ∉ percentEncode v := fun v =>
    (consists_percentEncode v).not_mem (by decide) (by decide)
  rw [optionText, splitOn_append_cons (hequals _), splitOn_of_not_mem (hequals _)]

/-- An option is read as a parameter if it is legible. -/
theorem parameter?_eq_some_iff {option : String × String} {told : Told} :
    parameter? known (optionText option) = some told ↔
      IsLegibleOption known option ∧ told = toldOf (optionSetting option) := by
  rw [parameter?, splitOn_optionText, List.map_cons, List.map_singleton, unescaped?_percentEncode,
    unescaped?_percentEncode]
  unfold IsLegibleOption
  by_cases hname : '\x00' ∈ option.1.toList
  · simp [hname]
  · by_cases hvalue : '\x00' ∈ option.2.toList
    · simp [hname, hvalue]
    · rw [if_neg hname, if_neg hvalue]
      dsimp only
      have halias : Utf8.decodeTolerant (bytesOf option.1.toList) = "ssl".toList ∧
          bytesOf option.2.toList = bytesOf "true".toList ↔ option = ("ssl", "true") := by
        rw [decodeTolerant_bytesOf, bytesOf_inj, String.toList_inj, String.toList_inj, Prod.ext_iff]
      rw [decodeTolerant_bytesOf] at halias ⊢
      simp only [halias, optionSetting]
      by_cases hother : option = ("ssl", "true")
      · rw [if_pos hother, if_pos hother]
        exact ⟨fun h => ⟨⟨hname, hvalue, .inl hother⟩, (Option.some.inj h).symm⟩,
          fun h => congrArg some h.2.symm⟩
      · by_cases hknown : known.known option.1.toList = true
        · simp [hother, hknown, hname, hvalue, toldOf, eq_comm]
        · simp [hother, hknown]

theorem partOf?_percentEncode_eq_some_iff {keyword : String} {v : String} {found : List Told} :
    partOf? keyword (percentEncode v) = some found ↔
      '\x00' ∉ v.toList ∧ found = (partSetting keyword v.toList).map toldOf := by
  by_cases hempty : v = ""
  · subst hempty
    have hencoded : percentEncode "" = [] := rfl
    rw [partOf?, if_pos hencoded]
    simp [partSetting, eq_comm]
  · have hlist : v.toList ≠ [] := fun hnil => hempty (String.toList_eq_nil_iff.1 hnil)
    rw [partOf?, if_neg (percentEncode_ne_nil hempty), unescaped?_percentEncode, partSetting,
      if_neg hlist]
    by_cases hzero : '\x00' ∈ v.toList
    · simp [hzero]
    · simp [hzero, toldOf, eq_comm]

theorem partOf?_of_isUnreserved {keyword : String} {v : List Char} (hne : v ≠ [])
    (h : ∀ c ∈ v, isUnreserved c = true) :
    partOf? keyword v = some [toldOf (keyword.toList, v)] := by
  rw [partOf?, if_neg hne, unescaped?_of_isUnreserved h]
  rfl

/-- What an address tells: the settings of its parts and its options, if it is legible. -/
theorem addressSettings?_eq_some_iff (h : p.IsTail tail) {found : List Told} :
    addressSettings? known (p.authorityText ++ tail) = some found ↔
      p.Legible known ∧ found = (p.partSettings ++ p.optionSettings).map toldOf := by
  have hhost : partOf? "host" p.host = some [toldOf ("host".toList, p.host)] :=
    partOf?_of_isUnreserved p.host_ne_nil fun c hc => isUnreserved_of_isHostChar (p.host_chars c hc)
  have hport : partOf? "port" (Number.natChars p.port) =
      some [toldOf ("port".toList, Number.natChars p.port)] :=
    partOf?_of_isUnreserved (Number.natChars_ne_nil p.port) fun c hc =>
      isUnreserved_of_isDigit (Number.isDigit_of_mem_natChars hc)
  have hdatabase : partOf? "dbname" p.database = some [toldOf ("dbname".toList, p.database)] :=
    partOf?_of_isUnreserved p.database_ne_nil p.database_chars
  rw [addressSettings?, credentialsOf_eq]
  dsimp only
  rw [servers?_eq p h]
  simp only [pathOf_eq p h, parameterTexts_eq, List.map_cons, List.map_nil, join, hhost, hport,
    hdatabase, List.drop_one, List.tail_cons, Option.bind_eq_bind, Option.bind_some]
  have hoptions : ∀ given, (p.options.map optionText).mapM (parameter? known) = some given ↔
      (∀ option ∈ p.options, IsLegibleOption known option) ∧
        given = p.optionSettings.map toldOf := by
    intro given
    rw [List.mapM_map, optionSettings, List.map_map]
    exact mapM_eq_some_iff fun option told => parameter?_eq_some_iff
  constructor
  · intro hread
    obtain ⟨user, huser, hread⟩ := Option.bind_eq_some_iff.1 hread
    obtain ⟨password, hpassword, hread⟩ := Option.bind_eq_some_iff.1 hread
    obtain ⟨given, hgiven, hread⟩ := Option.bind_eq_some_iff.1 hread
    obtain ⟨hlegibleUser, rfl⟩ := partOf?_percentEncode_eq_some_iff.1 huser
    obtain ⟨hlegiblePassword, rfl⟩ := partOf?_percentEncode_eq_some_iff.1 hpassword
    obtain ⟨hlegible, rfl⟩ := (hoptions given).1 hgiven
    refine ⟨⟨hlegibleUser, hlegiblePassword, hlegible⟩, (Option.some.inj hread).symm.trans ?_⟩
    simp [partSettings]
  · rintro ⟨⟨huser, hpassword, hlegible⟩, rfl⟩
    rw [partOf?_percentEncode_eq_some_iff.2 ⟨huser, rfl⟩, Option.bind_some,
      partOf?_percentEncode_eq_some_iff.2 ⟨hpassword, rfl⟩, Option.bind_some,
      (hoptions _).2 ⟨hlegible, rfl⟩, Option.bind_some]
    simp [partSettings]

theorem dropPrefix?_eq_some_iff {x scheme more : List Char} (hx : ':' ∉ x)
    (hscheme : ':' ∉ scheme) :
    (x ++ (Dsn.mark ++ more)).dropPrefix? (scheme ++ Dsn.mark) = some rest ↔
      x = scheme ∧ rest = more := by
  rw [List.dropPrefix?_eq_some_iff]
  constructor
  · rintro ⟨front, htext, hfront⟩
    rw [beq_iff_eq] at hfront
    rw [hfront, List.append_assoc] at htext
    -- both texts come apart at their first colon
    have hcut := cut?_append_cons hx (['/', '/'] ++ more)
    have hother := cut?_append_cons hscheme (['/', '/'] ++ rest)
    have heq := hcut.symm.trans ((congrArg (cut? ':') htext).trans hother)
    obtain ⟨rfl, hrest⟩ := Prod.mk.inj (Option.some.inj heq)
    exact ⟨rfl, (List.append_cancel_left hrest).symm⟩
  · rintro ⟨rfl, rfl⟩
    exact ⟨x ++ Dsn.mark, by rw [List.append_assoc], beq_self_eq_true _⟩

/-- Whether the scheme is one that a connection text may start with, as it is. -/
def HasPlainScheme : Prop := p.schemeText ∈ schemes

instance : Decidable p.HasPlainScheme := inferInstanceAs (Decidable (_ ∈ _))

theorem address?_eq_some_iff {more : List Char} :
    address? (p.schemeText ++ (Dsn.mark ++ more)) = some rest ↔ p.HasPlainScheme ∧ rest = more := by
  have hcolon : ':' ∉ p.schemeText :=
    (consists_of_isSchemeChar p.isSchemeChar_schemeText).not_mem (by decide) (by decide)
  have hschemes : ∀ scheme ∈ schemes, ':' ∉ scheme := by decide
  have hfound : ∀ {rest}, address? (p.schemeText ++ (Dsn.mark ++ more)) = some rest →
      p.HasPlainScheme ∧ rest = more := by
    intro rest h
    obtain ⟨scheme, hmem, hdrop⟩ := List.exists_of_findSome?_eq_some h
    obtain ⟨heq, hrest⟩ := (dropPrefix?_eq_some_iff hcolon (hschemes scheme hmem)).1 hdrop
    exact ⟨(heq.symm ▸ hmem : p.schemeText ∈ schemes), hrest⟩
  refine ⟨hfound, ?_⟩
  rintro ⟨hplain, rfl⟩
  cases h : address? (p.schemeText ++ (Dsn.mark ++ rest)) with
  | none =>
    have hdrop := List.findSome?_eq_none_iff.1 h p.schemeText hplain
    rw [(dropPrefix?_eq_some_iff hcolon (hschemes _ hplain)).2 ⟨rfl, rfl⟩] at hdrop
    cases hdrop
  | some other => rw [(hfound h).2]

variable {p}

/-- What an address tells as a connection text. -/
theorem told?_eq_some_iff (h : p.IsWrittenAs s) {found : List Told} :
    told? known s = some found ↔ p.HasPlainScheme ∧ p.Legible known ∧
      found = (p.partSettings ++ p.optionSettings).map toldOf := by
  obtain ⟨tail, htail, htext⟩ := id h
  change s = p.schemeText ++ (Dsn.mark ++ (p.authorityText ++ tail)) at htext
  by_cases hplain : p.HasPlainScheme
  · have haddress : address? s = some (p.authorityText ++ tail) := by
      rw [htext, address?_eq_some_iff]
      exact ⟨hplain, rfl⟩
    rw [told?, haddress]
    dsimp only
    rw [addressSettings?_eq_some_iff p htail]
    simp [hplain]
  · have hnone : address? s = none := by
      rw [Option.eq_none_iff_forall_not_mem]
      intro rest hrest
      rw [htext] at hrest
      exact hplain (p.address?_eq_some_iff.1 hrest).1
    have hscheme : lower p.schemeText ≠ [] := by
      intro hnil
      have htype := p.typeOfScheme_eq
      rw [hnil] at htype
      exact p.scheme_ne_nil (List.map_eq_nil_iff.1 htype.symm)
    rw [told?_of_other_scheme (read_of_isWrittenAs h) hscheme hnone]
    simp [hplain]

/-! ## The parts of an entry without its address -/

variable (p) in
/-- The parts that the entry of an address has, with the seconds to wait and a mode. -/
def served (timeout : Int) (mode : String) : ServerParts where
  host := some (String.ofList p.host)
  port := some p.port
  database := some (String.ofList p.database)
  user := some p.user
  password := some p.password
  timeout := timeout
  sslMode := some mode

variable (p) in
/-- Whether an address tells what the entry has: it can be read as a connection text, no option
gives a part another value, and the seconds to wait and the mode are told unless they are the ones
in force without. -/
structure AgreesWith (known : Keywords) (timeout : Int) (mode : String) : Prop where
  scheme : p.HasPlainScheme
  legible : p.Legible known
  parts : ∀ s ∈ p.partSettings, ∀ v ∈ valueOf? p.optionSettings s.1, v = s.2
  timeout : (valueOf? p.optionSettings "connect_timeout".toList).getD "0".toList =
    (Number.intText timeout).toList
  mode : (valueOf? p.optionSettings "sslmode".toList).getD "prefer".toList = mode.toList

variable {timeout : Int} {mode : String}

theorem intended_served : (p.served timeout mode).intended =
    [("host".toList, p.host), ("port".toList, Number.natChars p.port),
      ("dbname".toList, p.database), ("user".toList, p.user.toList),
      ("password".toList, p.password.toList),
      ("connect_timeout".toList, (Number.intText timeout).toList),
      ("sslmode".toList, mode.toList)] := by
  have hport : (Number.intText p.port).toList = Number.natChars p.port := by
    rw [Number.intText, if_neg (by omega), Number.natText, String.toList_ofList,
      Int.natAbs_natCast]
  simp [ServerParts.intended, ServerParts.given, served, hport]

/-- The text that plain parts are written into tells them. -/
theorem told?_written {q : ServerParts} (h : q.Plain) :
    told? known (written (Part.settings q.parts)) = some (q.intended.map toldOf) := by
  have hread : settings? known (written (Part.settings q.parts)) = some q.intended := by
    rw [← ServerParts.intended_parts]
    exact (settings?_written_intended_iff (ServerParts.apart_parts known q)).2
      (ServerParts.plain_iff.2 h)
  have hnone : address? (written (Part.settings q.parts)) = none := rfl
  rw [told?, hnone, hread]
  rfl

theorem partSettings_of_plain (h : (p.served timeout mode).Plain) :
    p.partSettings = [("user".toList, p.user.toList), ("password".toList, p.password.toList),
      ("host".toList, p.host), ("port".toList, Number.natChars p.port),
      ("dbname".toList, p.database)] := by
  obtain ⟨_, ⟨⟩, huser, -⟩ := h.user
  obtain ⟨_, ⟨⟩, hpassword, -⟩ := h.password
  rw [partSettings, partSetting, partSetting, if_neg huser, if_neg hpassword]
  rfl

/-- The same values are in force exactly when the options of the address give none another value and
tell the others. -/
theorem effective?_iff (h : (p.served timeout mode).Plain) :
    (∀ k ∈ ownKeywords, effective? (p.partSettings ++ p.optionSettings) k =
        effective? (p.served timeout mode).intended k) ↔
      (∀ s ∈ p.partSettings, ∀ v ∈ valueOf? p.optionSettings s.1, v = s.2) ∧
      (valueOf? p.optionSettings "connect_timeout".toList).getD "0".toList =
        (Number.intText timeout).toList ∧
      (valueOf? p.optionSettings "sslmode".toList).getD "prefer".toList = mode.toList := by
  rw [intended_served, partSettings_of_plain h]
  have hvalue : ∀ {k v w : List Char} {base others : List Setting}, effective? base k = some v →
      effective? others k = some w →
      (effective? (base ++ p.optionSettings) k = effective? others k ↔
        (valueOf? p.optionSettings k).getD v = w) := by
    intro k v w base others hbase hothers
    rw [effective?_append, hbase, hothers, or_some_eq_some_iff]
  simp only [ownKeywords, List.map_cons, List.map_nil, List.forall_mem_cons, List.not_mem_nil,
    false_implies, implies_true, and_true]
  rw [hvalue rfl rfl, hvalue rfl rfl, hvalue rfl rfl, hvalue rfl rfl, hvalue rfl rfl,
    hvalue rfl rfl, hvalue rfl rfl]
  simp only [getD_eq_self_iff]
  tauto

theorem alike_iff (h : p.IsWrittenAs s) (hplain : (p.served timeout mode).Plain) :
    Alike known s (written (Part.settings (p.served timeout mode).parts)) ↔
      p.AgreesWith known timeout mode := by
  constructor
  · rintro ⟨found, others, hfound, hothers, hsame⟩
    obtain ⟨hscheme, hlegible, rfl⟩ := (told?_eq_some_iff h).1 hfound
    rw [told?_written hplain] at hothers
    cases hothers
    obtain ⟨hparts, htimeout, hmode⟩ :=
      (effective?_iff hplain).1 fun k hk => inForce?_eq_iff.1 (hsame k hk)
    exact ⟨hscheme, hlegible, hparts, htimeout, hmode⟩
  · rintro ⟨hscheme, hlegible, hparts, htimeout, hmode⟩
    refine ⟨_, _, (told?_eq_some_iff h).2 ⟨hscheme, hlegible, rfl⟩, told?_written hplain,
      fun k hk => inForce?_eq_iff.2 ?_⟩
    exact (effective?_iff hplain).2 ⟨hparts, htimeout, hmode⟩ k hk

end AddressParts

/-! ## Entries with addresses -/

open ConnectionText

namespace Dsn

variable {parts : Dsn} {s : String}

/-- Whether a name is the address of a database that is opened with a text: the scheme without its
driver is one of the types. -/
def NamesServer (s : String) : Prop :=
  ∃ parts, Dsn.read (.text s) = .ok parts ∧ parts.type ∈ Connector.textTypes

theorem type_of_ofAddress {a : Address} (h : ofAddress a = .ok parts) :
    parts.type = String.ofList (typeOfScheme a.scheme) := by
  rw [ofAddress] at h
  dsimp only at h
  split at h
  · cases h
    rfl
  · obtain ⟨port, -, h⟩ := except_bind_ok h
    cases h
    rfl

/-- Such a name is read as an address with a scheme. -/
theorem NamesServer.exists_read (h : NamesServer s) :
    ∃ a, Address.read s.toList = .ok a ∧ a.scheme ≠ [] := by
  obtain ⟨parts, hread, hmem⟩ := h
  by_cases haddress : IsAddressText (.text s) s
  · rw [read_of_isAddressText haddress] at hread
    obtain ⟨a, ha, hparts⟩ := except_bind_ok hread
    refine ⟨a, ha, fun hnil => ?_⟩
    rw [type_of_ofAddress hparts, hnil] at hmem
    exact absurd hmem (by decide)
  · have hpath : ∀ other, ¬ IsAddressText (.text s) other := by
      rintro other ⟨⟨⟩, hmark⟩
      exact haddress ⟨rfl, hmark⟩
    rw [read_of_not_isAddressText hpath] at hread
    cases hread
    exact absurd hmem (by decide : "sqlite" ∉ Connector.textTypes)

theorem NamesServer.ne_empty (h : NamesServer s) : s ≠ "" := by
  rintro rfl
  obtain ⟨a, hread, hne⟩ := h.exists_read
  cases hread
  exact hne rfl

end Dsn

namespace DatabaseEntry

/-- The parts of an entry that is described with an address are those of the address. -/
theorem exists_of_read {nesting : Nat} {environment : List (String × String)} {described : Value}
    {e : DatabaseEntry} {s : String} (h : read nesting environment described = .ok e)
    (hdsn : e.dsn = .text s) (hne : s ≠ "") :
    ∃ parts, Dsn.read (.text s) = .ok parts ∧ e.host = (parts.server.map Prod.fst).getD .none ∧
      e.port = (parts.server.map Prod.snd).getD .none ∧ e.database = parts.database ∧
      e.user = ofText? parts.user ∧ e.password = ofText? parts.password := by
  rw [read] at h
  obtain ⟨entries, -, h⟩ := except_bind_ok h
  rw [ofEntries] at h
  obtain ⟨expanded, -, h⟩ := except_bind_ok h
  obtain ⟨told, htold, h⟩ := except_bind_ok h
  cases told with
  | true =>
    rw [if_pos rfl, ofDsn] at h
    obtain ⟨type, -, h⟩ := except_bind_ok h
    obtain ⟨parts, hparts, h⟩ := except_bind_ok h
    obtain ⟨options, -, h⟩ := except_bind_ok h
    obtain ⟨plain, -, h⟩ := except_bind_ok h
    cases h
    exact ⟨parts, hdsn ▸ hparts, rfl, rfl, rfl, rfl, rfl⟩
  | false =>
    -- an address that is not empty is taken
    have hsame := (ofParts_eq_ok_iff.1 h).2.2.2.1
    rw [hsame, hdsn, Value.truth_text] at htold
    simp [hne] at htold

/-- An entry without its address. -/
def withoutAddress (e : DatabaseEntry) : DatabaseEntry := { e with dsn := .none }

end DatabaseEntry

namespace AddressParts

variable {p : AddressParts} {known : Keywords} {e : DatabaseEntry} {q : ServerParts}
  {nesting : Nat} {environment : List (String × String)} {described options : Value} {s : String}
  {before : Activity} {timeout : Int} {mode : String}

theorem eq_of_ofText? {v : Option String} {t : String} (h : .text t = DatabaseEntry.ofText? v) :
    v = some t := by
  cases v <;> cases h
  rfl

/-- The entry of an address has the parts of the address, with or without the address. -/
theorem eq_served (h : p.IsWrittenAs s.toList)
    (hread : DatabaseEntry.read nesting environment described = .ok e) (hdsn : e.dsn = .text s)
    (hne : s ≠ "") (hq : q.Describes e.withoutAddress) (hmode : q.sslMode = some mode) :
    q = p.served q.timeout mode := by
  obtain ⟨parts, hparts, hhost, hport, hdatabase, huser, hpassword⟩ :=
    DatabaseEntry.exists_of_read hread hdsn hne
  have haddress := p.read_eq h
  rw [String.ofList_toList, hparts] at haddress
  cases haddress
  have hqhost := eq_of_ofText? (hhost.symm.trans hq.host)
  have hqdatabase := eq_of_ofText? (hdatabase.symm.trans hq.database)
  have hquser := eq_of_ofText? (huser.symm.trans hq.user)
  have hqpassword := eq_of_ofText? (hpassword.symm.trans hq.password)
  have hqport : q.port = some (p.port : Int) := by
    have hvalue : Value.int p.port = (q.port.map Value.int).getD .none := hport.symm.trans hq.port
    cases hgiven : q.port with
    | none =>
      rw [hgiven] at hvalue
      cases hvalue
    | some n =>
      rw [hgiven] at hvalue
      exact congrArg some (Value.int.inj hvalue).symm
  obtain ⟨host, port, database, user, password, timeout, sslMode⟩ := q
  dsimp only at hqhost hqdatabase hquser hqpassword hqport hmode
  rw [hqhost, hqdatabase, hquser, hqpassword, hqport, hmode]
  rfl

/-- An entry with the address of a server is connected by the address as it is, whatever its options
and the seconds to wait are, and the address is refused unless it starts with one of the schemes as
they are.  Without the address the entry is connected by its parts, and plain parts are told.  If
the address is written from parts, the two connections are alike exactly when the address tells all
that the entry has. -/
theorem connected_alike_iff (known : Keywords)
    (hread : DatabaseEntry.read nesting environment described = .ok e) (hdsn : e.dsn = .text s)
    (hserver : Dsn.NamesServer s) (htakes : Connector.TakesText e options)
    (hready : Connector.Ready before timeout) (opens : Connection) :
    Connector.HandsOver opens e before s ∧
    ((∀ scheme ∈ schemes, ¬ scheme ++ Dsn.mark <+: s.toList) → told? known s.toList = none) ∧
    ∀ q : ServerParts, q.Describes e.withoutAddress → q.timeout = timeout → q.Plain →
      ∃ text, Connector.HandsOver opens e.withoutAddress before text ∧
        told? known text.toList = some (q.intended.map toldOf) ∧
        ∀ (p : AddressParts) (mode : String), p.IsWrittenAs s.toList → q.sslMode = some mode →
          (Alike known s.toList text.toList ↔ p.AgreesWith known timeout mode) := by
  refine ⟨Connector.handsOver_of_address htakes hready hdsn hserver.ne_empty, fun hother => ?_, ?_⟩
  · obtain ⟨a, ha, hscheme⟩ := hserver.exists_read
    exact told?_of_other_scheme ha hscheme (address?_eq_none hother)
  · rintro q hq rfl hplain
    obtain ⟨text, hover, hwritten⟩ := ServerParts.exists_handsOver hq hready opens
    refine ⟨text, hover, hwritten ▸ told?_written hplain, fun p mode h hmode => ?_⟩
    have hserved := eq_served h hread hdsn hserver.ne_empty hq hmode
    rw [hwritten, hserved]
    exact alike_iff h (hserved ▸ hplain)

/-! ### Addresses with a driver -/

section Described

variable {address : List Char} {entries : Value.Entries}

/-- The entry that is described by an address alone, whose options are those of the address. -/
theorem exists_read_alone (environment : List (String × String)) (h : p.IsWrittenAs address) :
    ∃ entries, DatabaseEntry.read Nesting.usual environment (description address []) =
        .ok (p.entry address entries) ∧
      ∀ name, entries.get? name = Dsn.told? p.options name := by
  have hplain : Reference.Plain (Reference.entryTexts []) := by
    simp [Reference.Plain, Reference.entryTexts]
  have hapart : Value.Entries.Apart [] := .nil
  exact ⟨_, (read_description h hplain).trans (if_pos rfl), (p.holds_merge hapart).named⟩

/-- The entry of an address is opened with a text if its scheme is one of the types. -/
theorem takesText_entry
    (htype : Text.lowerString (String.ofList p.type) ∈ Connector.textTypes)
    (habsent : entries.get? "autocommit" = none) :
    Connector.TakesText (p.entry address entries) (.dict entries) where
  type := ⟨_, rfl, htype⟩
  port := ⟨_, rfl⟩
  chosen := Settings.orElse_dict entries
  mode := ⟨true, Connector.autocommitOf_of_absent rfl habsent⟩

theorem describes_entry
    (htakes : Connector.TakesText (p.entry address entries) (.dict entries))
    (hmode : entries.getD "sslmode" (.text "prefer") = .text mode) :
    (p.served timeout mode).Describes (p.entry address entries).withoutAddress where
  dsn := rfl
  host := rfl
  port := rfl
  database := rfl
  user := rfl
  password := rfl
  options := ⟨_, _, ⟨htakes.type, htakes.port, htakes.chosen, htakes.mode⟩, rfl, hmode⟩

end Described

/-- An address that tells the seconds to wait and the mode. -/
def telling : AddressParts where
  scheme := "postgresql".toList
  driver := none
  user := "u"
  password := "p"
  host := "h".toList
  port := 5433
  database := "db".toList
  options := [("connect_timeout", "40"), ("sslmode", "require")]
  scheme_ne_nil := by decide
  scheme_letters := List.all_eq_true.1 (by decide)
  scheme_server := by decide +kernel
  driver_chars := fun d hd => absurd hd (Option.not_mem_none d)
  host_ne_nil := by decide
  host_chars := List.all_eq_true.1 (by decide)
  port_le := by decide
  database_ne_nil := by decide
  database_chars := List.all_eq_true.1 (by decide)
  options_values := by decide

/-- Parts with another driver. -/
def withDriver (p : AddressParts) (driver : List Char)
    (h : ∀ c ∈ driver, Address.isSchemeChar c = true) : AddressParts :=
  { p with
    driver := some driver
    driver_chars := fun _ hd => Option.mem_some_iff.1 hd ▸ h }

/-- An address with a driver is refused. -/
theorem told?_withDriver {driver address : List Char}
    {h : ∀ c ∈ driver, Address.isSchemeChar c = true}
    (hwritten : (p.withDriver driver h).IsWrittenAs address) : told? known address = none := by
  have hplus : ∀ scheme ∈ schemes, '+' ∉ scheme := by decide
  rw [Option.eq_none_iff_forall_ne_some]
  intro found htold
  have hplain : p.scheme ++ '+' :: driver ∈ schemes := ((told?_eq_some_iff hwritten).1 htold).1
  exact hplus _ hplain (List.mem_append_right _ List.mem_cons_self)

theorem plain_served_telling (hbare : IsBare mode.toList) :
    (telling.served timeout mode).Plain where
  host := ⟨_, rfl, by decide⟩
  port := (by decide : some (5433 : Int) ≠ some 0)
  database := ⟨_, rfl, by decide⟩
  user := ⟨_, rfl, by decide⟩
  password := ⟨_, rfl, by decide⟩
  sslMode := ⟨mode, rfl, hbare⟩

/-- The address that is written from these parts. -/
def tellingText : List Char :=
  "postgresql://u:p@h:5433/db?connect_timeout=40&sslmode=require".toList

/-- The address with a driver. -/
def drivenText : List Char :=
  "postgresql+psycopg2://u:p@h:5433/db?connect_timeout=40&sslmode=require".toList

/-- An address that tells the seconds to wait and the mode connects like its parts. -/
theorem telling_connected_alike :
    ∃ e text, DatabaseEntry.read Nesting.usual [] (description tellingText []) = .ok e ∧
      Connector.HandsOver {} e (ServerParts.waiting 40) (String.ofList tellingText) ∧
      Connector.HandsOver {} e.withoutAddress (ServerParts.waiting 40) text ∧
      Alike .documented tellingText text.toList := by
  have hwritten : telling.IsWrittenAs tellingText := ⟨_, .query, by decide +kernel⟩
  obtain ⟨entries, hread, hentries⟩ := exists_read_alone [] hwritten
  have htakes : Connector.TakesText (telling.entry tellingText entries) (.dict entries) :=
    takesText_entry (by decide) (hentries "autocommit")
  have hmode : entries.getD "sslmode" (.text "prefer") = .text "require" := by
    rw [Value.Entries.getD, hentries]
    rfl
  have hplain : (telling.served 40 "require").Plain := plain_served_telling (by decide)
  have hserver : Dsn.NamesServer (String.ofList tellingText) :=
    ⟨telling.dsn, telling.read_eq hwritten, by decide⟩
  obtain ⟨hover, -, hparts⟩ := connected_alike_iff .documented hread rfl hserver htakes
    (ServerParts.ready_waiting 40) {}
  obtain ⟨text, hother, -, halike⟩ := hparts _ (describes_entry htakes hmode) rfl hplain
  have hagrees : telling.AgreesWith .documented 40 "require" :=
    { scheme := by decide
      legible := ⟨by decide, by decide, by decide +kernel⟩
      parts := by decide +kernel
      timeout := by decide +kernel
      mode := by decide +kernel }
  rw [String.toList_ofList] at halike
  exact ⟨_, text, hread, hover, hother, (halike telling "require" hwritten rfl).2 hagrees⟩

theorem isSchemeChar_of_mem_driver : ∀ c ∈ "psycopg2".toList, Address.isSchemeChar c = true :=
  List.all_eq_true.1 (by decide)

/-- The same parts with a driver. -/
def driven : AddressParts := telling.withDriver _ isSchemeChar_of_mem_driver

/-- The same address with a driver is refused, although the parts of its entry connect. -/
theorem driven_refused :
    ∃ e text, DatabaseEntry.read Nesting.usual [] (description drivenText []) = .ok e ∧
      Connector.HandsOver {} e (ServerParts.waiting 40) (String.ofList drivenText) ∧
      told? .documented drivenText = none ∧
      Connector.HandsOver {} e.withoutAddress (ServerParts.waiting 40) text ∧
      told? .documented text.toList =
        some ((telling.served 40 "require").intended.map toldOf) := by
  have hwritten : driven.IsWrittenAs drivenText := ⟨_, .query, by decide +kernel⟩
  obtain ⟨entries, hread, hentries⟩ := exists_read_alone [] hwritten
  have htakes : Connector.TakesText (driven.entry drivenText entries) (.dict entries) :=
    takesText_entry (by decide) (hentries "autocommit")
  have hmode : entries.getD "sslmode" (.text "prefer") = .text "require" := by
    rw [Value.Entries.getD, hentries]
    rfl
  have hplain : (telling.served 40 "require").Plain := plain_served_telling (by decide)
  obtain ⟨text, hother, htext⟩ := ServerParts.exists_handsOver (describes_entry htakes hmode)
    (ServerParts.ready_waiting 40) {}
  refine ⟨_, text, hread, ?_, told?_withDriver hwritten, hother, htext ▸ told?_written hplain⟩
  exact Connector.handsOver_of_address htakes (ServerParts.ready_waiting 40) rfl (by decide)

end AddressParts
end BoundUpdate
