import BoundUpdate.Proofs.Failure.Sequence
import BoundUpdate.Proofs.Number.Notation
import BoundUpdate.Proofs.Settings.Reporting
import BoundUpdate.Proofs.Text.Cutting
import BoundUpdate.Proofs.Text.Escaping
import BoundUpdate.Proofs.Text.LowerCase
import BoundUpdate.Settings.Dsn

namespace BoundUpdate

/-!
# Addresses read back

An address is written from parts: a scheme with an optional driver, a user and a
password, a host and a port, the name of a database, and options.  What may hold
any character is escaped, so no mark of the address stands in it, and every part
comes back from the address as it was, the scheme in lower case and without its
driver.
-/

/-- Whether a character may stand in the name of a host: it is a lower case letter, a digit, a
hyphen or a point. -/
def isHostChar (c : Char) : Bool :=
  ('a' ≤ c && c ≤ 'z') || Number.isDigit c || c == '-' || c == '.'

/-- The parts that an address of a server is written from. -/
structure AddressParts where
  scheme : List Char
  driver : Option (List Char)
  user : String
  password : String
  host : List Char
  port : Nat
  database : List Char
  options : List (String × String)
  scheme_ne_nil : scheme ≠ []
  scheme_letters : ∀ c ∈ scheme, Address.isLetter c = true
  /-- The scheme does not name an embedded database. -/
  scheme_server : String.ofList (scheme.map Char.toLower) ≠ "sqlite"
  driver_chars : ∀ d ∈ driver, ∀ c ∈ d, Address.isSchemeChar c = true
  host_ne_nil : host ≠ []
  host_chars : ∀ c ∈ host, isHostChar c = true
  port_le : port ≤ 65535
  database_ne_nil : database ≠ []
  database_chars : ∀ c ∈ database, Text.isUnreserved c = true
  options_values : ∀ option ∈ options, option.2 ≠ ""

namespace AddressParts

variable (p : AddressParts)

/-! ## Writing -/

/-- The scheme with its driver. -/
def schemeText : List Char :=
  p.scheme ++ match p.driver with
    | some driver => '+' :: driver
    | none => []

/-- The user and the password. -/
def credentialsText : List Char :=
  Text.percentEncode p.user ++ ':' :: Text.percentEncode p.password

/-- The host and the port. -/
def serverText : List Char := p.host ++ ':' :: Number.natChars p.port

/-- The credentials and the server. -/
def authorityText : List Char := p.credentialsText ++ '@' :: p.serverText

/-- An option as a name and a value. -/
def optionText (option : String × String) : List Char :=
  Text.percentEncode option.1 ++ '=' :: Text.percentEncode option.2

/-- The options. -/
def queryText : List Char := Text.join '&' (p.options.map optionText)

/-- The database and the options; without options the question mark may be left out. -/
inductive IsTail : List Char → Prop where
  | query : IsTail ('/' :: p.database ++ '?' :: p.queryText)
  | plain (h : p.options = []) : IsTail ('/' :: p.database)

/-- Whether a text is an address that is written from the parts. -/
def IsWrittenAs (s : List Char) : Prop :=
  ∃ tail, p.IsTail tail ∧ s = p.schemeText ++ ':' :: '/' :: '/' :: (p.authorityText ++ tail)

/-! ## The characters of an address -/

open Text

theorem isUnreserved_of_isLetter {c : Char} (h : Address.isLetter c = true) :
    isUnreserved c = true := by
  simp only [Address.isLetter, Bool.or_eq_true] at h
  simp only [isUnreserved, Bool.or_eq_true]
  tauto

theorem isUnreserved_of_isHostChar {c : Char} (h : isHostChar c = true) :
    isUnreserved c = true := by
  simp only [isHostChar, Bool.or_eq_true] at h
  rcases h with ((h | h) | h) | h
  · simp [isUnreserved, h]
  · exact isUnreserved_of_isDigit h
  · simp [isUnreserved, h]
  · simp [isUnreserved, h]

theorem consists_of_isSchemeChar {s : List Char}
    (h : ∀ c ∈ s, Address.isSchemeChar c = true) : Consists ['+'] s := by
  intro c hc
  have hscheme := h c hc
  simp only [Address.isSchemeChar, Bool.or_eq_true, beq_iff_eq] at hscheme
  rcases hscheme with (((hletter | hdigit) | rfl) | rfl) | rfl
  · exact .inl (isUnreserved_of_isLetter hletter)
  · exact .inl (isUnreserved_of_isDigit hdigit)
  · exact .inr List.mem_cons_self
  · exact .inl (by decide)
  · exact .inl (by decide)

theorem isSchemeChar_schemeText : ∀ c ∈ p.schemeText, Address.isSchemeChar c = true := by
  intro c hc
  rw [schemeText] at hc
  rcases List.mem_append.1 hc with hscheme | hdriver
  · simp [Address.isSchemeChar, p.scheme_letters c hscheme]
  · cases hd : p.driver with
    | none => rw [hd] at hdriver; cases hdriver
    | some driver =>
      rw [hd] at hdriver
      rcases List.mem_cons.1 hdriver with rfl | hmem
      · rfl
      · exact p.driver_chars driver hd c hmem

theorem consists_credentialsText : Consists ['%', ':'] p.credentialsText :=
  .append ((consists_percentEncode _).mono (by decide))
    (.cons (by decide) ((consists_percentEncode _).mono (by decide)))

theorem consists_host : Consists [] p.host :=
  consists_of_forall fun c hc => isUnreserved_of_isHostChar (p.host_chars c hc)

theorem consists_port : Consists [] (Number.natChars p.port) :=
  consists_of_forall fun _ hc => isUnreserved_of_isDigit (Number.isDigit_of_mem_natChars hc)

theorem consists_serverText : Consists [':'] p.serverText :=
  .append (p.consists_host.mono (by decide)) (.cons (by decide) (p.consists_port.mono (by decide)))

theorem consists_authorityText : Consists ['%', ':', '@'] p.authorityText :=
  .append (p.consists_credentialsText.mono (by decide))
    (.cons (by decide) (p.consists_serverText.mono (by decide)))

theorem consists_database : Consists [] p.database := consists_of_forall p.database_chars

theorem consists_optionText (option : String × String) :
    Consists ['%', '='] (optionText option) :=
  .append ((consists_percentEncode _).mono (by decide))
    (.cons (by decide) ((consists_percentEncode _).mono (by decide)))

theorem consists_queryText : Consists ['%', '=', '&'] p.queryText := by
  intro c hc
  rcases mem_join hc with rfl | ⟨part, hpart, hmem⟩
  · exact .inr (by decide)
  · obtain ⟨option, -, rfl⟩ := List.mem_map.1 hpart
    exact (consists_optionText option).mono (by decide) c hmem

theorem consists_tail {tail : List Char} (h : p.IsTail tail) :
    Consists ['%', '=', '&', '?', '/'] tail := by
  have hfront : Consists ['%', '=', '&', '?', '/'] ('/' :: p.database) :=
    .cons (by decide) (p.consists_database.mono (by decide))
  cases h with
  | query => exact hfront.append (.cons (by decide) (p.consists_queryText.mono (by decide)))
  | plain => exact hfront

/-- The marks of an address. -/
def marks : List Char := ['%', '+', ':', '/', '@', '?', '=', '&']

theorem IsWrittenAs.consists {s : List Char} (h : p.IsWrittenAs s) : Consists marks s := by
  obtain ⟨tail, htail, rfl⟩ := h
  have hscheme := consists_of_isSchemeChar p.isSchemeChar_schemeText
  refine (hscheme.mono (by decide)).append (.cons (by decide) (.cons (by decide)
    (.cons (by decide) (.append ?_ ?_))))
  · exact p.consists_authorityText.mono (by decide)
  · exact (p.consists_tail htail).mono (by decide)

/-! ## Cutting -/

variable {p} {s tail : List Char}

/-- Nothing is dropped from an address. -/
theorem visible_of_consists (h : Consists marks s) :
    (s.dropWhile Address.isLeading).filter (fun c => !Address.isIgnored c) = s := by
  have hmarks : ∀ c ∈ marks, 0x20 < c.toNat := by simp [marks]
  have hvisible : ∀ c ∈ s, 0x20 < c.toNat := fun c hc =>
    (h c hc).elim (fun hunreserved => (lt_of_isUnreserved hunreserved).1) (hmarks c)
  have hleading : s.dropWhile Address.isLeading = s := by
    rw [List.dropWhile_eq_self_iff]
    intro hpos
    simpa [Address.isLeading] using hvisible _ (List.getElem_mem hpos)
  rw [hleading, List.filter_eq_self]
  intro c hc
  have hne : ∀ d : Char, d.toNat ≤ 0x20 → c ≠ d := by
    rintro d hd rfl
    exact absurd (hvisible c hc) (by omega)
  simp [Address.isIgnored, hne '\t' (by decide), hne '\r' (by decide), hne '\n' (by decide)]

variable (p) in
theorem exists_schemeText : ∃ c rest, p.schemeText = c :: rest ∧ Address.isLetter c = true ∧
    rest.all Address.isSchemeChar = true := by
  have hall := p.isSchemeChar_schemeText
  cases hscheme : p.scheme with
  | nil => exact absurd hscheme p.scheme_ne_nil
  | cons c rest =>
    have htext : p.schemeText = c :: (rest ++ match p.driver with
        | some driver => '+' :: driver
        | none => []) := by rw [schemeText, hscheme, List.cons_append]
    refine ⟨c, _, htext, p.scheme_letters c (hscheme ▸ List.mem_cons_self), ?_⟩
    rw [htext] at hall
    exact List.all_eq_true.2 (List.forall_mem_cons.1 hall).2

variable (p) in
theorem cutScheme_eq (rest : List Char) :
    Address.cutScheme (p.schemeText ++ ':' :: rest) = (lower p.schemeText, rest) := by
  have hcolon : ':' ∉ p.schemeText :=
    (consists_of_isSchemeChar p.isSchemeChar_schemeText).not_mem (by decide) (by decide)
  obtain ⟨c, more, htext, hletter, hmore⟩ := p.exists_schemeText
  rw [Address.cutScheme, cut?_append_cons hcolon, htext]
  simp [hletter, hmore]

theorem cutAuthority_eq (h : p.IsTail tail) :
    Address.cutAuthority ('/' :: '/' :: (p.authorityText ++ tail)) = (p.authorityText, tail) := by
  have hrun : ∀ c ∈ p.authorityText, (!Address.endsAuthority c) = true := by
    intro c hc
    have hne := p.consists_authorityText.ne hc
    simp [Address.endsAuthority, hne '/' (by decide) (by decide), hne '?' (by decide) (by decide),
      hne '#' (by decide) (by decide)]
  have hstop : ∀ c ∈ tail.head?, (!Address.endsAuthority c) = false := by
    cases h <;> simp [Address.endsAuthority]
  rw [Address.cutAuthority, takeWhile_run hrun hstop, dropWhile_run hrun hstop]

variable (p) in
theorem checkBrackets_eq : Address.checkBrackets p.authorityText = .ok () := by
  have hopen : '[' ∉ p.authorityText := p.consists_authorityText.not_mem (by decide) (by decide)
  have hclose : ']' ∉ p.authorityText := p.consists_authorityText.not_mem (by decide) (by decide)
  simp [Address.checkBrackets, hopen, hclose]

variable (p) in
theorem checkMarks_eq : Address.checkMarks p.authorityText = .ok () := by
  have hnone : (p.authorityText.any fun c => Address.hiddenMarks.contains c.toNat) = false := by
    rw [List.any_eq_false]
    intro c hc hhidden
    have hmarks : ∀ c ∈ ['%', ':', '@'], c.toNat < 128 := by simp
    have hsmall : c.toNat < 128 := (p.consists_authorityText c hc).elim
      (fun hunreserved => (lt_of_isUnreserved hunreserved).2.1) (hmarks c)
    have hlarge : ∀ n ∈ Address.hiddenMarks, 128 ≤ n := by decide
    exact absurd (hlarge c.toNat (List.contains_iff_mem.1 hhidden)) (by omega)
  rw [Address.checkMarks, hnone]
  rfl

theorem cutTail_eq (h : p.IsTail tail) :
    (cut? '?' (before '#' tail)).getD (before '#' tail, []) = ('/' :: p.database, p.queryText) := by
  have hhash : '#' ∉ tail := (p.consists_tail h).not_mem (by decide) (by decide)
  have hpath : Consists ['/'] ('/' :: p.database) :=
    .cons (by decide) (p.consists_database.mono (by decide))
  have hquestion : '?' ∉ '/' :: p.database := hpath.not_mem (by decide) (by decide)
  rw [before_of_not_mem hhash]
  cases h with
  | query => rw [cut?_append_cons hquestion]; rfl
  | plain hnone =>
    rw [cut?_of_not_mem hquestion, queryText, hnone]
    rfl

/-- Reading cuts an address that is written from parts into its texts. -/
theorem read_of_isWrittenAs (h : p.IsWrittenAs s) :
    Address.read s = .ok
      { scheme := lower p.schemeText, authority := p.authorityText, path := '/' :: p.database,
        query := p.queryText } := by
  have hvisible := visible_of_consists h.consists
  obtain ⟨tail, htail, rfl⟩ := h
  simp only [Address.read, hvisible, cutScheme_eq, cutAuthority_eq htail, checkBrackets_eq,
    except_ok_bind, cutTail_eq htail, checkMarks_eq]
  rfl

/-! ## The parts -/

variable (p)

/-- The type that the scheme names: the scheme in lower case. -/
def type : List Char := p.scheme.map Char.toLower

theorem ascii_of_isSchemeChar {c : Char} (h : Address.isSchemeChar c = true) : c.toNat < 128 := by
  have hone : ∀ d ∈ [c], Address.isSchemeChar d = true := List.forall_mem_singleton.2 h
  rcases consists_of_isSchemeChar hone c List.mem_cons_self with hunreserved | hplus
  · exact (lt_of_isUnreserved hunreserved).2.1
  · rw [List.mem_singleton.1 hplus]
    decide

theorem isLetter_toLower {c : Char} (h : Address.isLetter c = true) :
    Address.isLetter c.toLower = true := by
  have hall : ∀ n < 128, Address.isLetter (Char.ofNat n) = true →
      Address.isLetter (Char.ofNat n).toLower = true := by decide +kernel
  have hascii : c.toNat < 128 := (lt_of_isUnreserved (isUnreserved_of_isLetter h)).2.1
  exact forall_ascii (P := fun c => Address.isLetter c = true → Address.isLetter c.toLower = true)
    hall hascii h

theorem isLetter_of_mem_type : ∀ c ∈ p.type, Address.isLetter c = true :=
  List.forall_mem_map.2 fun c hc => isLetter_toLower (p.scheme_letters c hc)

theorem not_mem_type {c : Char} (h : Address.isLetter c = false) : c ∉ p.type := by
  intro hc
  cases h.symm.trans (p.isLetter_of_mem_type c hc)

/-- The driver is no part of the type. -/
theorem typeOfScheme_eq : Dsn.typeOfScheme (lower p.schemeText) = p.type := by
  have hascii : ∀ c ∈ p.schemeText, c.toNat < 128 := fun c hc =>
    ascii_of_isSchemeChar (p.isSchemeChar_schemeText c hc)
  have hscheme : ∀ c ∈ p.scheme, c.toNat < 128 := fun c hc =>
    (lt_of_isUnreserved (isUnreserved_of_isLetter (p.scheme_letters c hc))).2.1
  have hplus : '+' ∉ p.type := p.not_mem_type (by decide)
  -- lower case is taken twice: of the whole scheme when the address is cut, and then of the type
  have hbefore : before '+' (lower p.schemeText) = p.type := by
    rw [lower_of_ascii hascii, schemeText, List.map_append]
    cases p.driver with
    | none => rw [List.map_nil, List.append_nil]; exact before_of_not_mem hplus
    | some driver => exact before_append_cons hplus _
  rw [Dsn.typeOfScheme, hbefore]
  exact lower_map_toLower hscheme

/-- An option is read as the name and the value that it was written from. -/
theorem pair_optionText {option : String × String} (h : option.2 ≠ "") :
    (match cut? '=' (optionText option) with
      | some (name, c :: value) => some (String.ofList (unescapeQuery name),
          String.ofList (unescapeQuery (c :: value)))
      | _ => none) = some option := by
  have hequals : '=' ∉ percentEncode option.1 :=
    (consists_percentEncode _).not_mem (by decide) (by decide)
  -- options without a value are dropped, but escaping leaves no value empty that was not
  obtain ⟨c, rest, hcons⟩ := List.exists_cons_of_ne_nil (percentEncode_ne_nil h)
  rw [optionText, cut?_append_cons hequals, hcons]
  dsimp only
  rw [← hcons, unescapeQuery_percentEncode, unescapeQuery_percentEncode, String.ofList_toList,
    String.ofList_toList]

theorem splitOn_queryText (h : p.options ≠ []) :
    splitOn '&' p.queryText = p.options.map optionText := by
  obtain ⟨first, rest, hoptions⟩ := List.exists_cons_of_ne_nil h
  rw [queryText, hoptions, List.map_cons]
  refine splitOn_join _ _ fun part hpart => ?_
  rw [← List.map_cons] at hpart
  obtain ⟨option, -, rfl⟩ := List.mem_map.1 hpart
  exact (consists_optionText option).not_mem (by decide) (by decide)

/-- The query is read as the options that it was written from. -/
theorem pairs_eq : Dsn.pairs p.queryText = p.options := by
  by_cases h : p.options = []
  · rw [queryText, h]
    rfl
  · rw [Dsn.pairs, splitOn_queryText p h, List.filterMap_map]
    refine (List.filterMap_congr fun option hoption => ?_).trans List.filterMap_some
    exact pair_optionText (p.options_values option hoption)

/-! ## The server -/

variable {a : Address}

theorem credentials_eq (h : a.authority = p.authorityText) :
    a.credentials = (some (percentEncode p.user), some (percentEncode p.password)) := by
  -- the last at sign ends the credentials, and the first colon in them ends the user
  have hat : '@' ∉ p.serverText := p.consists_serverText.not_mem (by decide) (by decide)
  have hcolon : ':' ∉ percentEncode p.user :=
    (consists_percentEncode _).not_mem (by decide) (by decide)
  rw [Address.credentials, h, authorityText, cutLast?_append_cons hat]
  dsimp only
  rw [credentialsText, cut?_append_cons hcolon]

theorem endpoint_eq (h : a.authority = p.authorityText) :
    a.endpoint = (p.host, Number.natChars p.port) := by
  have hat : '@' ∉ p.serverText := p.consists_serverText.not_mem (by decide) (by decide)
  have hopen : '[' ∉ p.serverText := p.consists_serverText.not_mem (by decide) (by decide)
  have hcolon : ':' ∉ p.host := p.consists_host.not_mem (by decide) (by decide)
  have hserver : Address.serverPart p.authorityText = p.serverText := by
    rw [Address.serverPart, authorityText, cutLast?_append_cons hat]
  rw [Address.endpoint, h, hserver, cut?_of_not_mem hopen]
  dsimp only
  rw [serverText, cut?_append_cons hcolon]
  rfl

theorem toLower_of_isHostChar {c : Char} (h : isHostChar c = true) : c.toLower = c := by
  have hall : ∀ n < 128, isHostChar (Char.ofNat n) = true →
      (Char.ofNat n).toLower = Char.ofNat n := by decide +kernel
  have hascii : c.toNat < 128 := (lt_of_isUnreserved (isUnreserved_of_isHostChar h)).2.1
  exact forall_ascii (P := fun c => isHostChar c = true → c.toLower = c) hall hascii h

/-- A host in lower case stays as it is. -/
theorem host_eq (h : a.authority = p.authorityText) : a.host = p.host := by
  have hpercent : '%' ∉ p.host := p.consists_host.not_mem (by decide) (by decide)
  have hascii : ∀ c ∈ p.host, c.toNat < 128 := fun c hc =>
    (lt_of_isUnreserved (isUnreserved_of_isHostChar (p.host_chars c hc))).2.1
  have hlower : lower p.host = p.host := by
    rw [lower_of_ascii hascii]
    refine (List.map_congr_left fun c hc => ?_).trans (List.map_id _)
    exact toLower_of_isHostChar (p.host_chars c hc)
  have hzone : p.host.dropWhile (· != '%') = [] := by
    rw [List.dropWhile_eq_nil_iff]
    intro c hc
    exact bne_iff_ne.2 fun heq => hpercent (heq ▸ hc)
  rw [Address.host, endpoint_eq p h]
  dsimp only
  rw [before_of_not_mem hpercent, hlower, hzone, List.append_nil]

theorem port_eq (h : a.authority = p.authorityText) : a.port = .ok (some p.port) := by
  have hdigits : (Number.natChars p.port).all Number.isDigit = true :=
    List.all_eq_true.2 fun _ hc => Number.isDigit_of_mem_natChars hc
  have hsome : (Number.natChars p.port).isEmpty = false := by
    rw [List.isEmpty_eq_false_iff]
    exact Number.natChars_ne_nil p.port
  have hlength : ¬ Number.digitLimit < (Number.natChars p.port).length := by
    have hshort : (Number.natChars p.port).length ≤ 5 := by
      rw [Number.natChars, List.length_map]
      exact Number.length_digits_le (by decide) (by have := p.port_le; omega)
    have hlimit : 5 ≤ Number.digitLimit := by decide
    omega
  rw [Address.port, endpoint_eq p h]
  simp only [hsome, hdigits, hlength, Number.readDigits_natChars, p.port_le, if_true, if_false,
    Bool.false_eq_true]

/-- A database holds no slash and no parameters. -/
theorem plainPath_eq (h : a.path = '/' :: p.database) : a.plainPath = '/' :: p.database := by
  have hslash : '/' ∉ p.database := p.consists_database.not_mem (by decide) (by decide)
  have hsemicolon : ';' ∉ p.database := p.consists_database.not_mem (by decide) (by decide)
  have hdrop : Address.dropParameters ('/' :: p.database) = '/' :: p.database := by
    have hcut : cutLast? '/' ('/' :: p.database) = some ([], p.database) :=
      cutLast?_append_cons hslash []
    rw [Address.dropParameters, hcut]
    dsimp only
    rw [before_of_not_mem hsemicolon, List.nil_append]
  rw [Address.plainPath, h, hdrop, ite_self]

theorem dropWhile_path : ('/' :: p.database).dropWhile (· == '/') = p.database := by
  have hslash : '/' ∉ p.database := p.consists_database.not_mem (by decide) (by decide)
  rw [List.dropWhile_cons, if_pos (beq_self_eq_true '/')]
  cases hdatabase : p.database with
  | nil => rfl
  | cons c rest =>
    refine List.dropWhile_cons_of_neg ?_
    simp only [beq_iff_eq]
    rintro rfl
    exact hslash (hdatabase ▸ List.mem_cons_self)

/-! ## The data source name -/

/-- The parts as reading an address tells them. -/
def dsn : Dsn where
  type := String.ofList p.type
  options := Dsn.optionsOf p.options
  user := some p.user
  password := some p.password
  server := some (.text (String.ofList p.host), .int p.port)
  database := .text (String.ofList p.database)

theorem nonEmpty_eq {s : List Char} (h : s ≠ []) : Dsn.nonEmpty s = .text (String.ofList s) := by
  rw [Dsn.nonEmpty, if_neg (by simpa using h)]

theorem unescaped_percentEncode (s : String) : Dsn.unescaped (percentEncode s) = s := by
  rw [Dsn.unescaped, unescape_percentEncode, String.ofList_toList]

theorem ofAddress_eq (hscheme : a.scheme = lower p.schemeText)
    (hauthority : a.authority = p.authorityText) (hpath : a.path = '/' :: p.database)
    (hquery : a.query = p.queryText) : Dsn.ofAddress a = .ok p.dsn := by
  have hserver : ¬ String.ofList p.type = "sqlite" := p.scheme_server
  simp only [Dsn.ofAddress, hscheme, typeOfScheme_eq, hquery, pairs_eq, credentials_eq p hauthority,
    plainPath_eq p hpath, hserver, if_false, port_eq p hauthority, host_eq p hauthority,
    dropWhile_path, nonEmpty_eq p.host_ne_nil, nonEmpty_eq p.database_ne_nil, Option.map_some,
    unescaped_percentEncode, except_ok_bind]
  rfl

variable {p}

theorem isAddressText_of_isWrittenAs (h : p.IsWrittenAs s) :
    Dsn.IsAddressText (.text (String.ofList s)) (String.ofList s) := by
  refine ⟨rfl, ?_⟩
  obtain ⟨tail, -, rfl⟩ := h
  rw [String.toList_ofList]
  exact occursIn_append Dsn.mark p.schemeText _

/-- An address is read as the parts that it was written from. -/
theorem read_eq (h : p.IsWrittenAs s) : Dsn.read (.text (String.ofList s)) = .ok p.dsn := by
  rw [Dsn.read_of_isAddressText (isAddressText_of_isWrittenAs h), String.toList_ofList,
    read_of_isWrittenAs h]
  exact p.ofAddress_eq rfl rfl rfl rfl

theorem isTruthy_of_isWrittenAs (h : p.IsWrittenAs s) :
    (Value.text (String.ofList s)).isTruthy = true := by
  obtain ⟨tail, -, rfl⟩ := h
  simp [Value.isTruthy]

/-- An address tells the type that its scheme names. -/
theorem typeOf_eq (h : p.IsWrittenAs s) :
    Dsn.typeOf (.text (String.ofList s)) = .ok (some (String.ofList p.type)) := by
  have hscheme : (lower p.schemeText).isEmpty = false := by
    obtain ⟨c, rest, htext, -⟩ := p.exists_schemeText
    have hascii : ∀ c ∈ p.schemeText, c.toNat < 128 := fun c hc =>
      ascii_of_isSchemeChar (p.isSchemeChar_schemeText c hc)
    rw [lower_of_ascii hascii, htext]
    rfl
  rw [Dsn.typeOf_of_isAddressText (.text _) (isTruthy_of_isWrittenAs h)
    (isAddressText_of_isWrittenAs h), String.toList_ofList, read_of_isWrittenAs h, except_ok_bind]
  dsimp only
  rw [hscheme, typeOfScheme_eq]
  rfl

end AddressParts
end BoundUpdate
