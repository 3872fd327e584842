import BoundUpdate.Proofs.Failure.Sequence
import BoundUpdate.Proofs.Json.LineEnds
import BoundUpdate.Proofs.Settings.References
import BoundUpdate.Settings.Sources

namespace BoundUpdate

/-!
# One description of databases in a file and in a variable

A document with descriptions of databases may lie in a file or stand in a
variable.  From the file each entry is read with its references replaced.  From
the variable the references of the whole document are replaced first and those
of each entry again, so what replaced a reference is searched as well.  The two
agree where that second search finds nothing to change.
-/

namespace DatabaseEntry

open Reference

variable {nesting : Nat} {environment : List (String × String)}

/-! ## Entries described by their parts -/

/-- The parts of a description that is not a data source name. -/
def partNames : List String :=
  ["type", "host", "user", "password", "port", "database", "options"]

/-- Whether a description tells the parts of an entry and no data source name. -/
def ByParts (environment : List (String × String)) (d : Value.Entries) : Prop :=
  (expandValue environment (d.getD "dsn" .none)).truth = .ok false

/-- The texts in the parts of a description. -/
def partTexts (d : Value.Entries) : List (List Char) :=
  partNames.flatMap fun name => texts (d.getD name .none)

theorem expandValue_none : expandValue environment .none = .none := by simp [expandValue]

theorem get?_expandEntries (d : Value.Entries) (name : String) :
    Value.Entries.get? (expandEntries environment d) name =
      (Value.Entries.get? d name).map (expandValue environment) := by
  unfold Value.Entries.get? Value.Entries.find?
  induction d with
  | nil => rfl
  | cons entry rest ih =>
    obtain ⟨k, v⟩ := entry
    rw [expandEntries, List.find?_cons, List.find?_cons]
    cases k.sameKey (.text name) with
    | true => rfl
    | false => exact ih

theorem getD_expandEntries (d : Value.Entries) (name : String) {absent : Value}
    (h : expandValue environment absent = absent) :
    Value.Entries.getD (expandEntries environment d) name absent =
      expandValue environment (Value.Entries.getD d name absent) := by
  rw [Value.Entries.getD, Value.Entries.getD, get?_expandEntries]
  cases Value.Entries.get? d name with
  | none => exact h.symm
  | some v => rfl

/-- A text that has become empty stays empty. -/
theorem expand_of_isEmpty {s : String}
    (h : (Value.text (expandText environment s)).isTruthy = false) :
    expand environment (expand environment s.toList) = expand environment s.toList := by
  have hempty : expandText environment s = "" := by simpa [Value.isTruthy] using h
  have hnil : expand environment s.toList = [] := by
    rw [← String.toList_ofList (l := expand environment s.toList)]
    exact congrArg String.toList hempty
  rw [hnil, expand_nil]

/-- A value that counts as nothing when its references are replaced stays as it is then. -/
theorem expandValue_of_not_truthy {v : Value} (h : (expandValue environment v).isTruthy = false) :
    expandValue environment (expandValue environment v) = expandValue environment v := by
  rw [expandValue_twice_iff]
  intro t ht
  cases v with
  | text s =>
    rw [expandValue] at h
    rw [texts, List.mem_singleton] at ht
    exact ht ▸ expand_of_isEmpty h
  | enumMember m =>
    rw [expandValue] at h
    rw [texts] at ht
    cases hm : (Value.enumMember m).text? with
    | none => simp [hm] at ht
    | some s =>
      simp only [hm, List.mem_singleton] at h ht
      exact ht ▸ expand_of_isEmpty h
  | dict entries =>
    cases entries with
    | nil => simp [texts, entryTexts] at ht
    | cons entry rest => simp [expandValue, expandEntries, Value.isTruthy] at h
  | list items =>
    cases items with
    | nil => simp [texts, itemTexts] at ht
    | cons v rest => simp [expandValue, expandItems, Value.isTruthy] at h
  | _ => simp [texts] at ht

theorem expandValue_ne_object {v : Value} (h : ∀ type fields, v ≠ .object type fields)
    (type : Blueprint Value) (fields : List (String × Value)) :
    expandValue environment v ≠ .object type fields := by
  cases v with
  | enumMember m => cases hm : (Value.enumMember m).text? <;> simp [expandValue, hm]
  | object type fields => exact absurd rfl (h type fields)
  | _ => simp [expandValue]

theorem truth_of_ne_object {v : Value} (h : ∀ type fields, v ≠ .object type fields) :
    v.truth = .ok v.isTruthy := by
  unfold Value.truth
  split
  · exact absurd rfl (h _ _)
  · rfl

theorem orElse_of_truth {v other : Value} {b : Bool} (h : v.truth = .ok b) :
    v.orElse other = .ok (if b then v else other) := by
  rw [Value.orElse, h]
  cases b <;> rfl

/-- Options that count as nothing are told as no options, which leaves the same ones the same. -/
theorem orElse_expandValue_iff (v : Value) :
    (expandValue environment (expandValue environment v)).orElse (.dict []) =
        (expandValue environment v).orElse (.dict []) ↔
      expandValue environment (expandValue environment v) = expandValue environment v := by
  refine ⟨fun h => ?_, fun h => by rw [h]⟩
  cases htruthy : (expandValue environment v).isTruthy with
  | false => exact expandValue_of_not_truthy htruthy
  | true =>
    -- an object may refuse to tell whether it counts as nothing, but nothing in it is replaced
    by_cases hobject : ∃ type fields, v = .object type fields
    · obtain ⟨type, fields, rfl⟩ := hobject
      simp only [expandValue]
    · have hv : ∀ type fields, v ≠ .object type fields :=
        fun type fields hv => hobject ⟨type, fields, hv⟩
      have honce : (expandValue environment v).truth = .ok _ :=
        truth_of_ne_object (expandValue_ne_object hv)
      have htwice : (expandValue environment (expandValue environment v)).truth = .ok _ :=
        truth_of_ne_object (expandValue_ne_object (expandValue_ne_object hv))
      rw [orElse_of_truth honce, orElse_of_truth htwice, htruthy] at h
      have heq := Except.ok.inj h
      split at heq
      · exact heq
      · rw [if_pos rfl] at heq
        rw [← heq] at htruthy
        cases htruthy

theorem ofParts_eq_ok_iff {d : Value.Entries} {e : DatabaseEntry} :
    ofParts d = .ok e ↔
      (d.getD "type" .none).truth = .ok true ∧ describedOptions d = .ok e.options ∧
        d.getD "type" .none = e.type ∧ d.getD "dsn" .none = e.dsn ∧
        d.getD "host" .none = e.host ∧ d.getD "user" .none = e.user ∧
        d.getD "password" .none = e.password ∧ d.getD "port" .none = e.port ∧
        d.getD "database" .none = e.database := by
  simp only [ofParts]
  cases (d.getD "type" .none).truth with
  | error failure => exact ⟨(fun h => nomatch h), fun h => nomatch h.1⟩
  | ok b =>
    cases b with
    | false => exact ⟨(fun h => nomatch h), fun h => nomatch h.1⟩
    | true =>
      cases describedOptions d with
      | error failure => exact ⟨(fun h => nomatch h), fun h => nomatch h.2.1⟩
      | ok options =>
        constructor
        · intro h
          cases h
          exact ⟨rfl, rfl, rfl, rfl, rfl, rfl, rfl, rfl, rfl⟩
        · rintro ⟨-, hoptions, htype, hdsn, hhost, huser, hpassword, hport, hdatabase⟩
          rw [htype, hdsn, hhost, huser, hpassword, hport, hdatabase, Except.ok.inj hoptions]
          rfl

theorem ofEntries_of_byParts {d : Value.Entries} (h : ByParts environment d)
    (hnests : (Value.dict d).nestsWithin (levels nesting) = true) :
    ofEntries nesting environment d = ofParts (expandEntries environment d) := by
  simp only [ofEntries]
  rw [expandedEntries_of_nestsWithin hnests, except_ok_bind,
    getD_expandEntries d "dsn" expandValue_none, h]
  rfl

theorem nestsWithin_of_ofEntries {d : Value.Entries} {e : DatabaseEntry}
    (h : ofEntries nesting environment d = .ok e) :
    (Value.dict d).nestsWithin (levels nesting) = true := by
  obtain ⟨found, hfound, -⟩ := except_bind_ok h
  exact nestsWithin_of_expandedEntries hfound

/-- A part of a description whose references are replaced twice and once. -/
theorem part_again_iff (d : Value.Entries) (name : String) :
    Value.Entries.getD (expandEntries environment (expandEntries environment d)) name .none =
        Value.Entries.getD (expandEntries environment d) name .none ↔
      Settled environment (texts (d.getD name .none)) := by
  rw [getD_expandEntries _ name expandValue_none, getD_expandEntries _ name expandValue_none,
    expandValue_twice_iff]

theorem options_again_iff (d : Value.Entries) :
    describedOptions (expandEntries environment (expandEntries environment d)) =
        describedOptions (expandEntries environment d) ↔
      Settled environment (texts (d.getD "options" .none)) := by
  have hdict : expandValue environment (.dict []) = .dict [] := by
    simp [expandValue, expandEntries]
  have htexts : texts (d.getD "options" .none) = texts (d.getD "options" (.dict [])) := by
    rw [Value.Entries.getD, Value.Entries.getD]
    cases Value.Entries.get? d "options" <;> simp [texts, entryTexts]
  rw [describedOptions, describedOptions, getD_expandEntries _ _ hdict,
    getD_expandEntries _ _ hdict, orElse_expandValue_iff, expandValue_twice_iff, htexts]

theorem settled_partTexts_iff (d : Value.Entries) :
    Settled environment (partTexts d) ↔
      ∀ name ∈ partNames, Settled environment (texts (d.getD name .none)) := by
  simp only [Settled, partTexts, List.mem_flatMap]
  exact ⟨fun h name hname t ht => h t ⟨name, hname, ht⟩,
    fun h t ⟨name, hname, ht⟩ => h name hname t ht⟩

/-- An entry that is described by its parts is the same after one more replacing if and only if
that changes none of the texts in its parts. -/
theorem ofEntries_again_iff {d : Value.Entries} {e : DatabaseEntry}
    (hparts : ByParts environment d) (h : ofEntries nesting environment d = .ok e) :
    ofEntries nesting environment (expandEntries environment d) = .ok e ↔
      Settled environment (partTexts d) := by
  -- a data source name that has become empty stays empty, so the parts are read again
  have hdsn : Value.Entries.getD (expandEntries environment (expandEntries environment d))
      "dsn" .none = Value.Entries.getD (expandEntries environment d) "dsn" .none := by
    rw [getD_expandEntries _ _ expandValue_none, getD_expandEntries _ _ expandValue_none]
    exact expandValue_of_not_truthy (Value.isTruthy_of_truth hparts)
  have hagain : ByParts environment (expandEntries environment d) := by
    rw [getD_expandEntries _ _ expandValue_none, getD_expandEntries _ _ expandValue_none] at hdsn
    rw [ByParts, getD_expandEntries d "dsn" expandValue_none, hdsn]
    exact hparts
  have hnests := nestsWithin_of_ofEntries h
  rw [ofEntries_of_byParts hparts hnests] at h
  rw [ofEntries_of_byParts hagain ((nestsWithin_dict_expandEntries d _).trans hnests),
    settled_partTexts_iff]
  obtain ⟨htruth, hoptions, htype, hname, hhost, huser, hpassword, hport, hdatabase⟩ :=
    ofParts_eq_ok_iff.1 h
  rw [ofParts_eq_ok_iff, ← hoptions, ← htype, ← hname, ← hhost, ← huser, ← hpassword, ← hport,
    ← hdatabase, hdsn, options_again_iff]
  simp only [part_again_iff, partNames, List.forall_mem_cons]
  constructor
  · rintro ⟨-, hoptions, htype, -, hhost, huser, hpassword, hport, hdatabase⟩
    exact ⟨htype, hhost, huser, hpassword, hport, hdatabase, hoptions, fun _ h => nomatch h⟩
  · rintro ⟨htype, hhost, huser, hpassword, hport, hdatabase, hoptions, -⟩
    refine ⟨?_, hoptions, htype, trivial, hhost, huser, hpassword, hport, hdatabase⟩
    rw [(part_again_iff d "type").2 htype, htruth]

end DatabaseEntry

namespace Settings

open Reference

variable {nesting : Nat} {environment : List (String × String)}

/-! ## Entries of a document -/

/-- The entries of a document whose values are objects. -/
def objects (described : List (Value × Value.Entries)) : Value.Entries :=
  described.map fun entry => (entry.1, .dict entry.2)

/-- Descriptions with their references replaced. -/
def replaced (environment : List (String × String)) (described : List (Value × Value.Entries)) :
    List (Value × Value.Entries) :=
  described.map fun entry => (entry.1, expandEntries environment entry.2)

theorem expandEntries_objects (described : List (Value × Value.Entries)) :
    expandEntries environment (objects described) = objects (replaced environment described) := by
  induction described with
  | nil => simp [objects, replaced, expandEntries]
  | cons entry rest ih =>
    simp only [objects, replaced, List.map_cons, expandEntries, expandValue] at ih ⊢
    rw [ih]

theorem readEntries_objects_cons (nesting : Nat) (environment : List (String × String))
    (entry : Value × Value.Entries) (rest : List (Value × Value.Entries)) :
    readEntries nesting environment (objects (entry :: rest)) = (do
      let e ← DatabaseEntry.ofEntries nesting environment entry.2
      let others ← readEntries nesting environment (objects rest)
      return (entry.1, e) :: others) := rfl

theorem readEntries_objects_cons_eq_ok_iff {entry : Value × Value.Entries}
    {rest : List (Value × Value.Entries)} {databases : List (Value × DatabaseEntry)} :
    readEntries nesting environment (objects (entry :: rest)) = .ok databases ↔
      ∃ e others, DatabaseEntry.ofEntries nesting environment entry.2 = .ok e ∧
        readEntries nesting environment (objects rest) = .ok others ∧
        databases = (entry.1, e) :: others := by
  constructor
  · intro h
    obtain ⟨e, he, h⟩ := except_bind_ok h
    obtain ⟨others, hothers, h⟩ := except_bind_ok h
    exact ⟨e, others, he, hothers, (Except.ok.inj h).symm⟩
  · rintro ⟨e, others, he, hothers, rfl⟩
    rw [readEntries_objects_cons, he, hothers]
    rfl

theorem exists_entry_of_readEntries {described : List (Value × Value.Entries)}
    {databases : List (Value × DatabaseEntry)}
    (h : readEntries nesting environment (objects described) = .ok databases) :
    ∀ entry ∈ described, ∃ e, DatabaseEntry.ofEntries nesting environment entry.2 = .ok e := by
  induction described generalizing databases with
  | nil => simp
  | cons entry rest ih =>
    obtain ⟨e, others, he, hothers, -⟩ := readEntries_objects_cons_eq_ok_iff.1 h
    exact List.forall_mem_cons.2 ⟨⟨e, he⟩, ih hothers⟩

/-- Entries that are read with the references of their descriptions replaced once and twice are
the same if and only if each one is. -/
theorem readEntries_again_iff {described : List (Value × Value.Entries)}
    {filed loaded : List (Value × DatabaseEntry)}
    (honce : readEntries nesting environment (objects described) = .ok filed)
    (htwice : readEntries nesting environment (objects (replaced environment described)) =
      .ok loaded) :
    loaded = filed ↔ ∀ entry ∈ described,
      DatabaseEntry.ofEntries nesting environment (expandEntries environment entry.2) =
        DatabaseEntry.ofEntries nesting environment entry.2 := by
  induction described generalizing filed loaded with
  | nil =>
    cases honce
    cases htwice
    simp
  | cons entry rest ih =>
    obtain ⟨e, others, he, hothers, rfl⟩ := readEntries_objects_cons_eq_ok_iff.1 honce
    obtain ⟨e', others', he', hothers', rfl⟩ := readEntries_objects_cons_eq_ok_iff.1 htwice
    have hentry :
        DatabaseEntry.ofEntries nesting environment (expandEntries environment entry.2) =
          .ok e' := he'
    rw [List.forall_mem_cons, ← ih hothers hothers', he, hentry]
    simp

/-- Settled descriptions are read alike before and after their references are replaced. -/
theorem readEntries_replaced {described : List (Value × Value.Entries)}
    (h : ∀ entry ∈ described, Settled environment (entryTexts entry.2)) :
    readEntries nesting environment (objects (replaced environment described)) =
      readEntries nesting environment (objects described) := by
  induction described with
  | nil => rfl
  | cons entry rest ih =>
    obtain ⟨hentry, hrest⟩ := List.forall_mem_cons.1 h
    have hsame : DatabaseEntry.ofEntries nesting environment (expandEntries environment entry.2) =
        DatabaseEntry.ofEntries nesting environment entry.2 := by
      rw [DatabaseEntry.ofEntries, DatabaseEntry.ofEntries, expandedEntries_expandEntries hentry]
    have hcons := readEntries_objects_cons nesting environment
      (entry.1, expandEntries environment entry.2) (replaced environment rest)
    rw [readEntries_objects_cons, ← hsame, ← ih hrest]
    exact hcons

/-! ## Both loaders -/

/-- A document that stands in the variable of one source and in a file of the other one, with no
further description of databases beside it. -/
structure StandsInBoth (s : Surroundings) (start : String) (l : Location) (document : String) :
    Prop where
  inline : filled? s (start ++ "DATABASES_JSON") = some document
  noLocation : locationIn s (start ++ "DBINFOS_PATH") = none
  noSingle : filled? s (start ++ "DB_KEY") = none ∨ filled? s (start ++ "DB_DSN") = none
  filed : ∃ found bytes, l.fromHome? s = some found ∧ found.find s = .file bytes ∧
    Text.Utf8.decode? bytes = some document.toList

variable {s : Surroundings} {start document : String} {l : Location}
  {described : List (Value × Value.Entries)}

theorem parseDocument_eq_ok {wrap : Cause → ConfigurationFault} {text : List Char} {v : Value}
    (h : Json.read text nesting = .ok v) : parseDocument wrap text nesting = .ok v := by
  rw [parseDocument, h]

/-- A document is read from a file as it would be from a variable, whatever its line ends are. -/
theorem readDocument_eq_ok {found : Location} {bytes : List UInt8} {v : Value}
    (hhome : l.fromHome? s = some found) (hfind : found.find s = .file bytes)
    (hdecode : Text.Utf8.decode? bytes = some document.toList)
    (hread : Json.read document.toList s.nesting = .ok v) : readDocument s l = .ok v := by
  rw [readDocument, hhome]
  simp only [readFile, hfind, hdecode]
  exact parseDocument_eq_ok (Json.read_unifyLines hread)

theorem StandsInBoth.readDocument_eq_ok (h : StandsInBoth s start l document) {v : Value}
    (hread : Json.read document.toList s.nesting = .ok v) : readDocument s l = .ok v := by
  obtain ⟨found, bytes, hhome, hfind, hdecode⟩ := h.filed
  exact Settings.readDocument_eq_ok hhome hfind hdecode hread

theorem orElse_dict (described : Value.Entries) :
    (Value.dict described).orElse (.dict []) = .ok (.dict described) := by
  cases described <;> rfl

/-- Without any tuning the settings are the standard ones with the databases. -/
theorem assemble_standard (databases : List (Value × DatabaseEntry)) :
    assemble databases .none (.ofEntries []) id = .ok { databases } := by
  rfl

/-- From the file every entry is read with its references replaced. -/
theorem StandsInBoth.fromFiles_eq (h : StandsInBoth s start l document)
    (hread : Json.read document.toList s.nesting = .ok (.dict (objects described))) :
    fromFiles s none (some l) = (readEntries s.nesting s.environment (objects described)).map
      fun databases => { databases } := by
  simp only [fromFiles, optionalDocument, h.readDocument_eq_ok hread, ofDocuments]
  change (do
    let shared ← (← (Value.dict (objects described)).orElse (.dict [])).toEntries
    let databases ← readEntries s.nesting s.environment (Value.Entries.merge shared [])
    assemble databases .none (.ofEntries []) id) = _
  rw [orElse_dict]
  change (do
    let databases ← readEntries s.nesting s.environment (Value.Entries.merge (objects described) [])
    assemble databases .none (.ofEntries []) id) = _
  rw [Value.Entries.merge_nil]
  cases readEntries s.nesting s.environment (objects described) with
  | error failure => rfl
  | ok databases => exact assemble_standard databases

/-- Whether the references of a document with descriptions can be replaced as a whole. -/
def Shallow (s : Surroundings) (described : List (Value × Value.Entries)) : Prop :=
  (Value.dict (objects described)).nestsWithin (levels s.nesting + 1) = true

instance : Decidable (Shallow s described) :=
  inferInstanceAs (Decidable ((Value.dict (objects described)).nestsWithin _ = true))

theorem StandsInBoth.inlineDescriptions_eq (h : StandsInBoth s start l document)
    (hread : Json.read document.toList s.nesting = .ok (.dict (objects described))) :
    inlineDescriptions s start = if Shallow s described then
      .ok (.dict (objects (replaced s.environment described))) else .error (.tooDeep "") := by
  simp only [inlineDescriptions, h.inline, parseDocument_eq_ok hread]
  change expanded s.nesting s.environment (.dict (objects described)) = _
  rw [expanded, expandValue, expandEntries_objects]
  rfl

theorem StandsInBoth.allDescriptions_eq (h : StandsInBoth s start l document)
    (hread : Json.read document.toList s.nesting = .ok (.dict (objects described)))
    (hshallow : Shallow s described) :
    allDescriptions s start = .ok (.dict (objects (replaced s.environment described))) := by
  have hfound :
      descriptions s start = .ok (.dict (objects (replaced s.environment described))) := by
    rw [descriptions, h.inlineDescriptions_eq hread, if_pos hshallow]
    simp only [h.noLocation]
    change (if _ then _ else _) = _
    split <;> rfl
  rw [allDescriptions, hfound, except_ok_bind]
  obtain hsingle | hsingle := h.noSingle
  · rw [hsingle]
    rfl
  · rw [hsingle]
    cases filled? s (start ++ "DB_KEY") <;> rfl

/-- The settings that variables give together with databases. -/
def tuned (s : Surroundings) (start : String) (databases : List (Value × DatabaseEntry)) :
    Except Failure Settings :=
  assemble databases (defaultIn s start (databases.map Prod.fst)) (.ofVariables s start)
    fun name => start ++ Tuning.variableName name

/-- From the variable every entry is read with the references replaced in the whole document and
once more in the entry. -/
theorem StandsInBoth.fromVariables_eq (h : StandsInBoth s start l document)
    (hread : Json.read document.toList s.nesting = .ok (.dict (objects described))) :
    fromVariables s start = if Shallow s described then
      (readEntries s.nesting s.environment (objects (replaced s.environment described))).bind
        (tuned s start) else .error (.tooDeep "") := by
  split
  · next hshallow =>
    rw [fromVariables, h.allDescriptions_eq hread hshallow]
    rfl
  · next hdeep =>
    rw [fromVariables, allDescriptions, descriptions, h.inlineDescriptions_eq hread, if_neg hdeep]
    rfl

theorem entriesNestWithin_objects {n : Nat}
    (h : ∀ entry ∈ described, (Value.dict entry.2).nestsWithin n = true) :
    Value.entriesNestWithin (objects described) n = true := by
  induction described with
  | nil => rfl
  | cons entry rest ih =>
    obtain ⟨hentry, hrest⟩ := List.forall_mem_cons.1 h
    have hothers := ih hrest
    rw [objects] at hothers
    rw [objects, List.map_cons, Value.entriesNestWithin, hentry, hothers, Bool.and_self]

/-- A document whose entries are read one by one from the file is searched as a whole, too. -/
theorem StandsInBoth.shallow_of_fromFiles (h : StandsInBoth s start l document)
    (hread : Json.read document.toList s.nesting = .ok (.dict (objects described)))
    {filed : Settings} (hfiled : fromFiles s none (some l) = .ok filed) :
    Shallow s described := by
  rw [h.fromFiles_eq hread] at hfiled
  obtain ⟨databases, hdatabases, -⟩ := except_map_ok hfiled
  refine entriesNestWithin_objects fun entry hentry => ?_
  obtain ⟨e, he⟩ := exists_entry_of_readEntries hdatabases entry hentry
  exact DatabaseEntry.nestsWithin_of_ofEntries he

theorem databases_of_assemble {databases : List (Value × DatabaseEntry)} {name : Value}
    {tuning : Tuning} {label : String → String} {settings : Settings}
    (h : assemble databases name tuning label = .ok settings) : settings.databases = databases := by
  obtain ⟨timeout, -, h⟩ := except_bind_ok h
  obtain ⟨prefixes, -, h⟩ := except_bind_ok h
  obtain ⟨snakeCase, -, h⟩ := except_bind_ok h
  obtain ⟨logsBoundValues, -, h⟩ := except_bind_ok h
  cases h
  rfl

/-- What both loaders give of one document.  From the file each entry is read with its references
replaced once, from the variable with those of the result replaced again, unless the document lies
too deep in itself, which no document does that is loaded from the file.  The databases are the
same if and only if that second replacing changes no entry; for entries that are described by
their parts, if and only if it changes no text in a part.  In particular they are the same when
nothing that replaces a reference makes up another one.  Each replacing goes over all references
of a text and over nothing else. -/
theorem databases_of_file_and_variable (h : StandsInBoth s start l document)
    (hread : Json.read document.toList s.nesting = .ok (.dict (objects described))) :
    fromFiles s none (some l) =
      ((readEntries s.nesting s.environment (objects described)).map
        fun databases => { databases }) ∧
    fromVariables s start = (if Shallow s described then
      (readEntries s.nesting s.environment (objects (replaced s.environment described))).bind
        (tuned s start) else .error (.tooDeep "")) ∧
    (∀ filed, fromFiles s none (some l) = .ok filed → Shallow s described) ∧
    (∀ filed loaded, fromFiles s none (some l) = .ok filed → fromVariables s start = .ok loaded →
      (loaded.databases = filed.databases ↔ ∀ entry ∈ described,
        DatabaseEntry.ofEntries s.nesting s.environment (expandEntries s.environment entry.2) =
          DatabaseEntry.ofEntries s.nesting s.environment entry.2) ∧
      ((∀ entry ∈ described, DatabaseEntry.ByParts s.environment entry.2) →
        (loaded.databases = filed.databases ↔ ∀ entry ∈ described,
          Settled s.environment (DatabaseEntry.partTexts entry.2)))) ∧
    ((∀ entry ∈ described, Settled s.environment (entryTexts entry.2)) → Shallow s described →
      fromVariables s start = (fromFiles s none (some l)).bind fun filed =>
        tuned s start filed.databases) ∧
    (∀ front name rest, IsName name →
      expand s.environment (front ++ (reference name ++ rest)) =
        expand s.environment front ++
          (valueOf s.environment name ++ expand s.environment rest)) ∧
    ∀ t, (∀ name, ¬ Refers t name) → expand s.environment t = t := by
  have hfile := h.fromFiles_eq hread
  have hvariable := h.fromVariables_eq hread
  refine ⟨hfile, hvariable, fun filed hfiled => h.shallow_of_fromFiles hread hfiled,
    fun filed loaded hfiled hloaded => ?_, fun hsettled hshallow => ?_,
    fun front name rest hname => expand_append_reference hname front rest,
    fun t ht => expand_of_no_reference ht⟩
  · rw [hvariable, if_pos (h.shallow_of_fromFiles hread hfiled)] at hloaded
    rw [hfile] at hfiled
    obtain ⟨once, honce, rfl⟩ := except_map_ok hfiled
    obtain ⟨twice, htwice, hassemble⟩ := except_bind_ok hloaded
    rw [databases_of_assemble hassemble, readEntries_again_iff honce htwice]
    refine ⟨Iff.rfl, fun hparts => forall₂_congr fun entry hentry => ?_⟩
    obtain ⟨e, he⟩ := exists_entry_of_readEntries honce entry hentry
    rw [he]
    exact DatabaseEntry.ofEntries_again_iff (hparts entry hentry) he
  · rw [hvariable, if_pos hshallow, hfile, readEntries_replaced hsettled]
    cases readEntries s.nesting s.environment (objects described) <;> rfl

/-! A document with one password, which is told by a variable. -/

/-- The passwords of loaded databases. -/
def passwords (loaded : Except Failure Settings) : Option (List (Option String)) :=
  loaded.toOption.map fun settings => settings.databases.map fun entry => entry.2.password.text?

/-- A document whose one password is the value of a variable. -/
def passwordDocument : String :=
  "\x7b\"main\": \x7b\"type\": \"mysql\", \"password\": \"$\x7bPW\x7d\"\x7d\x7d"

/-- The description in that document. -/
def passwordDescription : Value.Entries :=
  [(.text "type", .text "mysql"), (.text "password", .text "$\x7bPW\x7d")]

/-- The bytes of that document. -/
def passwordBytes : List UInt8 := passwordDocument.toList.map fun c => UInt8.ofNat c.toNat

/-- Surroundings with that document in a variable and in a file. -/
def passwordSurroundings (environment : List (String × String)) : Surroundings where
  environment := ("QB_DATABASES_JSON", passwordDocument) :: environment
  files := [("dbinfos.json", passwordBytes)]

theorem exists_of_passwords {x : Except Failure Settings} {found : List (Option String)}
    (h : passwords x = some found) :
    ∃ settings, x = .ok settings ∧ passwords (.ok settings) = some found := by
  cases x with
  | error failure => cases h
  | ok settings => exact ⟨settings, rfl, h⟩

theorem passwordDocument_read :
    Json.read passwordDocument.toList Nesting.usual =
      .ok (.dict (objects [(.text "main", passwordDescription)])) := by
  have hread : Json.read passwordDocument.toList Nesting.usual =
      .ok (.dict [(.text "main", .dict passwordDescription)]) := by cbv
  exact hread

/-- A password without references is the same from both sources. -/
theorem databases_of_plain_password :
    let s := passwordSurroundings [("PW", "a$b")]
    let l := Location.ofPath "dbinfos.json"
    ∃ filed loaded, fromFiles s none (some l) = .ok filed ∧ fromVariables s "QB_" = .ok loaded ∧
      passwords (.ok filed) = some [some "a$b"] ∧ loaded.databases = filed.databases := by
  intro s l
  have hboth : StandsInBoth s "QB_" l passwordDocument :=
    ⟨by decide +kernel, by decide +kernel, .inl (by decide +kernel), l, passwordBytes,
      by decide +kernel, by decide +kernel, by decide +kernel⟩
  have hfile : passwords (fromFiles s none (some l)) = some [some "a$b"] := by decide +kernel
  have hvariable : passwords (fromVariables s "QB_") = some [some "a$b"] := by decide +kernel
  obtain ⟨filed, hfiled, hfound⟩ := exists_of_passwords hfile
  obtain ⟨loaded, hloaded, -⟩ := exists_of_passwords hvariable
  have hparts : DatabaseEntry.ByParts s.environment passwordDescription := by
    unfold DatabaseEntry.ByParts
    decide +kernel
  have hsettled : Settled s.environment (DatabaseEntry.partTexts passwordDescription) := by
    unfold Settled
    decide +kernel
  obtain ⟨-, -, -, hagree, -⟩ := databases_of_file_and_variable hboth passwordDocument_read
  obtain ⟨-, hagree⟩ := hagree filed loaded hfiled hloaded
  refine ⟨filed, loaded, hfiled, hloaded, hfound, (hagree ?_).2 ?_⟩
  · exact List.forall_mem_singleton.2 hparts
  · exact List.forall_mem_singleton.2 hsettled

/-- A password that looks like a reference is replaced when it comes from a variable. -/
theorem password_replaced_again :
    let s := passwordSurroundings [("PW", "a$\x7bX\x7db"), ("X", "oops")]
    let l := Location.ofPath "dbinfos.json"
    StandsInBoth s "QB_" l passwordDocument ∧
      ∃ filed loaded, fromFiles s none (some l) = .ok filed ∧ fromVariables s "QB_" = .ok loaded ∧
        passwords (.ok filed) = some [some "a$\x7bX\x7db"] ∧
        passwords (.ok loaded) = some [some "aoopsb"] ∧ loaded.databases ≠ filed.databases := by
  intro s l
  have hfile : passwords (fromFiles s none (some l)) = some [some "a$\x7bX\x7db"] := by
    decide +kernel
  have hvariable : passwords (fromVariables s "QB_") = some [some "aoopsb"] := by decide +kernel
  obtain ⟨filed, hfiled, hfound⟩ := exists_of_passwords hfile
  obtain ⟨loaded, hloaded, hfound'⟩ := exists_of_passwords hvariable
  have hboth : StandsInBoth s "QB_" l passwordDocument :=
    ⟨by decide +kernel, by decide +kernel, .inl (by decide +kernel), l, passwordBytes,
      by decide +kernel, by decide +kernel, by decide +kernel⟩
  refine ⟨hboth, filed, loaded, hfiled, hloaded, hfound, hfound', fun heq => ?_⟩
  have hsame : passwords (.ok loaded) = passwords (.ok filed) := by
    simp only [passwords, Except.toOption, Option.map_some, heq]
  rw [hfound, hfound'] at hsame
  exact absurd hsame (by decide)

end Settings
end BoundUpdate
