import BoundUpdate.Proofs.Settings.Naming
import BoundUpdate.Proofs.Settings.Reporting

namespace BoundUpdate

/-!
# Which unusable settings are reported

A reading of files or variables goes through its documents, their sections, the
descriptions of databases and the other settings in a fixed order, and the first
failure counts.  It is reported as a failure of configuration exactly if each
part that is reached has a shape that can be read: a document must be text and an
object, a section a table or nothing, and so on.  What stands behind the first
failure is never looked at.
-/

open Json

namespace Settings

/-! ## Documents -/

variable {s : Surroundings} {nesting : Nat} {environment : List (String × String)} {v : Value}

/-- Whether a text is JSON, or malformed, as far as it is read: no integer on the way is too long
and no value lies too deep. -/
structure TextLegible (nesting : Nat) (text : List Char) : Prop where
  short : ∀ digits, Json.read text nesting ≠ .error (.integerTooLong digits)
  shallow : ∀ form, Json.read text nesting ≠ .error (.tooDeep form)

/-- Whether what stands at a location is neither a directory nor refused, and what a file there
holds can be decoded and read. -/
structure FileLegible (s : Surroundings) (l : Location) : Prop where
  noDirectory : l.find s ≠ .directory
  admitted : ∀ className reason, l.find s ≠ .refused className reason
  text : ∀ bytes, l.find s = .file bytes →
    ∃ text, Text.Utf8.decode? bytes = some text ∧ TextLegible s.nesting (Text.unifyLines text)

/-- Whether the home directory that a location starts with is known, if it does, and what stands at
the location can be read. -/
def DocumentLegible (s : Surroundings) (l : Location) : Prop :=
  ∃ file, l.fromHome? s = some file ∧ FileLegible s file

/-- A text that is no JSON is reported, but for its integers and its depth. -/
theorem reported_parseDocument_iff (wrap : Cause → ConfigurationFault) (text : List Char) :
    Reported (parseDocument wrap text nesting) ↔ TextLegible nesting text := by
  rw [parseDocument]
  cases hread : Json.read text nesting with
  | ok v => exact iff_of_true (reported_ok v) ⟨by simp [hread], by simp [hread]⟩
  | error e =>
    cases e with
    | malformed message position =>
      exact iff_of_true (reported_error_iff.2 rfl) ⟨by simp [hread], by simp [hread]⟩
    | integerTooLong digits =>
      refine iff_of_false (fun h => ?_) fun h => h.short digits hread
      cases reported_error_iff.1 h
    | tooDeep form =>
      refine iff_of_false (fun h => ?_) fun h => h.shallow form hread
      cases reported_error_iff.1 h

theorem reported_readFile_iff (l : Location) : Reported (readFile s l) ↔ FileLegible s l := by
  unfold readFile
  split
  · next hfind =>
    exact iff_of_true (reported_error_iff.2 rfl) ⟨by simp [hfind], by simp [hfind],
      fun bytes hbytes => nomatch hfind.symm.trans hbytes⟩
  · next hfind => exact iff_of_false (fun h => nomatch reported_error_iff.1 h) fun h => h.1 hfind
  · next className reason hfind =>
    exact iff_of_false (fun h => nomatch reported_error_iff.1 h) fun h => h.2 _ _ hfind
  · next bytes hfind =>
    have hfile : ∀ found, l.find s = .file found → found = bytes := by
      intro found hfound
      cases hfind.symm.trans hfound
      rfl
    split
    · next hnone =>
      refine iff_of_false (fun h => nomatch reported_error_iff.1 h) fun h => ?_
      obtain ⟨text, htext, -⟩ := h.text bytes hfind
      cases hnone.symm.trans htext
    · next text htext =>
      rw [reported_parseDocument_iff]
      constructor
      · intro h
        refine ⟨by simp [hfind], by simp [hfind], fun found hfound => ?_⟩
        exact ⟨text, hfile found hfound ▸ htext, h⟩
      · intro h
        obtain ⟨found, hfound, hlegible⟩ := h.text bytes hfind
        cases htext.symm.trans hfound
        exact hlegible

theorem reported_readDocument_iff (l : Location) :
    Reported (readDocument s l) ↔ DocumentLegible s l := by
  rw [readDocument, DocumentLegible]
  cases l.fromHome? s with
  | none =>
    refine iff_of_false (fun h => ?_) fun h => ?_
    · cases reported_error_iff.1 h
    · obtain ⟨_, hhome, -⟩ := h
      cases hhome
  | some file => simp [reported_readFile_iff]

theorem reported_optionalDocument_iff (l : Option Location) :
    Reported (optionalDocument s l) ↔ ∀ found, l = some found → DocumentLegible s found := by
  cases l with
  | none => exact iff_of_true (reported_ok _) fun _ h => nomatch h
  | some l => simp [optionalDocument, reported_readDocument_iff]

/-! ## Sections of databases -/

/-- A section as entries; one that counts as nothing has none. -/
def sectionEntries (v : Value) : Except Failure Value.Entries := do
  (← v.orElse (.dict [])).toEntries

/-- Whether a section is a table or counts as nothing. -/
def SectionLegible (v : Value) : Prop := v.isTruthy = true → IsTable v

/-- Whether the descriptions of databases can be read, up to the first one that fails. -/
def EntriesLegible (nesting : Nat) (environment : List (String × String))
    (entries : Value.Entries) : Prop :=
  ∀ front entry rest, entries = front ++ entry :: rest →
    (∀ earlier ∈ front, ∃ e, DatabaseEntry.read nesting environment earlier.2 = .ok e) →
    DatabaseEntry.EntryLegible nesting environment entry.2

theorem sectionEntries_eq (hv : IsValue v) :
    sectionEntries v = if v.isTruthy then v.toEntries else .ok [] := by
  rw [sectionEntries, hv.orElse, except_ok_bind]
  cases v.isTruthy <;> rfl

theorem reported_sectionEntries_iff (hv : IsValue v) :
    Reported (sectionEntries v) ↔ SectionLegible v := by
  rw [sectionEntries_eq hv, SectionLegible]
  split
  · next htruthy => rw [reported_toEntries_iff hv, imp_iff_right htruthy]
  · next hfalse => exact iff_of_true (reported_ok _) fun htruthy => absurd htruthy hfalse

theorem isValue_of_sectionEntries (hv : IsValue v) {entries : Value.Entries}
    (h : sectionEntries v = .ok entries) : ∀ entry ∈ entries, IsValue entry.2 := by
  rw [sectionEntries_eq hv] at h
  split at h
  · exact isValue_of_toEntries hv h
  · cases h
    exact List.forall_mem_nil _

theorem entriesLegible_cons_iff {entry : Value × Value} {rest : Value.Entries} :
    EntriesLegible nesting environment (entry :: rest) ↔
      DatabaseEntry.EntryLegible nesting environment entry.2 ∧
        ((∃ e, DatabaseEntry.read nesting environment entry.2 = .ok e) →
          EntriesLegible nesting environment rest) := by
  constructor
  · intro h
    refine ⟨h [] entry rest rfl (List.forall_mem_nil _),
      fun hread front next others heq hfront => ?_⟩
    exact h (entry :: front) next others (congrArg _ heq) (List.forall_mem_cons.2 ⟨hread, hfront⟩)
  · rintro ⟨hentry, hrest⟩ front next others heq hfront
    cases front with
    | nil =>
      cases heq
      exact hentry
    | cons first front =>
      obtain ⟨rfl, rfl⟩ := List.cons.inj heq
      obtain ⟨hfirst, hfront⟩ := List.forall_mem_cons.1 hfront
      exact hrest hfirst front next others rfl hfront

/-- The entries are read in order, and the first failure counts. -/
theorem reported_readEntries_iff {entries : Value.Entries}
    (h : ∀ entry ∈ entries, IsValue entry.2) :
    Reported (readEntries nesting environment entries) ↔
      EntriesLegible nesting environment entries := by
  induction entries with
  | nil =>
    refine iff_of_true (reported_ok _) fun front entry rest heq => ?_
    exact absurd heq.symm (List.append_ne_nil_of_right_ne_nil _ (List.cons_ne_nil _ _))
  | cons entry rest ih =>
    obtain ⟨hentry, hrest⟩ := List.forall_mem_cons.1 h
    -- a first entry that fails hides the rest, whether or not its failure is reported
    rw [readEntries, reported_bind_iff, DatabaseEntry.reported_read_iff hentry,
      entriesLegible_cons_iff, ← ih hrest]
    refine and_congr_right fun _ => ⟨?_, fun hothers e he => ?_⟩
    · rintro hothers ⟨e, he⟩
      exact (reported_bind_iff.1 (hothers e he)).1
    · exact reported_bind_iff.2 ⟨hothers ⟨e, he⟩, fun _ _ => reported_ok _⟩

/-! ## The other settings -/

/-- Whether the settings that are not databases can be read: the time is finite and the prefixes,
which are read behind it, can be run through. -/
structure Tuning.IsLegible (t : Tuning) : Prop where
  timeout : ∀ negative, t.timeout ≠ .float (.infinity negative)
  prefixes : (∃ n, t.timeout.integral = .ok n) → ∃ items, t.prefixes.items? = some items

/-- Whether tuning has values as JSON texts hold them, or the prefixes that are there from the
start. -/
structure Tuning.IsGiven (t : Tuning) : Prop where
  timeout : IsValue t.timeout
  prefixes : IsValue t.prefixes ∨ t.prefixes = .tuple [.text "get", .text "is"]
  snakeCase : IsValue t.snakeCase
  logsBoundValues : IsValue t.logsBoundValues

theorem Tuning.isGiven_ofEntries {document : Value.Entries}
    (h : ∀ entry ∈ document, IsValue entry.2) : (Tuning.ofEntries document).IsGiven := by
  refine ⟨isValue_getD h _ (.int 40), ?_, isValue_getD h _ (.bool true),
    isValue_getD h _ (.bool false)⟩
  change IsValue (document.getD prefixesName _) ∨ document.getD prefixesName _ = _
  rw [Value.Entries.getD]
  cases hfound : document.get? prefixesName with
  | none => exact .inr rfl
  | some v =>
    have hv := isValue_getD h prefixesName IsValue.none
    rw [Value.Entries.getD, hfound] at hv
    exact .inl hv

theorem Tuning.isGiven_ofVariables (s : Surroundings) (start : String) :
    (Tuning.ofVariables s start).IsGiven :=
  ⟨.text _, .inl (.text _), .text _, .text _⟩

theorem Tuning.isLegible_ofVariables (s : Surroundings) (start : String) :
    (Tuning.ofVariables s start).IsLegible where
  timeout := fun _ h => nomatch h
  prefixes := fun _ => ⟨_, rfl⟩

theorem Tuning.IsGiven.reported_toPrefixes_iff {t : Tuning} (h : t.IsGiven) :
    Reported (Coercion.toPrefixes t.prefixes) ↔ ∃ items, t.prefixes.items? = some items := by
  rcases h.prefixes with hvalue | hstandard
  · exact Coercion.reported_toPrefixes_iff hvalue
  · -- a tuple stands in no document, so the prefixes that are there from the start are run
    rw [hstandard]
    refine iff_of_true ?_ ⟨_, rfl⟩
    obtain ⟨items, hitems⟩ := exists_of_isOk
      (x := Coercion.toPrefixes (.tuple [.text "get", .text "is"])) (by decide +kernel)
    exact hitems ▸ reported_ok items

/-- The time is read first, then the prefixes; the truth values are always reported. -/
theorem Tuning.IsGiven.reported_assemble_iff {t : Tuning} (h : t.IsGiven)
    (databases : List (Value × DatabaseEntry)) (name : Value) (label : String → String) :
    Reported (assemble databases name t label) ↔ t.IsLegible := by
  rw [assemble, reported_bind_iff, Coercion.reported_toInt_iff h.timeout]
  constructor
  · rintro ⟨htimeout, hrest⟩
    refine ⟨htimeout, fun hinteger => ?_⟩
    obtain ⟨n, hn⟩ := (Coercion.exists_toInt_iff _).2 hinteger
    exact h.reported_toPrefixes_iff.1 (reported_bind_iff.1 (hrest n hn)).1
  · rintro ⟨htimeout, hprefixes⟩
    refine ⟨htimeout, fun n hn => reported_bind_iff.2 ⟨?_, fun prefixes _ => ?_⟩⟩
    · exact h.reported_toPrefixes_iff.2 (hprefixes ((Coercion.exists_toInt_iff _).1 ⟨n, hn⟩))
    · refine reported_bind_iff.2 ⟨Coercion.reported_toBool h.snakeCase _, fun _ _ => ?_⟩
      exact reported_bind_iff.2
        ⟨Coercion.reported_toBool h.logsBoundValues _, fun _ _ => reported_ok _⟩

/-! ## Settings in files -/

/-- Whether the main document can be read over a shared section: its own section is a table or
nothing, the descriptions of both can be read up to the first one that fails, and if all of them
are read, so can the other settings. -/
structure MainLegible (nesting : Nat) (environment : List (String × String))
    (shared document : Value.Entries) : Prop where
  upper : SectionLegible (document.getD "databases" .none)
  databases : ∀ own, sectionEntries (document.getD "databases" .none) = .ok own →
    EntriesLegible nesting environment (Value.Entries.merge shared own)
  tuning : ∀ own databases, sectionEntries (document.getD "databases" .none) = .ok own →
    readEntries nesting environment (Value.Entries.merge shared own) = .ok databases →
    (Tuning.ofEntries document).IsLegible

/-- Whether two documents can be read: the shared one is a table or nothing and the main one an
object, which is read over it. -/
structure DocumentsLegible (nesting : Nat) (environment : List (String × String))
    (main infos : Value) : Prop where
  lower : SectionLegible infos
  upper : ∀ shared, sectionEntries infos = .ok shared →
    ∃ document, main = .dict document ∧ MainLegible nesting environment shared document

/-- Whether two files can be read, each of which may be left out. -/
structure FilesLegible (s : Surroundings) (main infos : Option Location) : Prop where
  first : ∀ l, main = some l → DocumentLegible s l
  second : ∀ document, optionalDocument s main = .ok document →
    ∀ l, infos = some l → DocumentLegible s l
  documents : ∀ document shared, optionalDocument s main = .ok document →
    optionalDocument s infos = .ok shared →
      DocumentsLegible s.nesting s.environment document shared

theorem objectEntries_eq_ok_iff (wanted : String) {entries : Value.Entries} :
    objectEntries wanted v = .ok entries ↔ v = .dict entries := by
  unfold objectEntries
  split
  · simp
  · next hno => exact iff_of_false (by simp) (hno entries)

theorem reported_objectEntries_iff (wanted : String) :
    Reported (objectEntries wanted v) ↔ ∃ entries, v = .dict entries := by
  have hnever : NeverReported (objectEntries wanted v) := by
    unfold objectEntries
    split
    · exact neverReported_ok _
    · exact neverReported_error (by simp [Failure.kind])
  rw [hnever.reported_iff]
  exact exists_congr fun entries => objectEntries_eq_ok_iff wanted

/-- The settings in the main document over a shared section. -/
def settingsOver (nesting : Nat) (environment : List (String × String))
    (shared document : Value.Entries) : Except Failure Settings := do
  let own ← sectionEntries (document.getD "databases" .none)
  let databases ← readEntries nesting environment (Value.Entries.merge shared own)
  assemble databases (document.getD "default_db" .none) (.ofEntries document) id

theorem ofDocuments_eq_settingsOver (main infos : Value) :
    ofDocuments nesting environment main infos = (do
      let shared ← sectionEntries infos
      let document ← objectEntries "get" main
      settingsOver nesting environment shared document) := by
  simp only [ofDocuments, settingsOver, sectionEntries, bind_assoc]

theorem reported_settingsOver_iff {shared document : Value.Entries}
    (hshared : ∀ entry ∈ shared, IsValue entry.2) (h : ∀ entry ∈ document, IsValue entry.2) :
    Reported (settingsOver nesting environment shared document) ↔
      MainLegible nesting environment shared document := by
  have hsection := isValue_getD h "databases" IsValue.none
  have hmerged : ∀ own, sectionEntries (document.getD "databases" .none) = .ok own →
      ∀ entry ∈ Value.Entries.merge shared own, IsValue entry.2 := fun own hown =>
    Value.Entries.forall_mem_merge hshared (isValue_of_sectionEntries hsection hown)
  have htuning := (Tuning.isGiven_ofEntries h).reported_assemble_iff
  rw [settingsOver, reported_bind_iff, reported_sectionEntries_iff hsection]
  constructor
  · rintro ⟨hupper, hrest⟩
    refine ⟨hupper, fun own hown => ?_, fun own databases hown hdatabases => ?_⟩
    · exact (reported_readEntries_iff (hmerged own hown)).1 (reported_bind_iff.1 (hrest own hown)).1
    · exact (htuning ..).1 ((reported_bind_iff.1 (hrest own hown)).2 databases hdatabases)
  · intro hmain
    refine ⟨hmain.upper, fun own hown => reported_bind_iff.2 ⟨?_, fun databases hdatabases => ?_⟩⟩
    · exact (reported_readEntries_iff (hmerged own hown)).2 (hmain.databases own hown)
    · exact (htuning ..).2 (hmain.tuning own databases hown hdatabases)

theorem reported_ofDocuments_iff {main infos : Value} (hmain : IsValue main)
    (hinfos : IsValue infos) :
    Reported (ofDocuments nesting environment main infos) ↔
      DocumentsLegible nesting environment main infos := by
  rw [ofDocuments_eq_settingsOver, reported_bind_iff, reported_sectionEntries_iff hinfos]
  constructor
  · rintro ⟨hlower, hrest⟩
    refine ⟨hlower, fun shared hshared => ?_⟩
    obtain ⟨hobject, hover⟩ := reported_bind_iff.1 (hrest shared hshared)
    obtain ⟨document, rfl⟩ := (reported_objectEntries_iff "get").1 hobject
    exact ⟨document, rfl, (reported_settingsOver_iff (isValue_of_sectionEntries hinfos hshared)
      hmain.entries.values).1 (hover document rfl)⟩
  · intro h
    refine ⟨h.lower, fun shared hshared => ?_⟩
    obtain ⟨document, rfl, hlegible⟩ := h.upper shared hshared
    exact (reported_settingsOver_iff (isValue_of_sectionEntries hinfos hshared)
      hmain.entries.values).2 hlegible

theorem reported_fromFiles_iff (main infos : Option Location) :
    Reported (fromFiles s main infos) ↔ FilesLegible s main infos := by
  rw [fromFiles, reported_bind_iff, reported_optionalDocument_iff]
  constructor
  · rintro ⟨hmain, hrest⟩
    refine ⟨hmain, fun document hdocument => ?_, fun document shared hdocument hshared => ?_⟩
    · exact (reported_optionalDocument_iff infos).1
        (reported_bind_iff.1 (hrest document hdocument)).1
    · exact (reported_ofDocuments_iff (isValue_of_optionalDocument hdocument)
        (isValue_of_optionalDocument hshared)).1
          ((reported_bind_iff.1 (hrest document hdocument)).2 shared hshared)
  · intro h
    refine ⟨h.first, fun document hdocument => reported_bind_iff.2 ⟨?_, fun shared hshared => ?_⟩⟩
    · exact (reported_optionalDocument_iff infos).2 (h.second document hdocument)
    · exact (reported_ofDocuments_iff (isValue_of_optionalDocument hdocument)
        (isValue_of_optionalDocument hshared)).2 (h.documents document shared hdocument hshared)

/-! ## Settings in variables -/

/-- Whether a document that is found can be searched for references as a whole. -/
def Searchable (s : Surroundings) (document : Except Failure Value) : Prop :=
  ∀ v, document = .ok v → v.nestsWithin (Reference.levels s.nesting + 1) = true

/-- Whether the document in the variable with databases can be read and searched. -/
structure InlineLegible (s : Surroundings) (start text : String) : Prop where
  legible : TextLegible s.nesting text.toList
  searchable : Searchable s
    (parseDocument (.malformedVariable (start ++ "DATABASES_JSON")) text.toList s.nesting)

/-- Whether the document in the file with databases can be read and searched. -/
structure InfosLegible (s : Surroundings) (l : Location) : Prop where
  document : DocumentLegible s l
  searchable : Searchable s (readDocument s l)

/-- Whether variables can be read: the descriptions in one of them, or else those in a file, are
those of an object and can be read up to the first one that fails.  The other variables can always
be read. -/
structure VariablesLegible (s : Surroundings) (start : String) : Prop where
  inline : ∀ text, filled? s (start ++ "DATABASES_JSON") = some text → InlineLegible s start text
  file : ∀ inline, inlineDescriptions s start = .ok inline → inline.isTruthy = false →
    ∀ l, locationIn s (start ++ "DBINFOS_PATH") = some l → InfosLegible s l
  object : ∀ found, descriptions s start = .ok found → ∃ entries, found = .dict entries
  databases : ∀ entries, allDescriptions s start = .ok (.dict entries) →
    EntriesLegible s.nesting s.environment entries

variable {start : String}

theorem reported_expanded_iff {document : Value} :
    Reported (Reference.expanded nesting environment document) ↔
      document.nestsWithin (Reference.levels nesting + 1) = true := by
  rw [Reference.expanded]
  split
  · next hshallow => exact iff_of_true (reported_ok _) hshallow
  · next hdeep =>
    refine iff_of_false (fun h => ?_) hdeep
    cases reported_error_iff.1 h

theorem reported_inlineDescriptions_iff :
    Reported (inlineDescriptions s start) ↔
      ∀ text, filled? s (start ++ "DATABASES_JSON") = some text → InlineLegible s start text := by
  unfold inlineDescriptions
  dsimp only
  cases filled? s (start ++ "DATABASES_JSON") with
  | none => exact iff_of_true (reported_ok _) fun _ h => nomatch h
  | some text =>
    have hlegible : InlineLegible s start text ↔ TextLegible s.nesting text.toList ∧
        Searchable s (parseDocument (.malformedVariable (start ++ "DATABASES_JSON"))
          text.toList s.nesting) := ⟨fun h => ⟨h.legible, h.searchable⟩, fun h => ⟨h.1, h.2⟩⟩
    simp only [Option.some.injEq, forall_eq']
    rw [hlegible, ← reported_parseDocument_iff]
    exact reported_bind_iff.trans (and_congr_right fun _ => forall₂_congr fun _ _ =>
      reported_expanded_iff)

theorem isValue_of_expanded {document : Value} (hdocument : IsValue document)
    (h : Reference.expanded nesting environment document = .ok v) : IsValue v := by
  rw [Reference.expanded] at h
  split at h
  · cases h
    exact Reference.isValue_expandValue hdocument
  · cases h

theorem isValue_of_inlineDescriptions (h : inlineDescriptions s start = .ok v) : IsValue v := by
  unfold inlineDescriptions at h
  dsimp only at h
  split at h
  · cases h
    exact areEntries_nil.isValue
  · obtain ⟨w, hw, hexpanded⟩ := except_bind_ok h
    exact isValue_of_expanded (isValue_of_parseDocument hw) hexpanded

theorem reported_descriptions_iff :
    Reported (descriptions s start) ↔
      (∀ text, filled? s (start ++ "DATABASES_JSON") = some text → InlineLegible s start text) ∧
      ∀ inline, inlineDescriptions s start = .ok inline → inline.isTruthy = false →
        ∀ l, locationIn s (start ++ "DBINFOS_PATH") = some l → InfosLegible s l := by
  rw [descriptions, reported_bind_iff, reported_inlineDescriptions_iff]
  refine and_congr_right fun _ => forall_congr' fun inline => forall_congr' fun _ => ?_
  split
  · next htruthy =>
    refine iff_of_true (reported_ok _) fun hfalse => ?_
    cases htruthy.symm.trans hfalse
  · next hfalse =>
    rw [imp_iff_right (Bool.eq_false_iff.2 hfalse)]
    cases locationIn s (start ++ "DBINFOS_PATH") with
    | none => exact iff_of_true (reported_ok _) (by simp)
    | some l =>
      have hlegible : InfosLegible s l ↔ DocumentLegible s l ∧ Searchable s (readDocument s l) :=
        ⟨fun h => ⟨h.document, h.searchable⟩, fun h => ⟨h.1, h.2⟩⟩
      simp only [reported_bind_iff, reported_readDocument_iff, Option.some.injEq, forall_eq',
        reported_expanded_iff, hlegible, Searchable]

theorem isValue_of_descriptions (h : descriptions s start = .ok v) : IsValue v := by
  obtain ⟨inline, hinline, h⟩ := except_bind_ok h
  have hvalue := isValue_of_inlineDescriptions hinline
  split at h
  · cases h
    exact hvalue
  · split at h
    · cases h
      exact hvalue
    · obtain ⟨w, hw, hexpanded⟩ := except_bind_ok h
      exact isValue_of_expanded (isValue_of_readDocument hw) hexpanded

/-- The single database is stored over the descriptions that are found if these are an object. -/
theorem allDescriptions_cases {found : Value} (h : descriptions s start = .ok found) :
    allDescriptions s start = .ok found ∨
    (∃ entries all, found = .dict entries ∧ AreEntries all ∧
      allDescriptions s start = .ok (.dict all)) ∨
    (∀ entries, found ≠ .dict entries) ∧
      ∃ failure, allDescriptions s start = .error failure ∧ failure.kind ≠ .configuration := by
  have hvalue := isValue_of_descriptions h
  rw [allDescriptions, h, except_ok_bind]
  split
  · cases hvalue with
    | @dict entries named values =>
      refine .inr (.inl ⟨entries, _, rfl, AreEntries.insert ⟨named, values⟩ _ ?_, rfl⟩)
      exact .dict ⟨List.forall_mem_singleton.2 ⟨_, rfl⟩, List.nodup_singleton _⟩
        (List.forall_mem_singleton.2 (.text _))
    | _ => exact .inr (.inr ⟨by simp, _, rfl, by simp [Failure.kind]⟩)
  · exact .inl rfl

theorem areEntries_of_allDescriptions {entries : Value.Entries}
    (h : allDescriptions s start = .ok (.dict entries)) : AreEntries entries := by
  obtain ⟨found, hfound, -⟩ := except_bind_ok h
  rcases allDescriptions_cases hfound with
    hsame | ⟨-, all, -, hall, heq⟩ | ⟨-, failure, hfailure, -⟩
  · cases hsame.symm.trans h
    exact (isValue_of_descriptions hfound).entries
  · cases heq.symm.trans h
    exact hall
  · cases hfailure.symm.trans h

theorem reported_allDescriptions_iff (object : ∀ found, descriptions s start = .ok found →
    ∃ entries, found = .dict entries) :
    Reported (allDescriptions s start) ↔ Reported (descriptions s start) := by
  refine ⟨fun h => (reported_bind_iff.1 h).1, fun h => ?_⟩
  cases hfound : descriptions s start with
  | error failure =>
    rw [hfound] at h
    rw [allDescriptions, hfound]
    exact reported_error_iff.2 (reported_error_iff.1 h)
  | ok found =>
    rcases allDescriptions_cases hfound with heq | ⟨-, all, -, -, heq⟩ | ⟨hno, -⟩
    · exact heq ▸ reported_ok found
    · exact heq ▸ reported_ok _
    · obtain ⟨entries, hdict⟩ := object found hfound
      exact absurd hdict (hno entries)

/-- The settings in variables whose descriptions are given. -/
def settingsWith (s : Surroundings) (start : String) (entries : Value.Entries) :
    Except Failure Settings := do
  let databases ← readEntries s.nesting s.environment entries
  assemble databases (defaultIn s start (databases.map Prod.fst)) (.ofVariables s start)
    fun name => start ++ Tuning.variableName name

theorem fromVariables_eq_settingsWith (start : String) :
    fromVariables s start = (do
      let found ← allDescriptions s start
      let entries ← objectEntries "items" found
      settingsWith s start entries) := rfl

theorem reported_settingsWith_iff {entries : Value.Entries}
    (h : ∀ entry ∈ entries, IsValue entry.2) :
    Reported (settingsWith s start entries) ↔
      EntriesLegible s.nesting s.environment entries := by
  rw [settingsWith, reported_bind_iff, reported_readEntries_iff h]
  refine and_iff_left fun databases _ => ?_
  exact ((Tuning.isGiven_ofVariables s start).reported_assemble_iff ..).2
    (Tuning.isLegible_ofVariables s start)

theorem exists_allDescriptions_eq_dict (object : ∀ found, descriptions s start = .ok found →
    ∃ entries, found = .dict entries) {all : Value} (h : allDescriptions s start = .ok all) :
    ∃ entries, all = .dict entries := by
  obtain ⟨found, hfound, -⟩ := except_bind_ok h
  rcases allDescriptions_cases hfound with heq | ⟨-, entries, -, -, heq⟩ | ⟨-, failure, heq, -⟩
  · cases heq.symm.trans h
    exact object _ hfound
  · cases heq.symm.trans h
    exact ⟨entries, rfl⟩
  · cases heq.symm.trans h

theorem reported_fromVariables_iff (start : String) :
    Reported (fromVariables s start) ↔ VariablesLegible s start := by
  rw [fromVariables_eq_settingsWith, reported_bind_iff]
  constructor
  · rintro ⟨hall, hrest⟩
    obtain ⟨hinline, hfile⟩ := reported_descriptions_iff.1 (reported_bind_iff.1 hall).1
    refine ⟨hinline, hfile, fun found hfound => ?_, fun entries hentries => ?_⟩
    · rcases allDescriptions_cases hfound with
        hsame | ⟨entries, -, hdict, -⟩ | ⟨-, failure, h, hkind⟩
      · exact (reported_objectEntries_iff "items").1 (reported_bind_iff.1 (hrest found hsame)).1
      · exact ⟨entries, hdict⟩
      · exact absurd (hall failure h) hkind
    · exact (reported_settingsWith_iff (areEntries_of_allDescriptions hentries).values).1
        ((reported_bind_iff.1 (hrest _ hentries)).2 entries rfl)
  · intro h
    refine ⟨(reported_allDescriptions_iff h.object).2
      (reported_descriptions_iff.2 ⟨h.inline, h.file⟩), fun all hall => ?_⟩
    obtain ⟨entries, rfl⟩ := exists_allDescriptions_eq_dict h.object hall
    exact (reported_settingsWith_iff (areEntries_of_allDescriptions hall).values).2
      (h.databases entries hall)

/-! ## Both sources -/

/-- Which unusable settings are reported by a failure of configuration, for every content of the
files and every value of the variables. -/
theorem reported_iff_legible (s : Surroundings) :
    (∀ main infos, Reported (fromFiles s main infos) ↔ FilesLegible s main infos) ∧
      ∀ start, Reported (fromVariables s start) ↔ VariablesLegible s start :=
  ⟨reported_fromFiles_iff, reported_fromVariables_iff⟩

/-! A section that is a list of numbers. -/

/-- A file whose section of databases is a list with a number, and a variable that holds one. -/
def numbered : Surroundings where
  environment := [("QB_DATABASES_JSON", "[1]")]
  files := [("config.json", asciiBytes "\x7b\"databases\": [1]\x7d")]

/-- Neither the section in the file nor the one in the variable is reported. -/
theorem numbered_section_not_reported :
    ¬ Reported (fromFiles numbered (some (Location.ofPath "config.json")) none) ∧
      ¬ Reported (fromVariables numbered "QB_") := by
  have hfiles : failureKind? (fromFiles numbered (some (Location.ofPath "config.json")) none) =
      some .wrongType := by decide +kernel
  have hvariables : failureKind? (fromVariables numbered "QB_") = some .missingAttribute := by
    decide +kernel
  exact ⟨not_reported_of_failureKind? hfiles (by decide),
    not_reported_of_failureKind? hvariables (by decide)⟩

end Settings
end BoundUpdate
