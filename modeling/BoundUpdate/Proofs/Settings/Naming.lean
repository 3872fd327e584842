import BoundUpdate.Proofs.Json.Values
import BoundUpdate.Proofs.Settings.Loading
import BoundUpdate.Settings.Active

namespace BoundUpdate
namespace Settings

/-!
# Which database a name denotes

Databases are described in two sections that are stored one over the other: the
shared document and the databases of the main one, or the databases in variables
and the single one beside them.  A name denotes the description of the upper
section, or else that of the lower one, and nothing else is ever used in its
place.  Without a name the default one counts, and without a default the first
name, the lower section's names coming first.
-/

open Reference Json

/-! ## Two sections -/

/-- Descriptions of databases in two sections, of which the upper one wins. -/
structure Sections where
  lower : Value.Entries
  upper : Value.Entries

namespace Sections

/-- The names in the sections: those of the lower one, and then the further ones. -/
def names (d : Sections) : List String :=
  Value.Entries.names d.lower ++
    (Value.Entries.names d.upper).filter fun name => decide (name ∉ Value.Entries.names d.lower)

/-- The description that a name has. -/
def description? (d : Sections) (name : String) : Option Value :=
  (d.upper.get? name).or (d.lower.get? name)

/-- The sections stored one over the other. -/
def merged (d : Sections) : Value.Entries := Value.Entries.merge d.lower d.upper

/-- Whether the keys of each section are different texts. -/
structure AreNamed (d : Sections) : Prop where
  lower : Value.Entries.Named d.lower
  upper : Value.Entries.Named d.upper

variable {d : Sections}

theorem keys_merged (h : d.AreNamed) : d.merged.map Prod.fst = d.names.map Value.text :=
  Value.Entries.keys_merge h.lower h.upper

theorem get?_merged (h : d.AreNamed) (name : String) :
    d.merged.get? name = d.description? name :=
  Value.Entries.get?_merge h.lower h.upper.apart name

end Sections

/-! ## Entries that are read -/

variable {nesting : Nat} {environment : List (String × String)} {entries : Value.Entries}
  {databases : List (Value × DatabaseEntry)} {settings : Settings} {name : String}

/-- Whether databases are those that entries describe, in their order. -/
def Describe (nesting : Nat) (environment : List (String × String)) :
    Value.Entries → List (Value × DatabaseEntry) → Prop :=
  List.Forall₂ fun entry database =>
    database.1 = entry.1 ∧ DatabaseEntry.read nesting environment entry.2 = .ok database.2

theorem exists_describe
    (h : ∀ entry ∈ entries, ∃ e, DatabaseEntry.read nesting environment entry.2 = .ok e) :
    ∃ databases, readEntries nesting environment entries = .ok databases ∧
      Describe nesting environment entries databases := by
  induction entries with
  | nil => exact ⟨[], rfl, .nil⟩
  | cons entry rest ih =>
    obtain ⟨⟨e, he⟩, hrest⟩ := List.forall_mem_cons.1 h
    obtain ⟨others, hothers, hdescribe⟩ := ih hrest
    refine ⟨(entry.1, e) :: others, ?_, .cons ⟨rfl, he⟩ hdescribe⟩
    rw [readEntries, he, hothers]
    rfl

theorem Describe.keys_eq (h : Describe nesting environment entries databases) :
    databases.map Prod.fst = entries.map Prod.fst := by
  induction h with
  | nil => rfl
  | cons hentry _ ih => rw [List.map_cons, List.map_cons, hentry.1, ih]

/-- Under a name the database stands that the entry of this name describes. -/
theorem Describe.find? (h : Describe nesting environment entries databases) (name : String) :
    Option.Rel (fun v database => DatabaseEntry.read nesting environment v = .ok database.2)
      (entries.get? name) (databases.find? fun database => database.1.sameKey (.text name)) := by
  induction h with
  | nil => exact .none
  | @cons entry database entries databases hentry _ ih =>
    rw [Value.Entries.get?_cons, List.find?_cons, hentry.1]
    cases entry.1.sameKey (.text name) with
    | true => exact .some hentry.2
    | false => exact ih

/-! ## Asking for a database -/

/-- A name that is asked for gives the database that stands under it, or none. -/
theorem require_text (hname : name ≠ "") (hsome : settings.databases ≠ []) :
    settings.require (.text name) =
      match settings.databases.find? fun database => database.1.sameKey (.text name) with
      | some database => .ok database.2
      | none => .error (.configuration (.unknownDatabase (Text.quote name))) := by
  have htruth : (Value.text name).truth = .ok true := by simp [hname]
  rw [require]
  split
  · next hnil => exact absurd hnil hsome
  · rw [DatabaseEntry.orElse_of_truth htruth, if_pos rfl, except_ok_bind, htruth, except_ok_bind]
    cases settings.databases.find? fun database => database.1.sameKey (.text name) <;> rfl

theorem require_of_databases_nil (h : settings.databases = []) (key : Value) :
    settings.require key = .error (.configuration .noDatabases) := by
  rw [require, h]

/-- Without a name the default one is asked for. -/
theorem require_none_of_default (hname : name ≠ "") (h : settings.defaultDatabase = .text name) :
    settings.require .none = settings.require (.text name) := by
  have htruth : (Value.text name).truth = .ok true := by simp [hname]
  rw [require, require, h, DatabaseEntry.orElse_of_truth htruth,
    DatabaseEntry.orElse_of_truth Value.truth_none]
  rfl

/-- Without a name and a default the first database is meant. -/
theorem require_none_of_no_default {first : Value × DatabaseEntry}
    {others : List (Value × DatabaseEntry)} (hdefault : settings.defaultDatabase.truth = .ok false)
    (h : settings.databases = first :: others) : settings.require .none = .ok first.2 := by
  rw [require, h, DatabaseEntry.orElse_of_truth Value.truth_none]
  change (do
    if !(← settings.defaultDatabase.truth) then return first.2 else _) = _
  rw [hdefault]
  rfl

/-! ## What every name denotes -/

/-- What is answered when no database has the name that is asked for. -/
def noSuchDatabase (d : Sections) (name : String) : Failure :=
  .configuration (if d.names = [] then .noDatabases else .unknownDatabase (Text.quote name))

/-- Whether every name denotes the database that two sections describe under it. -/
structure Denotes (nesting : Nat) (environment : List (String × String)) (d : Sections)
    (settings : Settings) : Prop where
  /-- The names are those of both sections, in order. -/
  names : settings.databases.map Prod.fst = d.names.map Value.text
  /-- A name with a description denotes the database that is described. -/
  described : ∀ name v, name ≠ "" → d.description? name = some v →
    ∃ e, DatabaseEntry.read nesting environment v = .ok e ∧ settings.require (.text name) = .ok e
  /-- A name without description denotes nothing. -/
  unknown : ∀ name, name ≠ "" → d.description? name = none →
    settings.require (.text name) = .error (noSuchDatabase d name)
  /-- Without a name the default one is meant, whether it denotes something or nothing. -/
  byDefault : ∀ name, name ≠ "" → settings.defaultDatabase = .text name →
    settings.require .none = settings.require (.text name)
  /-- Without a name and a default the first name is meant. -/
  first : settings.defaultDatabase.truth = .ok false → ∀ name others, d.names = name :: others →
    ∃ v e, d.description? name = some v ∧ DatabaseEntry.read nesting environment v = .ok e ∧
      settings.require .none = .ok e
  /-- Without any description nothing is meant. -/
  nothing : d.names = [] → settings.require .none = .error (.configuration .noDatabases)

theorem denotes_of_describe {d : Sections} (hnamed : d.AreNamed)
    (h : Describe nesting environment d.merged settings.databases) :
    Denotes nesting environment d settings := by
  have hnames : settings.databases.map Prod.fst = d.names.map Value.text :=
    h.keys_eq.trans (Sections.keys_merged hnamed)
  have hempty : d.names = [] ↔ settings.databases = [] := by
    rw [← List.map_eq_nil_iff (f := Value.text), ← hnames, List.map_eq_nil_iff]
  have hfind := fun name => Sections.get?_merged hnamed name ▸ h.find? name
  refine
    { names := hnames
      described := fun name v hname hv => ?_
      unknown := fun name hname hnone => ?_
      byDefault := fun name => require_none_of_default
      first := fun hdefault name others hd => ?_
      nothing := fun hnil => require_of_databases_nil (hempty.1 hnil) .none }
  · have hrel := hfind name
    rw [hv] at hrel
    cases hfound : settings.databases.find? fun database => database.1.sameKey (.text name) with
    | none => rw [hfound] at hrel; cases hrel
    | some database =>
      rw [hfound] at hrel
      obtain ⟨hread⟩ := hrel
      refine ⟨database.2, hread, ?_⟩
      have hsome : settings.databases ≠ [] := List.ne_nil_of_mem (List.mem_of_find?_eq_some hfound)
      rw [require_text hname hsome, hfound]
  · have hrel := hfind name
    rw [hnone] at hrel
    rw [noSuchDatabase]
    split
    · next hnil => exact require_of_databases_nil (hempty.1 hnil) _
    · next hsome =>
      rw [require_text hname (mt hempty.2 hsome)]
      cases hfound : settings.databases.find? fun database => database.1.sameKey (.text name) with
      | none => rfl
      | some database => rw [hfound] at hrel; cases hrel
  · -- the first database is the one that is found under the first name
    rw [hd, List.map_cons] at hnames
    obtain ⟨database, rest, hdatabases, hkey, -⟩ := List.map_eq_cons_iff.1 hnames
    have hrel := hfind name
    rw [hdatabases, List.find?_cons, hkey, Value.sameKey_text_text, beq_self_eq_true] at hrel
    cases hv : d.description? name with
    | none => rw [hv] at hrel; cases hrel
    | some v =>
      rw [hv] at hrel
      obtain ⟨hread⟩ := hrel
      exact ⟨v, database.2, rfl, hread, require_none_of_no_default hdefault hdatabases⟩

/-! ## Putting settings together -/

/-- Whether the settings that are not databases are accepted under the names that `label` gives. -/
structure Tuning.IsAccepted (tuning : Tuning) (label : String → String) : Prop where
  timeout : ∃ n, Coercion.toInt tuning.timeout (label Tuning.timeoutName) = .ok n
  prefixes : ∃ items, Coercion.toPrefixes tuning.prefixes = .ok items
  snakeCase : ∃ b, Coercion.toBool tuning.snakeCase (label Tuning.snakeCaseName) = .ok b
  logsBoundValues :
    ∃ b, Coercion.toBool tuning.logsBoundValues (label Tuning.logsBoundValuesName) = .ok b

theorem Tuning.IsAccepted.exists_assemble {tuning : Tuning} {label : String → String}
    (h : tuning.IsAccepted label) (databases : List (Value × DatabaseEntry)) (name : Value) :
    ∃ settings, assemble databases name tuning label = .ok settings ∧
      settings.databases = databases ∧ settings.defaultDatabase = name := by
  obtain ⟨⟨n, htimeout⟩, ⟨items, hprefixes⟩, ⟨snakeCase, hsnake⟩, ⟨logs, hlogs⟩⟩ := h
  rw [assemble, htimeout, hprefixes, hsnake, hlogs]
  exact ⟨_, rfl, rfl, rfl⟩

/-- Whether every description of two sections can be read. -/
def Sections.AreReadable (nesting : Nat) (environment : List (String × String)) (d : Sections) :
    Prop :=
  ∀ entry ∈ d.lower ++ d.upper, ∃ e, DatabaseEntry.read nesting environment entry.2 = .ok e

theorem Sections.AreReadable.exists_describe {d : Sections}
    (h : d.AreReadable nesting environment) :
    ∃ databases, readEntries nesting environment d.merged = .ok databases ∧
      Describe nesting environment d.merged databases := by
  refine Settings.exists_describe (Value.Entries.forall_mem_merge
    (P := fun v => ∃ e, DatabaseEntry.read nesting environment v = .ok e) ?_ ?_)
  · exact fun entry hentry => h entry (List.mem_append_left _ hentry)
  · exact fun entry hentry => h entry (List.mem_append_right _ hentry)

/-! ## Documents -/

theorem isValue_of_parseDocument {wrap : Cause → ConfigurationFault} {text : List Char} {v : Value}
    (h : parseDocument wrap text nesting = .ok v) : IsValue v := by
  rw [parseDocument] at h
  split at h
  · next hread =>
    cases h
    exact isValue_of_read hread
  · cases h

theorem isValue_of_readFile {s : Surroundings} {l : Location} {v : Value}
    (h : readFile s l = .ok v) : IsValue v := by
  rw [readFile] at h
  split at h
  · cases h
  · cases h
  · cases h
  · split at h
    · cases h
    · exact isValue_of_parseDocument h

theorem isValue_of_readDocument {s : Surroundings} {l : Location} {v : Value}
    (h : readDocument s l = .ok v) : IsValue v := by
  rw [readDocument] at h
  split at h
  · cases h
  · exact isValue_of_readFile h

theorem isValue_of_optionalDocument {s : Surroundings} {l : Option Location} {v : Value}
    (h : optionalDocument s l = .ok v) : IsValue v := by
  cases l with
  | none =>
    cases h
    exact areEntries_nil.isValue
  | some l => exact isValue_of_readDocument h

/-! ## Settings in files -/

/-- What two files say, each of which may be left out: an object with settings, in which the upper
section may be missing or empty, and an object that is the lower section. -/
structure FilesDescribe (s : Surroundings) (main infos : Option Location)
    (document : Value.Entries) (d : Sections) : Prop where
  main : optionalDocument s main = .ok (.dict document)
  lower : optionalDocument s infos = .ok (.dict d.lower)
  upper : document.getD "databases" .none = .dict d.upper ∨
    (document.getD "databases" .none).truth = .ok false ∧ d.upper = []
  readable : d.AreReadable s.nesting s.environment
  accepted : (Tuning.ofEntries document).IsAccepted id

variable {s : Surroundings} {main infos : Option Location} {document : Value.Entries} {d : Sections}

theorem FilesDescribe.areNamed (h : FilesDescribe s main infos document d) : d.AreNamed := by
  refine ⟨(isValue_of_optionalDocument h.lower).entries.named, ?_⟩
  rcases h.upper with hupper | ⟨-, hnil⟩
  · have hdocument : AreEntries document := (isValue_of_optionalDocument h.main).entries
    have hvalue := isValue_getD hdocument.values "databases" IsValue.none
    rw [hupper] at hvalue
    exact hvalue.entries.named
  · rw [hnil]
    exact Value.Entries.named_nil

theorem FilesDescribe.orElse_section (h : FilesDescribe s main infos document d) :
    (document.getD "databases" .none).orElse (.dict []) = .ok (.dict d.upper) := by
  rcases h.upper with hupper | ⟨hfalse, hnil⟩
  · rw [hupper, orElse_dict]
  · rw [DatabaseEntry.orElse_of_truth hfalse, hnil, if_neg Bool.false_ne_true]

theorem FilesDescribe.fromFiles_eq (h : FilesDescribe s main infos document d) :
    fromFiles s main infos = (do
      let databases ← readEntries s.nesting s.environment d.merged
      assemble databases (document.getD "default_db" .none) (.ofEntries document) id) := by
  rw [fromFiles, h.main, h.lower]
  simp only [except_ok_bind, ofDocuments, orElse_dict, Value.toEntries_dict, objectEntries,
    h.orElse_section]
  rfl

/-- The settings in two files. -/
theorem FilesDescribe.exists_fromFiles (h : FilesDescribe s main infos document d) :
    ∃ settings, fromFiles s main infos = .ok settings ∧
      settings.defaultDatabase = document.getD "default_db" .none ∧
      Denotes s.nesting s.environment d settings := by
  obtain ⟨databases, hread, hdescribe⟩ := h.readable.exists_describe
  obtain ⟨settings, hassemble, rfl, hdefault⟩ :=
    h.accepted.exists_assemble databases (document.getD "default_db" .none)
  refine ⟨settings, ?_, hdefault, denotes_of_describe h.areNamed hdescribe⟩
  rw [h.fromFiles_eq, hread]
  exact hassemble

/-! ## Settings in variables -/

/-- Whether no descriptions stand in a variable: it is empty or missing, or its object is empty. -/
def HasNoInline (s : Surroundings) (start : String) : Prop :=
  ∀ text, filled? s (start ++ "DATABASES_JSON") = some text →
    Json.read text.toList s.nesting = .ok (.dict [])

/-- The descriptions that variables give: those that stand in one of them, or else those in the
file that another one names. -/
inductive VariablesGive (s : Surroundings) (start : String) : Value.Entries → Prop where
  | inline {text : String} {entries : Value.Entries}
    (filled : filled? s (start ++ "DATABASES_JSON") = some text)
    (read : Json.read text.toList s.nesting = .ok (.dict entries)) (nonempty : entries ≠ []) :
    VariablesGive s start entries
  | file {l : Location} {entries : Value.Entries} (noInline : HasNoInline s start)
    (location : locationIn s (start ++ "DBINFOS_PATH") = some l)
    (read : readDocument s l = .ok (.dict entries)) : VariablesGive s start entries
  | nothing (noInline : HasNoInline s start)
    (noLocation : locationIn s (start ++ "DBINFOS_PATH") = none) : VariablesGive s start []

/-- The database that two variables describe, when both are filled. -/
def single (s : Surroundings) (start : String) : Value.Entries :=
  match filled? s (start ++ "DB_KEY"), filled? s (start ++ "DB_DSN") with
  | some key, some dsn => [(.text key, .dict [(.text "dsn", .text dsn)])]
  | _, _ => []

/-- What variables describe, without references to other variables and not too deep to be searched
for them. -/
structure VariablesDescribe (s : Surroundings) (start : String) (d : Sections) : Prop where
  lower : VariablesGive s start d.lower
  shallow : (Value.dict d.lower).nestsWithin (levels s.nesting + 1) = true
  upper : d.upper = single s start
  plain : Plain (entryTexts d.lower ++ entryTexts d.upper)
  readable : d.AreReadable s.nesting s.environment
  accepted : (Tuning.ofVariables s start).IsAccepted fun name => start ++ Tuning.variableName name

/-- The default database that variables choose: a filled variable names it, or else the key of the
single database does when there is a database of this name. -/
def chosenName? (s : Surroundings) (start : String) (names : List String) : Option String :=
  (filled? s (start ++ "DB_DEFAULT")).or
    ((s.valueOf? (start ++ "DB_KEY")).filter fun key => decide (key ∈ names))

variable {start : String}

theorem defaultIn_of_names (names : List String) :
    defaultIn s start (names.map Value.text) =
      DatabaseEntry.ofText? (chosenName? s start names) := by
  rw [defaultIn, chosenName?]
  cases filled? s (start ++ "DB_DEFAULT") with
  | some name => rfl
  | none =>
    cases s.valueOf? (start ++ "DB_KEY") with
    | none => rfl
    | some key =>
      have hany :
          (names.map Value.text).any (Value.sameKey (.text key)) = decide (key ∈ names) := by
        have htext : Value.sameKey (.text key) ∘ Value.text = fun name => key == name := by
          funext name
          exact Value.sameKey_text_text key name
        rw [List.any_map, htext, List.any_beq, List.contains_eq_mem]
      by_cases hkey : key ∈ names <;> simp [hany, hkey, DatabaseEntry.ofText?, Option.filter]

theorem areEntries_of_variablesGive {entries : Value.Entries} (h : VariablesGive s start entries) :
    AreEntries entries := by
  cases h with
  | inline _ read _ => exact (isValue_of_read read).entries
  | file _ _ read => exact (isValue_of_readDocument read).entries
  | nothing => exact areEntries_nil

theorem VariablesDescribe.areNamed (h : VariablesDescribe s start d) : d.AreNamed := by
  refine ⟨(areEntries_of_variablesGive h.lower).named, ?_⟩
  rw [h.upper, single]
  split
  · next key dsn _ _ =>
    exact ⟨List.forall_mem_singleton.2 ⟨key, rfl⟩, List.nodup_singleton _⟩
  · exact Value.Entries.named_nil

theorem inlineDescriptions_of_hasNoInline (h : HasNoInline s start) :
    inlineDescriptions s start = .ok (.dict []) := by
  rw [inlineDescriptions]
  cases hfilled : filled? s (start ++ "DATABASES_JSON") with
  | none => rfl
  | some text =>
    dsimp only
    rw [parseDocument_eq_ok (h text hfilled)]
    rfl

/-- Descriptions without references are found as they stand. -/
theorem descriptions_of_variablesGive {entries : Value.Entries} (h : VariablesGive s start entries)
    (hshallow : (Value.dict entries).nestsWithin (levels s.nesting + 1) = true)
    (hplain : Plain (entryTexts entries)) : descriptions s start = .ok (.dict entries) := by
  have hvalue : IsValue (.dict entries) := (areEntries_of_variablesGive h).isValue
  have hsame : expanded s.nesting s.environment (.dict entries) = .ok (.dict entries) := by
    rw [expanded, if_pos hshallow, expandValue_of_plain hvalue (by rwa [texts])]
  rw [descriptions]
  cases h with
  | @inline text entries filled read nonempty =>
    have hinline : inlineDescriptions s start = .ok (.dict entries) := by
      simp only [inlineDescriptions, filled, parseDocument_eq_ok read, Except.bind, hsame]
    have htruthy : (Value.dict entries).isTruthy = true := by simpa [Value.isTruthy] using nonempty
    rw [hinline, except_ok_bind, if_pos htruthy]
    rfl
  | @file l entries noInline location read =>
    rw [inlineDescriptions_of_hasNoInline noInline, except_ok_bind, location]
    change (readDocument s l >>= expanded s.nesting s.environment) = _
    rw [read, except_ok_bind, hsame]
  | nothing noInline noLocation =>
    rw [inlineDescriptions_of_hasNoInline noInline, except_ok_bind, noLocation]
    rfl

theorem VariablesDescribe.allDescriptions_eq (h : VariablesDescribe s start d) :
    allDescriptions s start = .ok (.dict d.merged) := by
  have hlower : Plain (entryTexts d.lower) := fun t ht => h.plain t (List.mem_append_left _ ht)
  have hupper : Plain (entryTexts (single s start)) := fun t ht =>
    h.plain t (List.mem_append_right _ (h.upper ▸ ht))
  rw [allDescriptions, descriptions_of_variablesGive h.lower h.shallow hlower, except_ok_bind,
    Sections.merged, h.upper]
  rw [single] at hupper ⊢
  cases hkey : filled? s (start ++ "DB_KEY") with
  | none => rfl
  | some key =>
    cases hdsn : filled? s (start ++ "DB_DSN") with
    | none => rfl
    | some dsn =>
      rw [hkey, hdsn] at hupper
      have hplain : ∀ name, ¬ Refers dsn.toList name :=
        hupper dsn.toList (by simp [entryTexts, texts])
      dsimp only [Value.entries?]
      rw [expandText_of_plain hplain]
      rfl

/-- The settings in variables. -/
theorem VariablesDescribe.exists_fromVariables (h : VariablesDescribe s start d) :
    ∃ settings, fromVariables s start = .ok settings ∧
      settings.defaultDatabase = DatabaseEntry.ofText? (chosenName? s start d.names) ∧
      Denotes s.nesting s.environment d settings := by
  obtain ⟨databases, hread, hdescribe⟩ := h.readable.exists_describe
  obtain ⟨settings, hassemble, rfl, hdefault⟩ :=
    h.accepted.exists_assemble databases (defaultIn s start (databases.map Prod.fst))
  refine ⟨settings, ?_, ?_, denotes_of_describe h.areNamed hdescribe⟩
  · rw [fromVariables, h.allDescriptions_eq, except_ok_bind, objectEntries, except_ok_bind, hread]
    exact hassemble
  · rw [hdefault, hdescribe.keys_eq, Sections.keys_merged h.areNamed, defaultIn_of_names]

/-! ## Both sources -/

/-- Which database a name denotes when settings come from two files and when they come from
variables.  All names of both sections are there; a name denotes the database of the upper section,
or else that of the lower one; a name in neither denotes nothing, also when it is the default one;
and without a name the default one is meant, or else the first name. -/
theorem names_denote_databases (s : Surroundings) :
    (∀ main infos document d, FilesDescribe s main infos document d →
      ∃ settings, fromFiles s main infos = .ok settings ∧
        settings.defaultDatabase = document.getD "default_db" .none ∧
        Denotes s.nesting s.environment d settings) ∧
    ∀ start d, VariablesDescribe s start d →
      ∃ settings, fromVariables s start = .ok settings ∧
        settings.defaultDatabase = DatabaseEntry.ofText? (chosenName? s start d.names) ∧
        Denotes s.nesting s.environment d settings :=
  ⟨fun _ _ _ _ h => h.exists_fromFiles, fun _ _ h => h.exists_fromVariables⟩

/-! Sections that share one name, in files and with a single database in variables. -/

/-- The bytes of a document whose characters are all ASCII. -/
def asciiBytes (document : String) : List UInt8 :=
  document.toList.map fun c => UInt8.ofNat c.toNat

/-- A document that names a default database and describes two databases. -/
def ownDocument : String :=
  "\x7b\"default_db\": \"b\", \"databases\": \x7b" ++
    "\"b\": \x7b\"type\": \"mysql\", \"host\": \"own\"\x7d, " ++
    "\"c\": \x7b\"type\": \"sqlite\"\x7d\x7d\x7d"

/-- A document that describes two databases, one of them under a name of the other document. -/
def sharedDocument : String :=
  "\x7b\"a\": \x7b\"type\": \"sqlite\"\x7d, " ++
    "\"b\": \x7b\"type\": \"mysql\", \"host\": \"shared\"\x7d\x7d"

/-- Surroundings with both documents in files, and with variables that name the second one and
describe a database of the shared name. -/
def overlapping : Surroundings where
  environment := [("QB_DATABASES_JSON", "\x7b\x7d"), ("QB_DBINFOS_PATH", "shared.json"),
    ("QB_DB_KEY", "b"), ("QB_DB_DSN", "mysql://single/x")]
  files := [("own.json", asciiBytes ownDocument), ("shared.json", asciiBytes sharedDocument)]

/-- The sections in the files. -/
def overlappingFiles : Sections where
  lower := [(.text "a", .dict [(.text "type", .text "sqlite")]),
    (.text "b", .dict [(.text "type", .text "mysql"), (.text "host", .text "shared")])]
  upper := [(.text "b", .dict [(.text "type", .text "mysql"), (.text "host", .text "own")]),
    (.text "c", .dict [(.text "type", .text "sqlite")])]

/-- The sections in the variables. -/
def overlappingVariables : Sections where
  lower := overlappingFiles.lower
  upper := [(.text "b", .dict [(.text "dsn", .text "mysql://single/x")])]

/-- The host of a database that was asked for. -/
def hostOf (found : Except Failure DatabaseEntry) : Option (Option String) :=
  found.toOption.map fun e => e.host.text?

theorem own_read :
    readDocument overlapping (Location.ofPath "own.json") = .ok (.dict
      [(.text "default_db", .text "b"), (.text "databases", .dict overlappingFiles.upper)]) := by
  have hread : Json.read ownDocument.toList overlapping.nesting = .ok (.dict
      [(.text "default_db", .text "b"), (.text "databases", .dict overlappingFiles.upper)]) := by
    cbv
  have hdecode : Text.Utf8.decode? (asciiBytes ownDocument) = some ownDocument.toList := by
    decide +kernel
  have hfind : (Location.ofPath "own.json").find overlapping = .file (asciiBytes ownDocument) := by
    decide +kernel
  exact readDocument_eq_ok rfl hfind hdecode hread

theorem shared_read :
    readDocument overlapping (Location.ofPath "shared.json") =
      .ok (.dict overlappingFiles.lower) := by
  have hread : Json.read sharedDocument.toList overlapping.nesting =
      .ok (.dict overlappingFiles.lower) := by cbv
  have hdecode : Text.Utf8.decode? (asciiBytes sharedDocument) = some sharedDocument.toList := by
    decide +kernel
  have hfind : (Location.ofPath "shared.json").find overlapping =
      .file (asciiBytes sharedDocument) := by
    decide +kernel
  exact readDocument_eq_ok rfl hfind hdecode hread

theorem overlapping_filesDescribe :
    FilesDescribe overlapping (some (Location.ofPath "own.json"))
      (some (Location.ofPath "shared.json"))
      [(.text "default_db", .text "b"), (.text "databases", .dict overlappingFiles.upper)]
      overlappingFiles where
  main := own_read
  lower := shared_read
  upper := .inl rfl
  readable := by
    simp only [Sections.AreReadable, overlappingFiles, List.cons_append, List.nil_append,
      List.forall_mem_cons]
    refine ⟨?_, ?_, ?_, ?_, List.forall_mem_nil _⟩ <;> exact exists_of_isOk (by decide +kernel)
  accepted :=
    { timeout := exists_of_isOk (by decide +kernel)
      prefixes := exists_of_isOk (by decide +kernel)
      snakeCase := exists_of_isOk (by decide +kernel)
      logsBoundValues := exists_of_isOk (by decide +kernel) }

theorem overlapping_variablesDescribe :
    VariablesDescribe overlapping "QB_" overlappingVariables where
  lower := by
    refine .file ?_ (l := Location.ofPath "shared.json") (by decide +kernel) shared_read
    intro text htext
    have hempty : filled? overlapping "QB_DATABASES_JSON" = some "\x7b\x7d" := by decide +kernel
    obtain rfl : "\x7b\x7d" = text := Option.some.inj (hempty.symm.trans htext)
    cbv
  shallow := by decide +kernel
  upper := by with_unfolding_all rfl
  plain := by
    have hopening : ∀ t ∈ entryTexts overlappingVariables.lower ++
        entryTexts overlappingVariables.upper, ¬ ['$', '\x7b'] <:+: t := by
      decide +kernel
    exact fun t ht => not_refers_of_no_opening (hopening t ht)
  readable := by
    simp only [Sections.AreReadable, overlappingVariables, overlappingFiles, List.cons_append,
      List.nil_append, List.forall_mem_cons]
    refine ⟨?_, ?_, ?_, List.forall_mem_nil _⟩ <;> exact exists_of_isOk (by decide +kernel)
  accepted :=
    { timeout := exists_of_isOk (by decide +kernel)
      prefixes := exists_of_isOk (by decide +kernel)
      snakeCase := exists_of_isOk (by decide +kernel)
      logsBoundValues := exists_of_isOk (by decide +kernel) }

/-- The shared name denotes the own database of the files and the single one of the variables; it
is the default name of both.  A name that neither section has denotes nothing. -/
theorem names_denote_databases_overlapping :
    ∃ filed loaded,
      fromFiles overlapping (some (Location.ofPath "own.json"))
        (some (Location.ofPath "shared.json")) = .ok filed ∧
      fromVariables overlapping "QB_" = .ok loaded ∧
      filed.databases.map Prod.fst = ["a", "b", "c"].map Value.text ∧
      hostOf (filed.require .none) = some (some "own") ∧
      hostOf (loaded.require .none) = some (some "single") ∧
      filed.require (.text "d") = .error (.configuration (.unknownDatabase "'d'")) := by
  obtain ⟨hfiles, hvariables⟩ := names_denote_databases overlapping
  obtain ⟨filed, hfiled, hdefault, hdenotes⟩ := hfiles _ _ _ _ overlapping_filesDescribe
  obtain ⟨loaded, hloaded, hchosen, hdenotes'⟩ := hvariables _ _ overlapping_variablesDescribe
  refine ⟨filed, loaded, hfiled, hloaded, ?_, ?_, ?_, ?_⟩
  · rw [hdenotes.names]
    with_unfolding_all rfl
  · obtain ⟨e, hread, hrequire⟩ := hdenotes.described "b" _ (by decide) rfl
    rw [hdenotes.byDefault "b" (by decide) (hdefault.trans rfl), hrequire, ← hread]
    decide +kernel
  · obtain ⟨e, hread, hrequire⟩ := hdenotes'.described "b" _ (by decide) rfl
    have hb : loaded.defaultDatabase = .text "b" := by
      rw [hchosen]
      with_unfolding_all rfl
    rw [hdenotes'.byDefault "b" (by decide) hb, hrequire, ← hread]
    decide +kernel
  · rw [hdenotes.unknown "d" (by decide) rfl]
    with_unfolding_all rfl

end Settings
end BoundUpdate
