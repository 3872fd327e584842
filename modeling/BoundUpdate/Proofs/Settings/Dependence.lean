import BoundUpdate.Proofs.Failure.Sequence
import BoundUpdate.Proofs.Settings.References
import BoundUpdate.Settings.Active
import Mathlib.Data.List.Basic

namespace BoundUpdate

/-!
# What a load of settings depends on

A load looks at the variables with settings, at files, at the variables that
texts in the loaded documents refer to, and at the variable with the home
directory when the path of a file starts there.  The fingerprint tells the first
of these and nothing of the other variables, so two surroundings with one
fingerprint and the same files load the same settings if the other variables
that are looked at have the same values.
-/

namespace Settings

open Reference

variable {s t : Surroundings}

/-! ## The variables with settings -/

/-- Sorting by names keeps the entries of one name in their order. -/
theorem filter_mergeSort_name {α : Type} (entries : List (String × α)) (name : String) :
    (entries.mergeSort fun a b => a.1 ≤ b.1).filter (fun entry => entry.1 == name) =
      entries.filter fun entry => entry.1 == name := by
  have htrans : ∀ a b c : String × α, decide (a.1 ≤ b.1) = true → decide (b.1 ≤ c.1) = true →
      decide (a.1 ≤ c.1) = true := by
    intro a b c hab hbc
    exact decide_eq_true (String.le_trans (of_decide_eq_true hab) (of_decide_eq_true hbc))
  have htotal : ∀ a b : String × α, (decide (a.1 ≤ b.1) || decide (b.1 ≤ a.1)) = true := by
    intro a b
    simpa using String.le_total a.1 b.1
  have hordered : (entries.filter fun entry => entry.1 == name).Pairwise
      fun a b => decide (a.1 ≤ b.1) = true := by
    refine List.pairwise_of_forall_mem_list fun a ha b hb => ?_
    rw [eq_of_beq (List.mem_filter.1 ha).2, eq_of_beq (List.mem_filter.1 hb).2]
    exact decide_eq_true (String.le_refl name)
  -- entries of one name are ordered already, so sorting keeps them as a sublist, and all of them
  have hsublist := (List.sublist_mergeSort htrans htotal hordered List.filter_sublist).filter
    fun entry => entry.1 == name
  rw [List.filter_filter] at hsublist
  simp only [Bool.and_self] at hsublist
  have hperm := (List.mergeSort_perm entries fun a b => decide (a.1 ≤ b.1)).filter
    fun entry => entry.1 == name
  exact (hsublist.eq_of_length hperm.length_eq.symm).symm

theorem lookup_eq_head?_filter {α : Type} (entries : List (String × α)) (name : String) :
    entries.lookup name = ((entries.filter fun entry => entry.1 == name).head?).map Prod.snd := by
  induction entries with
  | nil => rfl
  | cons entry rest ih =>
    obtain ⟨n, a⟩ := entry
    by_cases hn : n = name
    · simp [hn]
    · have hne : (name == n) = false := by simpa using Ne.symm hn
      simp [List.lookup_cons, hn, hne, ih]

/-- The fingerprint tells the value of every variable with settings. -/
theorem valueOf?_eq_lookup_fingerprint {name : String} (h : isOwnVariable name = true) :
    s.valueOf? name = (fingerprint s).lookup name := by
  rw [Surroundings.valueOf?, fingerprint, lookup_eq_head?_filter, lookup_eq_head?_filter,
    filter_mergeSort_name, List.filter_filter]
  congr 2
  refine List.filter_congr fun entry _ => ?_
  cases hname : entry.1 == name with
  | false => rfl
  | true => rw [eq_of_beq hname, h, Bool.and_self]

theorem isOwnVariable_append (ending : String) :
    isOwnVariable (variableStart ++ ending) = true := by
  rw [isOwnVariable, Text.startsWith, String.toList_append, List.isPrefixOf_iff_prefix]
  exact List.prefix_append _ _

/-- The fingerprint tells whether a variable other than the choice of the source is set. -/
theorem any_eq_any_fingerprint (s : Surroundings) :
    (s.environment.any fun entry => isOwnVariable entry.1 && entry.1 != sourceName) =
      (fingerprint s).any fun entry => entry.1 != sourceName := by
  rw [fingerprint, (List.mergeSort_perm _ _).any_eq, List.any_filter]

/-- Surroundings that differ in variables at most. -/
def SameHost (s t : Surroundings) : Prop := { s with environment := t.environment } = t

/-- What does not depend on variables is the same then. -/
theorem SameHost.map_eq {α : Type} (h : SameHost s t) (f : Surroundings → α)
    (hf : f { s with environment := t.environment } = f s) : f s = f t :=
  hf.symm.trans (congrArg f h)

/-- Surroundings that differ in variables without settings at most. -/
structure SameSources (s t : Surroundings) : Prop where
  fingerprint : fingerprint s = fingerprint t
  host : SameHost s t

/-- Only variables are looked up for a home directory, so what stands at a location does not depend
on them. -/
theorem find_withEnvironment (l : Location) (s : Surroundings)
    (environment : List (String × String)) : l.find { s with environment } = l.find s := by
  have hwalk : ∀ steps here,
      Location.walk { s with environment } here steps = Location.walk s here steps := by
    intro steps
    induction steps with
    | nil => exact fun _ => rfl
    | cons step rest ih =>
      intro here
      simp only [Location.walk, ih]
      rfl
  simp only [Location.find, hwalk]
  rfl

namespace SameSources

variable (h : SameSources s t)

include h

theorem valueOf?_eq_of_own {name : String} (hown : isOwnVariable name = true) :
    s.valueOf? name = t.valueOf? name := by
  rw [valueOf?_eq_lookup_fingerprint hown, h.fingerprint, ← valueOf?_eq_lookup_fingerprint hown]

theorem valueOf?_eq (ending : String) :
    s.valueOf? (variableStart ++ ending) = t.valueOf? (variableStart ++ ending) :=
  h.valueOf?_eq_of_own (isOwnVariable_append ending)

theorem filled?_eq (ending : String) :
    filled? s (variableStart ++ ending) = filled? t (variableStart ++ ending) := by
  rw [filled?, filled?, h.valueOf?_eq]

theorem locationIn_eq (ending : String) :
    locationIn s (variableStart ++ ending) = locationIn t (variableStart ++ ending) := by
  rw [locationIn, locationIn, h.valueOf?_eq]

theorem find_eq (l : Location) : l.find s = l.find t :=
  h.host.map_eq (Location.find · l) (find_withEnvironment l s _)

theorem nesting_eq : s.nesting = t.nesting := h.host.map_eq Surroundings.nesting rfl

/-- The variable with the home directory counts for locations that start in it. -/
theorem fromHome?_eq (l : Location)
    (hhome : l.account? = some [] →
      s.valueOf? Location.homeName = t.valueOf? Location.homeName) :
    l.fromHome? s = l.fromHome? t := by
  have hown := h.host.map_eq Surroundings.ownHome rfl
  have hhomes := h.host.map_eq Surroundings.homes rfl
  unfold Location.fromHome?
  cases haccount : l.account? with
  | none => rfl
  | some account =>
    have hsame : Location.homeOf? s account = Location.homeOf? t account := by
      unfold Location.homeOf?
      split
      · next hnil => rw [hhome (hnil ▸ haccount), hown]
      · rw [hhomes]
    simp only [hsame]

theorem readDocument_eq (l : Location)
    (hhome : l.account? = some [] →
      s.valueOf? Location.homeName = t.valueOf? Location.homeName) :
    readDocument s l = readDocument t l := by
  rw [readDocument, readDocument, h.fromHome?_eq l hhome]
  cases l.fromHome? t with
  | none => rfl
  | some l => simp only [readFile, h.find_eq, h.nesting_eq]

theorem optionalDocument_eq (l : Option Location)
    (hhome : ∀ found ∈ l, found.account? = some [] →
      s.valueOf? Location.homeName = t.valueOf? Location.homeName) :
    optionalDocument s l = optionalDocument t l := by
  cases l with
  | none => rfl
  | some l => exact h.readDocument_eq l (hhome l rfl)

end SameSources

/-! ## The source of a load -/

/-- Where settings are loaded from. -/
inductive Source where
  | environment
  | files (main infos : Option Location)
  | nothing

/-- The files that variables name. -/
def namedFiles (s : Surroundings) : Source :=
  .files (locationIn s (variableStart ++ "CONFIG_PATH"))
    (locationIn s (variableStart ++ "DBINFOS_PATH"))

/-- The source that is chosen: the one that a variable forces; else files when a variable names
some, else variables when others are set, else the standard file when it is there. -/
def chosen (s : Surroundings) : Source :=
  if sourceWord s = "env" then .environment
  else if sourceWord s = "files" then namedFiles s
  else if (locationIn s (variableStart ++ "CONFIG_PATH")).isSome ||
      (locationIn s (variableStart ++ "DBINFOS_PATH")).isSome then namedFiles s
  else if s.environment.any fun entry => isOwnVariable entry.1 && entry.1 != sourceName then
    .environment
  else if (standardLocation s).find s != .nothing then .files (some (standardLocation s)) none
  else .nothing

/-- Load settings from a source. -/
def loadFrom (s : Surroundings) : Source → Except Failure Settings
  | .environment => fromVariables s variableStart
  | .files main infos => fromFiles s main infos
  | .nothing => .ok {}

theorem load_eq_loadFrom_chosen (s : Surroundings) : load s = loadFrom s (chosen s) := by
  simp only [load, chosen, fromFirstSource, fromNamedFiles]
  split
  · rfl
  split
  · rfl
  split
  · rfl
  split
  · rfl
  split <;> rfl

theorem SameSources.chosen_eq (h : SameSources s t) : chosen s = chosen t := by
  have hword : sourceWord s = sourceWord t := by
    rw [sourceWord, sourceWord, sourceName, h.valueOf?_eq]
  have hstandard := h.host.map_eq standardLocation rfl
  simp only [chosen, namedFiles, hword, hstandard, h.locationIn_eq, h.find_eq,
    any_eq_any_fingerprint, h.fingerprint]

/-! ## The texts that a load searches -/

/-- The texts of a document, if it could be read. -/
def documentTexts (document : Except Failure Value) : List (List Char) :=
  (document.toOption.map texts).getD []

/-- The texts of the entries that are described. -/
def descriptionTexts (described : Except Failure Value.Entries) : List (List Char) :=
  (described.toOption.getD []).flatMap fun entry =>
    (entry.2.toEntries.toOption.map entryTexts).getD []

/-- The document in the variable with databases; without one it is empty. -/
def inlineDocument (s : Surroundings) : Except Failure Value :=
  match filled? s (variableStart ++ "DATABASES_JSON") with
  | none => .ok (.dict [])
  | some inline =>
    parseDocument (.malformedVariable (variableStart ++ "DATABASES_JSON")) inline.toList s.nesting

/-- The document in the file with databases, which is read when the variable tells none. -/
def infosDocument (s : Surroundings) : Except Failure Value := do
  if (← inlineDescriptions s variableStart).isTruthy then return .dict []
  else optionalDocument s (locationIn s (variableStart ++ "DBINFOS_PATH"))

/-- The entries of the main one of two documents and the descriptions in both. -/
def describedIn (main infos : Value) : Except Failure (Value.Entries × Value.Entries) := do
  let shared ← (← infos.orElse (.dict [])).toEntries
  let entries ← objectEntries "get" main
  let own ← (← (entries.getD "databases" .none).orElse (.dict [])).toEntries
  return (entries, Value.Entries.merge shared own)

/-- The texts that a load from a source searches for references.  What variables describe is
searched twice: where it stands, and again in the entries. -/
def searchedIn (s : Surroundings) : Source → List (List Char)
  | .environment =>
    documentTexts (inlineDocument s) ++ documentTexts (infosDocument s) ++
      (filled? s (variableStart ++ "DB_DSN")).toList.map String.toList ++
      descriptionTexts (allDescriptions s variableStart >>= objectEntries "items")
  | .files main infos =>
    descriptionTexts do
      let document ← optionalDocument s main
      let shared ← optionalDocument s infos
      (describedIn document shared).map Prod.snd
  | .nothing => []

/-- The texts that a load searches for references. -/
def searched (s : Surroundings) : List (List Char) := searchedIn s (chosen s)

/-- The locations of files that a load from a source may read. -/
def openedIn (s : Surroundings) : Source → List Location
  | .environment =>
    match inlineDescriptions s variableStart with
    | .ok inline =>
      if inline.isTruthy then [] else (locationIn s (variableStart ++ "DBINFOS_PATH")).toList
    | .error _ => []
  | .files main infos => main.toList ++ infos.toList
  | .nothing => []

/-- Whether a load looks the home directory up, for a file whose path starts there. -/
def LooksHome (s : Surroundings) : Prop := ∃ l ∈ openedIn s (chosen s), l.account? = some []

/-! ## Loads that agree -/

theorem readEntries_congr {nesting : Nat} {a b : List (String × String)}
    {described : Value.Entries}
    (h : ∀ text ∈ descriptionTexts (.ok described), expand a text = expand b text) :
    readEntries nesting a described = readEntries nesting b described := by
  induction described with
  | nil => rfl
  | cons entry rest ih =>
    obtain ⟨name, v⟩ := entry
    simp only [descriptionTexts, Except.toOption, Option.getD_some, List.flatMap_cons,
      List.mem_append, or_imp, forall_and] at h ih
    have hread : DatabaseEntry.read nesting a v = DatabaseEntry.read nesting b v := by
      rw [DatabaseEntry.read, DatabaseEntry.read]
      refine except_bind_congr fun d hv => ?_
      have hd := h.1
      simp only [hv] at hd
      have hentries := (expandEntries_eq_iff d).2 hd
      rw [DatabaseEntry.ofEntries, DatabaseEntry.ofEntries, expandedEntries, expandedEntries,
        hentries]
    rw [readEntries, readEntries, hread, ih h.2]

/-- A document is replaced alike where its texts are. -/
theorem bind_expanded_congr {nesting : Nat} {a b : List (String × String)}
    {document : Except Failure Value}
    (h : ∀ text ∈ documentTexts document, expand a text = expand b text) :
    document >>= expanded nesting a = document >>= expanded nesting b := by
  cases document with
  | error failure => rfl
  | ok v => rw [except_ok_bind, except_ok_bind, expanded, expanded, (expandValue_eq_iff v).2 h]

theorem ofDocuments_eq (nesting : Nat) (a : List (String × String)) (main infos : Value) :
    ofDocuments nesting a main infos = describedIn main infos >>= fun found =>
      readEntries nesting a found.2 >>= fun databases =>
        assemble databases (found.1.getD "default_db" .none) (.ofEntries found.1) id := by
  simp only [ofDocuments, describedIn, bind_assoc, pure_bind]

theorem ofDocuments_congr {nesting : Nat} {a b : List (String × String)} {main infos : Value}
    (h : ∀ text ∈ descriptionTexts ((describedIn main infos).map Prod.snd),
      expand a text = expand b text) :
    ofDocuments nesting a main infos = ofDocuments nesting b main infos := by
  rw [ofDocuments_eq, ofDocuments_eq]
  refine except_bind_congr fun found hfound => ?_
  rw [hfound] at h
  rw [readEntries_congr h]

namespace SameSources

variable (h : SameSources s t)

include h

theorem fromFiles_eq {main infos : Option Location}
    (hhome : ∀ l ∈ openedIn s (.files main infos), l.account? = some [] →
      s.valueOf? Location.homeName = t.valueOf? Location.homeName)
    (hexpand : ∀ text ∈ searchedIn s (.files main infos),
      expand s.environment text = expand t.environment text) :
    fromFiles s main infos = fromFiles t main infos := by
  simp only [openedIn, List.mem_append, Option.mem_toList, or_imp, forall_and] at hhome
  rw [fromFiles, fromFiles, ← h.optionalDocument_eq main hhome.1,
    ← h.optionalDocument_eq infos hhome.2, ← h.nesting_eq]
  simp only [searchedIn] at hexpand
  refine except_bind_congr fun document hmain => except_bind_congr fun shared hinfos => ?_
  rw [hmain, hinfos, except_ok_bind, except_ok_bind] at hexpand
  exact ofDocuments_congr hexpand

theorem inlineDescriptions_eq
    (hexpand : ∀ text ∈ documentTexts (inlineDocument s),
      expand s.environment text = expand t.environment text) :
    inlineDescriptions s variableStart = inlineDescriptions t variableStart := by
  simp only [inlineDescriptions, ← h.filled?_eq, ← h.nesting_eq]
  simp only [inlineDocument] at hexpand
  cases hfilled : filled? s (variableStart ++ "DATABASES_JSON") with
  | none => rfl
  | some inline =>
    rw [hfilled] at hexpand
    exact bind_expanded_congr hexpand

theorem descriptions_eq
    (hhome : ∀ l ∈ openedIn s .environment, l.account? = some [] →
      s.valueOf? Location.homeName = t.valueOf? Location.homeName)
    (hinline : ∀ text ∈ documentTexts (inlineDocument s),
      expand s.environment text = expand t.environment text)
    (hinfos : ∀ text ∈ documentTexts (infosDocument s),
      expand s.environment text = expand t.environment text) :
    descriptions s variableStart = descriptions t variableStart := by
  rw [descriptions, descriptions, ← h.inlineDescriptions_eq hinline]
  rw [infosDocument] at hinfos
  refine except_bind_congr fun inline hfound => ?_
  rw [hfound, except_ok_bind] at hinfos
  simp only [openedIn, hfound] at hhome
  split
  · rfl
  · next htruthy =>
    -- only a variable that tells no databases leads to the file
    rw [if_neg htruthy] at hinfos hhome
    rw [← h.locationIn_eq]
    cases hlocation : locationIn s (variableStart ++ "DBINFOS_PATH") with
    | none => rfl
    | some l =>
      rw [hlocation] at hinfos hhome
      simp only [← h.readDocument_eq l (hhome l (List.mem_singleton_self l)), ← h.nesting_eq]
      exact bind_expanded_congr hinfos

theorem allDescriptions_eq
    (hdescriptions : descriptions s variableStart = descriptions t variableStart)
    (hdsn : ∀ dsn, filled? s (variableStart ++ "DB_DSN") = some dsn →
      expandText s.environment dsn = expandText t.environment dsn) :
    allDescriptions s variableStart = allDescriptions t variableStart := by
  rw [allDescriptions, allDescriptions, ← hdescriptions]
  refine except_bind_congr fun found _ => ?_
  rw [← h.filled?_eq, ← h.filled?_eq]
  cases filled? s (variableStart ++ "DB_KEY") with
  | none => rfl
  | some key =>
    cases hfilled : filled? s (variableStart ++ "DB_DSN") with
    | none => rfl
    | some dsn => simp only [hdsn dsn hfilled]

theorem tuning_eq : Tuning.ofVariables s variableStart = Tuning.ofVariables t variableStart := by
  simp only [Tuning.ofVariables, h.valueOf?_eq]

theorem defaultIn_eq (names : List Value) :
    defaultIn s variableStart names = defaultIn t variableStart names := by
  simp only [defaultIn, h.filled?_eq, h.valueOf?_eq]

theorem fromVariables_eq
    (hhome : ∀ l ∈ openedIn s .environment, l.account? = some [] →
      s.valueOf? Location.homeName = t.valueOf? Location.homeName)
    (hexpand : ∀ text ∈ searchedIn s .environment,
      expand s.environment text = expand t.environment text) :
    fromVariables s variableStart = fromVariables t variableStart := by
  simp only [searchedIn, List.mem_append, or_imp, forall_and] at hexpand
  obtain ⟨⟨⟨hinline, hinfos⟩, hdsn⟩, hentries⟩ := hexpand
  have hall := h.allDescriptions_eq (h.descriptions_eq hhome hinline hinfos) fun dsn hfilled =>
    expandText_eq_iff.2 (hdsn dsn.toList (by simp [hfilled]))
  rw [fromVariables, fromVariables, ← hall]
  refine except_bind_congr fun found hfound => except_bind_congr fun entries hobject => ?_
  rw [hfound, except_ok_bind, hobject] at hentries
  rw [readEntries_congr hentries, h.tuning_eq, h.nesting_eq]
  simp only [h.defaultIn_eq]

end SameSources

/-- Two surroundings that differ in variables without settings at most load the same settings, or
fail alike, if the other variables that a searched text refers to have the same values in both, and
so has the one with the home directory when it is looked up. -/
theorem load_congr (h : SameSources s t)
    (hhome : LooksHome s → s.valueOf? Location.homeName = t.valueOf? Location.homeName)
    (hrefers : ∀ text ∈ searched s, ∀ name, Refers text name →
      isOwnVariable (String.ofList name) = false →
        valueOf s.environment name = valueOf t.environment name) :
    load s = load t := by
  have hexpand : ∀ text ∈ searchedIn s (chosen s),
      expand s.environment text = expand t.environment text := by
    intro text htext
    refine expand_congr fun name hname => ?_
    cases hown : isOwnVariable (String.ofList name) with
    | false => exact hrefers text htext name hname hown
    | true =>
      have hvalue := h.valueOf?_eq_of_own hown
      rw [Surroundings.valueOf?, Surroundings.valueOf?] at hvalue
      rw [valueOf, valueOf, hvalue]
  have hopened : ∀ l ∈ openedIn s (chosen s), l.account? = some [] →
      s.valueOf? Location.homeName = t.valueOf? Location.homeName :=
    fun l hl haccount => hhome ⟨l, hl, haccount⟩
  rw [load_eq_loadFrom_chosen, load_eq_loadFrom_chosen, ← h.chosen_eq]
  cases hsource : chosen s with
  | environment => exact h.fromVariables_eq (hsource ▸ hopened) (hsource ▸ hexpand)
  | files main infos => exact h.fromFiles_eq (hsource ▸ hopened) (hsource ▸ hexpand)
  | nothing => rfl

end Settings
end BoundUpdate
