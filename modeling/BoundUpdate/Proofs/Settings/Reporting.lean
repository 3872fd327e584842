import BoundUpdate.Proofs.Json.Tables
import BoundUpdate.Proofs.Lookup.Splitting
import BoundUpdate.Settings.Entry
import BoundUpdate.Settings.Coercion

namespace BoundUpdate

/-!
# Reports of single settings

Unusable settings ought to be reported by a failure of configuration, whatever
value stands at any place.  A setting of a fixed type and the description of a
database report their failures exactly where they find a shape that they can
read: truth values are always reported, an integer must not be infinite, prefixes
must be something to run through, and a description must be a table whose data
source name, options and type have the shapes that are taken for granted.
-/

open Json

/-! ## Settings of a fixed type -/

namespace Coercion

variable {v : Value}

/-- A value is an integer, or refused for its type or its spelling, or infinite. -/
theorem integral_cases (h : IsValue v) :
    (∃ n, v.integral = .ok n) ∨
    (∃ failure, v.integral = .error failure ∧
      (failure.kind = .wrongType ∨ failure.kind.isInvalidValue = true)) ∨
    ∃ negative, v = .float (.infinity negative) := by
  cases h with
  | none => exact .inr (.inl ⟨_, rfl, .inl rfl⟩)
  | bool b => exact .inl ⟨_, rfl⟩
  | int n => exact .inl ⟨_, rfl⟩
  | float x =>
    cases x with
    | nan => exact .inr (.inl ⟨_, rfl, .inr rfl⟩)
    | infinity negative => exact .inr (.inr ⟨negative, rfl⟩)
    | finite => exact .inl ⟨_, rfl⟩
  | text s =>
    have hspelled : (Value.text s).integral = Value.integerOfText s.toList := rfl
    rw [hspelled, Value.integerOfText]
    cases Number.readInteger s.toList with
    | ok n => exact .inl ⟨n, rfl⟩
    | error e => exact .inr (.inl ⟨_, rfl, .inr rfl⟩)
  | list => exact .inr (.inl ⟨_, rfl, .inl rfl⟩)
  | dict => exact .inr (.inl ⟨_, rfl, .inl rfl⟩)

theorem exists_toInt_iff (name : String) :
    (∃ n, toInt v name = .ok n) ↔ ∃ n, v.integral = .ok n := by
  rw [toInt]
  cases v.integral with
  | ok n => rfl
  | error failure =>
    refine iff_of_false ?_ fun ⟨_, h⟩ => nomatch h
    rintro ⟨n, h⟩
    dsimp only at h
    split at h <;> cases h

/-- An integer is reported unless it is infinite. -/
theorem reported_toInt_iff (h : IsValue v) (name : String) :
    Reported (toInt v name) ↔ ∀ negative, v ≠ .float (.infinity negative) := by
  rcases integral_cases h with ⟨n, hn⟩ | ⟨failure, hfailure, hkind⟩ | ⟨negative, rfl⟩
  · rw [toInt, hn]
    refine iff_of_true (reported_ok n) ?_
    rintro negative rfl
    cases hn
  · simp only [toInt, hfailure]
    rw [if_pos hkind, h.failShowing]
    refine iff_of_true (reported_error_iff.2 rfl) ?_
    rintro negative rfl
    cases hfailure
    simp [Failure.kind, FailureKind.isInvalidValue] at hkind
  · refine iff_of_false (fun h => ?_) fun h => h negative rfl
    cases reported_error_iff.1 h

theorem plain?_of_isValue (h : IsValue v) : v.plain? = .ok v.plain := by
  have hfault := h.showFault?
  have hasks : v.ask? "__str__" = none := h.askWith? _ _
  cases h <;> simp [Value.plain?, hasks, hfault]

/-- A truth value is always reported. -/
theorem reported_toBool (h : IsValue v) (name : String) : Reported (toBool v name) := by
  unfold toBool
  split
  · exact reported_ok _
  · rw [plain?_of_isValue h, except_ok_bind]
    dsimp only
    split
    · exact reported_ok _
    · split
      · exact reported_ok _
      · rw [h.failShowing]
        exact reported_error_iff.2 rfl

theorem isValue_commaNames (s : List Char) : IsValue (.list (commaNames s)) := by
  refine .list fun v hv => ?_
  obtain ⟨name, -, hname⟩ := List.mem_filterMap.1 hv
  split at hname
  · cases hname
  · cases hname
    exact .text _

/-- Prefixes are reported if they can be run through. -/
theorem reported_toPrefixes_iff (h : IsValue v) :
    Reported (toPrefixes v) ↔ ∃ items, v.items? = some items := by
  have hlisted : ∀ w : Value, IsValue w →
      (Reported (do
        let items ← w.toItems
        if items.isEmpty || !items.all isName then
          throw (w.failShowing fun text => .configuration (.invalidPrefixes text))
        else return items) ↔ ∃ items, w.items? = some items) := by
    intro w hw
    rw [reported_bind_iff, toItems_eq hw]
    cases w.items? with
    | none =>
      refine iff_of_false (fun h => ?_) fun ⟨_, h⟩ => nomatch h
      exact kind_notIterable (reported_error_iff.1 h.1)
    | some items =>
      refine iff_of_true ⟨reported_ok items, fun found _ => ?_⟩ ⟨items, rfl⟩
      split
      · rw [hw.failShowing]
        exact reported_error_iff.2 rfl
      · exact reported_ok _
  unfold toPrefixes
  cases htext : v.text? with
  | none => exact hlisted v h
  | some s =>
    refine (hlisted _ (isValue_commaNames s.toList)).trans (iff_of_true ⟨_, rfl⟩ ?_)
    cases h with
    | text => exact ⟨_, rfl⟩
    | _ => cases htext

end Coercion

/-! ## Addresses -/

namespace Address

theorem neverReported_refuse {α : Type} (text : String) :
    NeverReported (refuse text : Except Failure α) :=
  neverReported_error (by simp [Failure.kind])

theorem neverReported_checkBracketed (host : List Char) : NeverReported (checkBracketed host) := by
  unfold checkBracketed
  repeat' split
  all_goals first
    | exact neverReported_ok _
    | exact neverReported_refuse _

theorem neverReported_checkBrackets (authority : List Char) :
    NeverReported (checkBrackets authority) := by
  unfold checkBrackets
  split
  · unfold checkServer
    split
    · dsimp only
      split
      · exact neverReported_refuse _
      · exact neverReported_checkBracketed _
    · exact neverReported_checkBracketed _
  · exact neverReported_ok _
  · exact neverReported_refuse _

theorem neverReported_checkMarks (authority : List Char) :
    NeverReported (checkMarks authority) := by
  unfold checkMarks
  split
  · exact neverReported_refuse _
  · exact neverReported_ok _

/-- An address that is refused is not reported. -/
theorem neverReported_read (s : List Char) : NeverReported (read s) :=
  (neverReported_checkBrackets _).bind fun _ _ =>
    (neverReported_checkMarks _).bind fun _ _ => neverReported_ok _

theorem neverReported_port (a : Address) : NeverReported a.port := by
  unfold port
  dsimp only
  repeat' split
  all_goals first
    | exact neverReported_ok _
    | exact neverReported_refuse _
    | exact neverReported_error (by simp [Failure.kind])

end Address

/-! ## Data source names -/

namespace Dsn

variable {dsn : Value} {s : String}

/-- Whether a data source name is a text with the mark of an address. -/
def IsAddressText (dsn : Value) (s : String) : Prop :=
  dsn.text? = some s ∧ Text.occursIn mark s.toList = true

/-- Whether the parts of a data source name can be told: it is no address, or one that is not
refused and whose port, unless the database is embedded, is a number in range. -/
def HasParts (dsn : Value) : Prop :=
  ∀ s, IsAddressText dsn s → ∃ a, Address.read s.toList = .ok a ∧
    (String.ofList (typeOfScheme a.scheme) ≠ "sqlite" → ∃ port, a.port = .ok port)

/-- Whether the items of a value can be looked through and the mark of an address is not among
them. -/
def HoldsNoMark (dsn : Value) : Prop :=
  ∃ items, dsn.items? = some items ∧
    items.any (Value.sameKey (.text (String.ofList mark))) = false

/-- Whether a data source name without a described type can be searched for one: it is a text, and
no refused address, or another value without the mark. -/
def IsSearchable (dsn : Value) : Prop :=
  (∀ s, IsAddressText dsn s → ∃ a, Address.read s.toList = .ok a) ∧
    (dsn.text? = none → HoldsNoMark dsn)

/-- Whether a data source name tells a type. -/
def TellsType (dsn : Value) : Prop :=
  ∃ s a, IsAddressText dsn s ∧ Address.read s.toList = .ok a ∧ typeOfScheme a.scheme ≠ []

theorem exists_ofAddress_iff (a : Address) :
    (∃ parts, ofAddress a = .ok parts) ↔
      (String.ofList (typeOfScheme a.scheme) ≠ "sqlite" → ∃ port, a.port = .ok port) := by
  unfold ofAddress
  dsimp only
  split
  · next h => exact iff_of_true ⟨_, rfl⟩ fun hne => absurd h hne
  · next h =>
    rw [exists_bind_eq_ok_iff]
    constructor
    · rintro ⟨port, hport, -⟩ -
      exact ⟨port, hport⟩
    · intro hport
      obtain ⟨port, hport⟩ := hport h
      exact ⟨port, hport, _, rfl⟩

theorem neverReported_ofAddress (a : Address) : NeverReported (ofAddress a) := by
  unfold ofAddress
  dsimp only
  split
  · exact neverReported_ok _
  · exact (Address.neverReported_port a).bind fun _ _ => neverReported_ok _

theorem read_of_isAddressText (h : IsAddressText dsn s) :
    read dsn = (do ofAddress (← Address.read s.toList)) := by
  simp only [read, h.1, h.2, if_true]

theorem read_of_not_isAddressText (h : ∀ s, ¬ IsAddressText dsn s) :
    read dsn = .ok { type := "sqlite", database := dsn } := by
  unfold read
  split
  · next s hs => rw [if_neg fun hmark => h s ⟨hs, hmark⟩]
  · rfl

theorem neverReported_read (dsn : Value) : NeverReported (read dsn) := by
  by_cases h : ∃ s, IsAddressText dsn s
  · obtain ⟨s, hs⟩ := h
    rw [read_of_isAddressText hs]
    exact (Address.neverReported_read _).bind fun a _ => neverReported_ofAddress a
  · rw [read_of_not_isAddressText fun s hs => h ⟨s, hs⟩]
    exact neverReported_ok _

theorem exists_read_iff : (∃ parts, read dsn = .ok parts) ↔ HasParts dsn := by
  by_cases h : ∃ s, IsAddressText dsn s
  · obtain ⟨s, hs⟩ := h
    rw [read_of_isAddressText hs, exists_bind_eq_ok_iff]
    simp only [exists_ofAddress_iff]
    constructor
    · intro h t ht
      obtain rfl := Option.some.inj (hs.1.symm.trans ht.1)
      exact h
    · exact fun h => h s hs
  · rw [read_of_not_isAddressText fun s hs => h ⟨s, hs⟩]
    exact iff_of_true ⟨_, rfl⟩ fun s hs => absurd ⟨s, hs⟩ h

/-! The type of an address is that of its scheme. -/

theorem typeOf_of_truthy (hv : IsValue dsn) (htruthy : dsn.isTruthy = true) :
    typeOf dsn = (do
      if ← holdsMark dsn then
        match dsn.text? with
        | none => .error (.elementary .missingAttribute
            ("'" ++ dsn.qualifiedTypeName ++ "' object has no attribute 'decode'"))
        | some s => do
          let a ← Address.read s.toList
          return if a.scheme.isEmpty then none else some (String.ofList (typeOfScheme a.scheme))
      else return none) := by
  rw [typeOf, hv.truth, except_ok_bind, htruthy]
  rfl

theorem holdsMark_of_text (h : dsn.text? = some s) :
    holdsMark dsn = .ok (Text.occursIn mark s.toList) := by
  simp only [holdsMark, h]

theorem typeOf_of_isAddressText (hv : IsValue dsn) (htruthy : dsn.isTruthy = true)
    (h : IsAddressText dsn s) :
    typeOf dsn = (do
      let a ← Address.read s.toList
      return if a.scheme.isEmpty then none else some (String.ofList (typeOfScheme a.scheme))) := by
  rw [typeOf_of_truthy hv htruthy, holdsMark_of_text h.1, except_ok_bind, if_pos h.2, h.1]

theorem typeOf_of_path (hv : IsValue dsn) (htruthy : dsn.isTruthy = true)
    (htext : dsn.text? = some s) (h : ∀ s, ¬ IsAddressText dsn s) : typeOf dsn = .ok none := by
  have hmark : ¬ Text.occursIn mark s.toList = true := fun hmark => h s ⟨htext, hmark⟩
  rw [typeOf_of_truthy hv htruthy, holdsMark_of_text htext, except_ok_bind, if_neg hmark]
  rfl

/-- A value that is no text is searched for an item that is the mark of an address. -/
theorem typeOf_of_no_text (hv : IsValue dsn) (htruthy : dsn.isTruthy = true)
    (htext : dsn.text? = none) :
    typeOf dsn = .ok none ∧ HoldsNoMark dsn ∨
      ∃ failure, typeOf dsn = .error failure ∧ failure.kind ≠ .configuration ∧
        ¬ HoldsNoMark dsn := by
  rw [typeOf_of_truthy hv htruthy, htext]
  cases hitems : dsn.items? with
  | none =>
    have hholds : ∃ failure, holdsMark dsn = .error failure ∧ failure.kind ≠ .configuration := by
      cases hv with
      | text => cases htext
      | list | dict => cases hitems
      | _ => exact ⟨_, rfl, by simp [Failure.kind]⟩
    obtain ⟨failure, hfailure, hkind⟩ := hholds
    refine .inr ⟨failure, by rw [hfailure]; rfl, hkind, ?_⟩
    rintro ⟨items, h, -⟩
    cases hitems.symm.trans h
  | some items =>
    have hholds : holdsMark dsn = .ok (items.any (Value.sameKey (.text (String.ofList mark)))) := by
      cases hv with
      | text => cases htext
      | list | dict => cases hitems; rfl
      | _ => cases hitems
    rw [hholds, except_ok_bind]
    cases hany : items.any (Value.sameKey (.text (String.ofList mark))) with
    | true =>
      refine .inr ⟨_, rfl, by simp [Failure.kind], ?_⟩
      rintro ⟨_, h, hnone⟩
      cases hitems.symm.trans h
      cases hany.symm.trans hnone
    | false => exact .inl ⟨rfl, items, hitems, hany⟩

/-- A name is an address; or else it tells no type, or the search for one fails. -/
theorem typeOf_cases (hv : IsValue dsn) (htruthy : dsn.isTruthy = true) :
    (∃ s, IsAddressText dsn s) ∨
      (∀ s, ¬ IsAddressText dsn s) ∧
        (typeOf dsn = .ok none ∧ IsSearchable dsn ∨
          ∃ failure, typeOf dsn = .error failure ∧ failure.kind ≠ .configuration ∧
            ¬ IsSearchable dsn) := by
  by_cases h : ∃ s, IsAddressText dsn s
  · exact .inl h
  · have hno : ∀ s, ¬ IsAddressText dsn s := fun s hs => h ⟨s, hs⟩
    refine .inr ⟨hno, ?_⟩
    cases htext : dsn.text? with
    | some s =>
      refine .inl ⟨typeOf_of_path hv htruthy htext hno, fun s hs => absurd hs (hno s), ?_⟩
      exact fun hnone => nomatch htext.symm.trans hnone
    | none =>
      rcases typeOf_of_no_text hv htruthy htext with ⟨htype, hmark⟩ | ⟨failure, htype, hkind, hmark⟩
      · exact .inl ⟨htype, fun s hs => absurd hs (hno s), fun _ => hmark⟩
      · exact .inr ⟨failure, htype, hkind, fun h => hmark (h.2 htext)⟩

theorem neverReported_typeOf (hv : IsValue dsn) (htruthy : dsn.isTruthy = true) :
    NeverReported (typeOf dsn) := by
  obtain ⟨s, hs⟩ | ⟨-, ⟨htype, -⟩ | ⟨failure, htype, hkind, -⟩⟩ := typeOf_cases hv htruthy
  · rw [typeOf_of_isAddressText hv htruthy hs]
    exact (Address.neverReported_read _).bind fun _ _ => neverReported_ok _
  · exact htype ▸ neverReported_ok none
  · exact htype ▸ neverReported_error hkind

theorem exists_typeOf_iff (hv : IsValue dsn) (htruthy : dsn.isTruthy = true) :
    (∃ type, typeOf dsn = .ok type) ↔ IsSearchable dsn := by
  obtain ⟨s, hs⟩ | ⟨-, ⟨htype, hsearchable⟩ | ⟨failure, htype, -, hsearchable⟩⟩ :=
    typeOf_cases hv htruthy
  · rw [typeOf_of_isAddressText hv htruthy hs, exists_bind_eq_ok_iff, IsSearchable, hs.1]
    constructor
    · rintro ⟨a, ha, -⟩
      refine ⟨fun t ht => ?_, fun hnone => nomatch hnone⟩
      obtain rfl := Option.some.inj (hs.1.symm.trans ht.1)
      exact ⟨a, ha⟩
    · intro h
      obtain ⟨a, ha⟩ := h.1 s hs
      exact ⟨a, ha, _, rfl⟩
  · exact iff_of_true ⟨none, htype⟩ hsearchable
  · refine iff_of_false (fun ⟨_, hok⟩ => ?_) hsearchable
    cases htype.symm.trans hok

/-- A type is told by an address with a scheme that names one, and by nothing else. -/
theorem exists_typeOf_some_iff (hv : IsValue dsn) (htruthy : dsn.isTruthy = true) :
    (∃ type : String, typeOf dsn = .ok (some type) ∧ type.isEmpty = false) ↔ TellsType dsn := by
  constructor
  · rintro ⟨type, htype, hsome⟩
    obtain ⟨s, hs⟩ | ⟨-, ⟨hnone, -⟩ | ⟨failure, hfailure, -⟩⟩ := typeOf_cases hv htruthy
    · rw [typeOf_of_isAddressText hv htruthy hs] at htype
      obtain ⟨a, ha, htype⟩ := except_bind_ok htype
      refine ⟨s, a, hs, ha, ?_⟩
      intro hnil
      split at htype
      · cases htype
      · cases htype
        rw [hnil] at hsome
        cases hsome
    · cases htype.symm.trans hnone
    · cases htype.symm.trans hfailure
  · rintro ⟨s, a, hs, ha, hscheme⟩
    refine ⟨String.ofList (typeOfScheme a.scheme), ?_, ?_⟩
    · have hsome : a.scheme.isEmpty = false := by
        cases hnil : a.scheme with
        | nil => exact absurd (by rw [hnil]; rfl) hscheme
        | cons => rfl
      rw [typeOf_of_isAddressText hv htruthy hs, ha, except_ok_bind, hsome]
      rfl
    · rw [← Bool.not_eq_true, String.isEmpty_iff]
      intro hempty
      exact hscheme (by rw [← String.toList_ofList (l := typeOfScheme a.scheme), hempty]; rfl)

end Dsn

/-! ## Descriptions of databases -/

namespace DatabaseEntry

variable {nesting : Nat} {environment : List (String × String)} {d : Value.Entries}
  {dsn type : Value}

/-- Whether the options of a description are an object, unless they count as nothing. -/
def OptionsTold (d : Value.Entries) : Prop :=
  (d.getD "options" (.dict [])).isTruthy = true →
    ∃ entries, d.getD "options" (.dict []) = .dict entries

/-- Whether a data source name can be read under a description.  A described type must be a text;
without one the name is searched for a type, and its parts are told when it has one. -/
structure NameLegible (d : Value.Entries) (dsn : Value) : Prop where
  described : (d.getD "type" .none).isTruthy = true →
    Dsn.HasParts dsn ∧ OptionsTold d ∧ ∃ s, (d.getD "type" .none).text? = some s
  searched : (d.getD "type" .none).isTruthy = false →
    Dsn.IsSearchable dsn ∧ (Dsn.TellsType dsn → Dsn.HasParts dsn ∧ OptionsTold d)

/-- Whether a description can be read; one without a data source name always can. -/
def DescriptionLegible (d : Value.Entries) : Prop :=
  (d.getD "dsn" .none).isTruthy = true → NameLegible d (d.getD "dsn" .none)

/-- Whether a description can be searched for references and can be read then. -/
structure TableLegible (nesting : Nat) (environment : List (String × String))
    (described : Value.Entries) : Prop where
  shallow : (Value.dict described).nestsWithin (Reference.levels nesting) = true
  description : DescriptionLegible (Reference.expandEntries environment described)

/-- Whether a value is a table with a description that can be read. -/
def EntryLegible (nesting : Nat) (environment : List (String × String)) (v : Value) : Prop :=
  IsTable v ∧ ∀ described, v.toEntries = .ok described →
    TableLegible nesting environment described

theorem describedOptions_eq (hd : ∀ entry ∈ d, IsValue entry.2) :
    describedOptions d = .ok (if (d.getD "options" (.dict [])).isTruthy then
      d.getD "options" (.dict []) else .dict []) :=
  (isValue_getD hd "options" areEntries_nil.isValue).orElse _

theorem describedOptions_of_told (hd : ∀ entry ∈ d, IsValue entry.2) (h : OptionsTold d) :
    ∃ entries, describedOptions d = .ok (.dict entries) := by
  rw [describedOptions_eq hd]
  split
  · next htruthy =>
    obtain ⟨entries, hentries⟩ := h htruthy
    exact ⟨entries, congrArg Except.ok hentries⟩
  · exact ⟨[], rfl⟩

theorem mergedOptions_of_told (hd : ∀ entry ∈ d, IsValue entry.2) (parts : Dsn)
    (h : OptionsTold d) : ∃ v, mergedOptions parts d = .ok v := by
  obtain ⟨entries, hentries⟩ := describedOptions_of_told hd h
  rw [mergedOptions, hentries]
  exact ⟨_, rfl⟩

theorem mergedOptions_of_not_told (hd : ∀ entry ∈ d, IsValue entry.2) (parts : Dsn)
    (h : ¬ OptionsTold d) : ∃ v, mergedOptions parts d = .error (notMapping v) := by
  obtain ⟨htruthy, hno⟩ := Classical.not_imp.1 h
  have hv := isValue_getD hd "options" areEntries_nil.isValue
  rw [mergedOptions, describedOptions_eq hd, if_pos htruthy]
  revert hno hv
  generalize d.getD "options" (.dict []) = v
  intro hno hv
  cases hv with
  | dict => exact absurd ⟨_, rfl⟩ hno
  | _ => exact ⟨_, rfl⟩

theorem neverReported_mergedOptions (hd : ∀ entry ∈ d, IsValue entry.2) (parts : Dsn) :
    NeverReported (mergedOptions parts d) := by
  by_cases h : OptionsTold d
  · obtain ⟨v, hv⟩ := mergedOptions_of_told hd parts h
    exact hv ▸ neverReported_ok v
  · obtain ⟨v, hv⟩ := mergedOptions_of_not_told hd parts h
    exact hv ▸ neverReported_error (by simp [notMapping, Failure.kind])

theorem exists_mergedOptions_iff (hd : ∀ entry ∈ d, IsValue entry.2) (parts : Dsn) :
    (∃ v, mergedOptions parts d = .ok v) ↔ OptionsTold d := by
  refine ⟨fun ⟨v, hv⟩ => ?_, mergedOptions_of_told hd parts⟩
  by_contra h
  obtain ⟨w, hw⟩ := mergedOptions_of_not_told hd parts h
  cases hv.symm.trans hw

theorem plainType_of_text {s : String} (h : type.text? = some s) :
    plainType type = .ok (.text (String.ofList (Text.before '+' s.toList))) := by
  simp only [plainType, h]

/-- A type that is no text cannot be split. -/
theorem plainType_of_no_text (hv : IsValue type) (h : type.text? = none) :
    plainType type = .error (Lookup.missingAttribute type "split") := by
  have hsplit := Lookup.ask_split hv h [.text "+", .int 1]
  cases hv with
  | text => cases h
  | _ => simp only [plainType, Value.text?, hsplit]; rfl

theorem neverReported_plainType (hv : IsValue type) : NeverReported (plainType type) := by
  cases h : type.text? with
  | some s => exact plainType_of_text h ▸ neverReported_ok _
  | none =>
    exact plainType_of_no_text hv h ▸
      neverReported_error (by simp [Lookup.missingAttribute, Failure.kind])

theorem exists_plainType_iff (hv : IsValue type) :
    (∃ plain, plainType type = .ok plain) ↔ ∃ s, type.text? = some s := by
  cases h : type.text? with
  | some s => exact iff_of_true ⟨_, plainType_of_text h⟩ ⟨s, rfl⟩
  | none =>
    refine iff_of_false (fun ⟨_, hok⟩ => ?_) fun ⟨_, hs⟩ => nomatch hs
    cases (plainType_of_no_text hv h).symm.trans hok

/-- The rest of an entry once its type is told. -/
def ofTypedDsn (d : Value.Entries) (dsn type : Value) : Except Failure DatabaseEntry := do
  let parts ← Dsn.read dsn
  let options ← mergedOptions parts d
  let type ← plainType type
  return { type, dsn, options
           host := (parts.server.map Prod.fst).getD .none
           port := (parts.server.map Prod.snd).getD .none
           user := ofText? parts.user
           password := ofText? parts.password
           database := parts.database }

theorem ofDsn_eq : ofDsn d dsn = (do ofTypedDsn d dsn (← typeFor d dsn)) := rfl

theorem reported_ofTypedDsn_iff (hd : ∀ entry ∈ d, IsValue entry.2) (hv : IsValue type) :
    Reported (ofTypedDsn d dsn type) ↔
      Dsn.HasParts dsn ∧ OptionsTold d ∧ ∃ s, type.text? = some s := by
  have hnever : NeverReported (ofTypedDsn d dsn type) :=
    (Dsn.neverReported_read dsn).bind fun parts _ =>
      (neverReported_mergedOptions hd parts).bind fun _ _ =>
        (neverReported_plainType hv).bind fun _ _ => neverReported_ok _
  rw [hnever.reported_iff, ofTypedDsn, ← Dsn.exists_read_iff, ← exists_plainType_iff hv]
  simp only [exists_bind_eq_ok_iff]
  constructor
  · rintro ⟨parts, hparts, options, hoptions, plain, hplain, -⟩
    exact ⟨⟨parts, hparts⟩, (exists_mergedOptions_iff hd parts).1 ⟨options, hoptions⟩,
      plain, hplain⟩
  · rintro ⟨⟨parts, hparts⟩, htold, plain, hplain⟩
    obtain ⟨options, hoptions⟩ := mergedOptions_of_told hd parts htold
    exact ⟨parts, hparts, options, hoptions, plain, hplain, _, rfl⟩

/-! A described type wins; without one a type that the name tells is taken. -/

theorem typeFor_of_described (hd : ∀ entry ∈ d, IsValue entry.2)
    (h : (d.getD "type" .none).isTruthy = true) : typeFor d dsn = .ok (d.getD "type" .none) := by
  rw [typeFor, (isValue_getD hd "type" IsValue.none).truth, except_ok_bind, if_pos h]
  rfl

theorem typeFor_of_searched (hd : ∀ entry ∈ d, IsValue entry.2)
    (h : (d.getD "type" .none).isTruthy = false) :
    typeFor d dsn = (do
      match ← Dsn.typeOf dsn with
      | some type =>
        if type.isEmpty then throw (.configuration .typeNotInferred) else return .text type
      | none => throw (.configuration .typeNotInferred)) := by
  rw [typeFor, (isValue_getD hd "type" IsValue.none).truth, except_ok_bind, h]
  rfl

theorem reported_typeFor_iff (hd : ∀ entry ∈ d, IsValue entry.2) (hv : IsValue dsn)
    (htruthy : dsn.isTruthy = true) (h : (d.getD "type" .none).isTruthy = false) :
    Reported (typeFor d dsn) ↔ Dsn.IsSearchable dsn := by
  rw [typeFor_of_searched hd h, reported_bind_iff,
    (Dsn.neverReported_typeOf hv htruthy).reported_iff, Dsn.exists_typeOf_iff hv htruthy]
  refine and_iff_left fun type _ => ?_
  split
  · split
    · exact reported_error_iff.2 rfl
    · exact reported_ok _
  · exact reported_error_iff.2 rfl

/-- The type that is taken from a name is a text. -/
theorem typeFor_eq_ok_iff (hd : ∀ entry ∈ d, IsValue entry.2)
    (h : (d.getD "type" .none).isTruthy = false) :
    typeFor d dsn = .ok type ↔
      ∃ s : String, Dsn.typeOf dsn = .ok (some s) ∧ s.isEmpty = false ∧ type = .text s := by
  rw [typeFor_of_searched hd h]
  constructor
  · intro htype
    obtain ⟨found, hfound, htype⟩ := except_bind_ok htype
    split at htype
    · next s =>
      split at htype
      · cases htype
      · next hsome =>
        cases htype
        exact ⟨s, hfound, by simpa using hsome, rfl⟩
    · cases htype
  · rintro ⟨s, hs, hsome, rfl⟩
    rw [hs, except_ok_bind]
    simp only [hsome]
    rfl

theorem reported_ofDsn_iff (hd : ∀ entry ∈ d, IsValue entry.2) (hv : IsValue dsn)
    (htruthy : dsn.isTruthy = true) : Reported (ofDsn d dsn) ↔ NameLegible d dsn := by
  rw [ofDsn_eq, reported_bind_iff]
  -- a described type needs no search, so the name is not searched then; a type that is found is a
  -- text, so only a described one can fail to be split
  cases h : (d.getD "type" .none).isTruthy with
  | true =>
    have hdescribed := isValue_getD hd "type" IsValue.none
    rw [typeFor_of_described hd h]
    constructor
    · intro hreported
      have htyped := (reported_ofTypedDsn_iff hd hdescribed).1 (hreported.2 _ rfl)
      exact ⟨fun _ => htyped, fun hfalse => nomatch h.symm.trans hfalse⟩
    · rintro hlegible
      refine ⟨reported_ok _, fun type htype => ?_⟩
      cases htype
      exact (reported_ofTypedDsn_iff hd hdescribed).2 (hlegible.described h)
  | false =>
    rw [reported_typeFor_iff hd hv htruthy h]
    have htext : ∀ s : String, (Value.text s).text? = some s := fun _ => rfl
    constructor
    · rintro ⟨hsearchable, hrest⟩
      refine ⟨fun htrue => (nomatch h.symm.trans htrue), fun _ => ⟨hsearchable, fun htells => ?_⟩⟩
      obtain ⟨s, hs, hsome⟩ := (Dsn.exists_typeOf_some_iff hv htruthy).2 htells
      have htyped := hrest (.text s) ((typeFor_eq_ok_iff hd h).2 ⟨s, hs, hsome, rfl⟩)
      obtain ⟨hparts, htold, -⟩ := (reported_ofTypedDsn_iff hd (.text s)).1 htyped
      exact ⟨hparts, htold⟩
    · intro hlegible
      obtain ⟨hsearchable, htold⟩ := hlegible.searched h
      refine ⟨hsearchable, fun type htype => ?_⟩
      obtain ⟨s, hs, hsome, rfl⟩ := (typeFor_eq_ok_iff hd h).1 htype
      obtain ⟨hparts, htold⟩ := htold ((Dsn.exists_typeOf_some_iff hv htruthy).1 ⟨s, hs, hsome⟩)
      exact (reported_ofTypedDsn_iff hd (.text s)).2 ⟨hparts, htold, s, rfl⟩

/-- A description without a data source name is read, or reported for its missing type. -/
theorem reported_ofParts (hd : ∀ entry ∈ d, IsValue entry.2) : Reported (ofParts d) := by
  rw [ofParts, (isValue_getD hd "type" IsValue.none).truth, except_ok_bind]
  split
  · rw [describedOptions_eq hd, except_ok_bind]
    exact reported_ok _
  · exact reported_error_iff.2 rfl

theorem reported_ofEntries_iff {described : Value.Entries}
    (h : ∀ entry ∈ described, IsValue entry.2) :
    Reported (ofEntries nesting environment described) ↔
      TableLegible nesting environment described := by
  have hd : ∀ entry ∈ Reference.expandEntries environment described, IsValue entry.2 := by
    rw [Reference.expandEntries_eq_map]
    exact List.forall_mem_map.2 fun entry hentry => Reference.isValue_expandValue (h entry hentry)
  rw [ofEntries, Reference.expandedEntries]
  by_cases hshallow : (Value.dict described).nestsWithin (Reference.levels nesting) = true
  · have hlegible : TableLegible nesting environment described ↔
        DescriptionLegible (Reference.expandEntries environment described) :=
      ⟨fun h => h.description, fun h => ⟨hshallow, h⟩⟩
    rw [hlegible, if_pos hshallow, except_ok_bind]
    revert hd
    generalize Reference.expandEntries environment described = d
    intro hd
    have hv := isValue_getD hd "dsn" IsValue.none
    dsimp only
    rw [hv.truth, except_ok_bind, DescriptionLegible]
    split
    · next htruthy =>
      rw [reported_ofDsn_iff hd hv htruthy]
      exact (imp_iff_right htruthy).symm
    · next hfalse => exact iff_of_true (reported_ofParts hd) fun htruthy => absurd htruthy hfalse
  · rw [if_neg hshallow]
    refine iff_of_false (fun h => ?_) fun h => hshallow h.shallow
    cases h _ rfl

theorem reported_read_iff {v : Value} (hv : IsValue v) :
    Reported (read nesting environment v) ↔ EntryLegible nesting environment v := by
  rw [read, reported_bind_iff, reported_toEntries_iff hv, EntryLegible]
  refine and_congr_right fun _ => forall_congr' fun described => forall_congr' fun h => ?_
  exact reported_ofEntries_iff (isValue_of_toEntries hv h)

end DatabaseEntry

end BoundUpdate
