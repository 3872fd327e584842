import BoundUpdate.Proofs.Json.LineEnds
import BoundUpdate.Proofs.Settings.References
import BoundUpdate.Proofs.Value.Entries
import BoundUpdate.Value.Dictionary
import BoundUpdate.Value.Display

namespace BoundUpdate
namespace Json

/-!
# The values of JSON texts

A JSON text holds nothing, truth values, numbers, texts, lists and objects, and
the names in an object differ.  So its values are never objects of the language,
which could refuse to be shown, counted or compared.  References are replaced in
the texts of a value and not in names, which keeps its form.
-/

/-- Whether a value is one that a JSON text can hold. -/
inductive IsValue : Value → Prop where
  | none : IsValue .none
  | bool (b : Bool) : IsValue (.bool b)
  | int (n : Int) : IsValue (.int n)
  | float (x : Number.Binary64) : IsValue (.float x)
  | text (s : String) : IsValue (.text s)
  | list {items : List Value} (items_values : ∀ v ∈ items, IsValue v) : IsValue (.list items)
  | dict {entries : Value.Entries} (named : Value.Entries.Named entries)
      (entries_values : ∀ entry ∈ entries, IsValue entry.2) : IsValue (.dict entries)

/-- Whether entries are those of an object that a JSON text can hold. -/
structure AreEntries (entries : Value.Entries) : Prop where
  named : Value.Entries.Named entries
  values : ∀ entry ∈ entries, IsValue entry.2

variable {v : Value}

/-- Every value tells whether it counts as true. -/
theorem IsValue.truth (h : IsValue v) : v.truth = .ok v.isTruthy := by cases h <;> rfl

theorem IsValue.orElse (h : IsValue v) (other : Value) :
    v.orElse other = .ok (if v.isTruthy then v else other) := by
  rw [Value.orElse, h.truth]
  cases v.isTruthy <;> rfl

/-- Values have no special members. -/
theorem IsValue.askWith? (h : IsValue v) (special : String) (operands : Nat) :
    v.askWith? special operands = .none := by
  cases h <;> rfl

theorem showFaultIn?_eq_none {items : List Value} (h : ∀ v ∈ items, v.showFault? = .none) :
    Value.showFaultIn? items = .none := by
  induction items with
  | nil => simp [Value.showFaultIn?]
  | cons v rest ih =>
    obtain ⟨hv, hrest⟩ := List.forall_mem_cons.1 h
    simp [Value.showFaultIn?, hv, ih hrest]

theorem showFaultInEntries?_eq_none {entries : Value.Entries}
    (hkeys : ∀ entry ∈ entries, ∃ name, entry.1 = .text name)
    (h : ∀ entry ∈ entries, entry.2.showFault? = .none) :
    Value.showFaultInEntries? entries = .none := by
  induction entries with
  | nil => simp [Value.showFaultInEntries?]
  | cons entry rest ih =>
    obtain ⟨⟨name, hname⟩, hnames⟩ := List.forall_mem_cons.1 hkeys
    obtain ⟨hentry, hrest⟩ := List.forall_mem_cons.1 h
    simp [Value.showFaultInEntries?, Value.showFault?, hname, hentry, ih hnames hrest]

/-- Every value can be shown. -/
theorem IsValue.showFault? (h : IsValue v) : v.showFault? = .none := by
  induction h with
  | none | bool | int | float | text => simp [Value.showFault?]
  | list _ ih => simp [Value.showFault?, showFaultIn?_eq_none ih]
  | dict named _ ih => simp [Value.showFault?, showFaultInEntries?_eq_none named.texts ih]

theorem IsValue.failShowing (h : IsValue v) (failure : String → Failure) :
    v.failShowing failure = failure v.shown := by
  rw [Value.failShowing, h.showFault?, Option.getD_none]

/-- The value under a name is one of the values of the entries. -/
theorem isValue_getD {entries : Value.Entries} (h : ∀ entry ∈ entries, IsValue entry.2)
    (name : String) {absent : Value} (habsent : IsValue absent) :
    IsValue (entries.getD name absent) := by
  rw [Value.Entries.getD]
  cases hfound : entries.get? name with
  | none => exact habsent
  | some v =>
    obtain ⟨entry, hentry, rfl⟩ := Option.map_eq_some_iff.1 hfound
    exact h entry (List.mem_of_find?_eq_some hentry)

theorem areEntries_nil : AreEntries [] := ⟨Value.Entries.named_nil, fun _ h => nomatch h⟩

theorem AreEntries.isValue {entries : Value.Entries} (h : AreEntries entries) :
    IsValue (.dict entries) := .dict h.named h.values

theorem IsValue.entries {entries : Value.Entries} (h : IsValue (.dict entries)) :
    AreEntries entries := by
  cases h with
  | dict named values => exact ⟨named, values⟩

theorem AreEntries.insert {entries : Value.Entries} (h : AreEntries entries)
    (name : String) (hv : IsValue v) :
    AreEntries (Value.Entries.insert entries (.text name) v) :=
  ⟨h.named.insert name v, Value.Entries.forall_mem_insert h.values hv⟩

/-! ## Reading -/

variable {α β : Type} {P : α → Prop} {Q : β → Prop}

/-- Whether all that a reader can answer has a property. -/
def Answers (P : α → Prop) (x : Except ReadError (Taken α)) : Prop :=
  ∀ taken, x = .ok taken → P taken.1

theorem Answers.of_error {e : ReadError} : Answers P (.error e) := fun _ h => nomatch h

theorem Answers.of_ok {a : α} (h : P a) (position : Nat) (rest : List Char) :
    Answers P (.ok (a, position, rest)) := by
  rintro taken ⟨⟩
  exact h

theorem Answers.bind {x : Except ReadError (Taken α)} {f : Taken α → Except ReadError (Taken β)}
    (h : Answers P x) (hnext : ∀ a position rest, P a → Answers Q (f (a, position, rest))) :
    Answers Q (x >>= f) := by
  cases x with
  | error e => exact Answers.of_error
  | ok taken => exact hnext _ _ _ (h taken rfl)

theorem Answers.enter {nesting : Nat} {e : ReadError} {f : Nat → Except ReadError (Taken α)}
    (h : ∀ nesting, Answers P (f nesting)) : Answers P (Nesting.enter e nesting >>= f) := by
  cases nesting with
  | zero => exact Answers.of_error
  | succ nesting => exact h nesting

theorem words_values : ∀ word ∈ words, IsValue word.2 := by
  unfold words
  simp only [List.forall_mem_cons]
  exact ⟨.none, .bool true, .bool false, .float _, .float _, .float _, List.forall_mem_nil _⟩

theorem takeUnsigned_value {negative : Bool} {s : List Char}
    {found : Except ReadError Value × Nat × List Char} (h : takeUnsigned negative s = some found) :
    ∀ v, found.1 = .ok v → IsValue v := by
  obtain ⟨whole, -, rfl⟩ := Option.map_eq_some_iff.1 h
  intro v hv
  simp only at hv
  split at hv
  · simp only at hv
    split at hv
    · cases hv
    · cases hv
      exact .int _
  · cases hv
    exact .float _

theorem signed_value (position sign : Nat) (negative : Bool) (s : List Char) :
    Answers IsValue (signed position sign (takeUnsigned negative s)) := by
  cases h : takeUnsigned negative s with
  | none => exact Answers.of_error
  | some found =>
    obtain ⟨x, size, rest⟩ := found
    have hvalue := takeUnsigned_value h
    cases x with
    | error e => exact Answers.of_error
    | ok v => exact Answers.of_ok (hvalue v rfl) _ _

theorem takeNumber_value (position : Nat) (s : List Char) :
    Answers IsValue (takeNumber position s) := by
  by_cases h : ∃ rest, s = '-' :: rest
  · obtain ⟨rest, rfl⟩ := h
    exact signed_value position 1 true rest
  · rw [takeNumber_of_not fun rest hs => h ⟨rest, hs⟩]
    exact signed_value position 0 false s

theorem takePlain_value (position : Nat) (s : List Char) :
    Answers IsValue (takePlain position s) := by
  unfold takePlain takeWord?
  cases hfind : words.find? fun word => word.1.isPrefixOf s with
  | none => exact takeNumber_value position s
  | some word => exact Answers.of_ok (words_values word (List.mem_of_find?_eq_some hfind)) _ _

/-- The values of a list answered by a reader of items. -/
def AreItems (items : List Value) : Prop := ∀ v ∈ items, IsValue v

/-- All three readers answer values, however many levels are left. -/
structure ReadersAnswer (fuel : Nat) : Prop where
  value : ∀ nesting position s, Answers IsValue (takeValue nesting fuel position s)
  items : ∀ nesting position s, Answers AreItems (takeItems nesting fuel position s)
  entries : ∀ nesting position entries s, AreEntries entries →
    Answers AreEntries (takeEntries nesting fuel position entries s)

namespace ReadersAnswer

variable {fuel : Nat}

theorem takeItems_values (h : ReadersAnswer fuel) (nesting position : Nat) (s : List Char) :
    Answers AreItems (takeItems nesting (fuel + 1) position s) := by
  rw [takeItems]
  refine (h.value nesting position s).bind fun v position rest hv => ?_
  dsimp only
  split
  · exact Answers.of_ok (List.forall_mem_singleton.2 hv) _ _
  · exact (h.items _ _ _).bind fun items position rest hitems =>
      Answers.of_ok (List.forall_mem_cons.2 ⟨hv, hitems⟩) _ _
  · exact Answers.of_error

theorem takeEntries_values (h : ReadersAnswer fuel) (nesting position : Nat)
    (entries : Value.Entries) (s : List Char) (hentries : AreEntries entries) :
    Answers AreEntries (takeEntries nesting (fuel + 1) position entries s) := by
  rw [takeEntries.eq_def]
  dsimp only
  split
  · -- whatever the name is, it is a text
    refine Answers.bind (P := fun _ => True) (fun _ _ => trivial) fun name position rest _ => ?_
    dsimp only
    split
    · refine (h.value _ _ _).bind fun v position rest hv => ?_
      dsimp only
      split
      · exact Answers.of_ok (hentries.insert _ hv) _ _
      · exact h.entries _ _ _ _ (hentries.insert _ hv)
      · exact Answers.of_error
    · exact Answers.of_error
  · exact Answers.of_error

theorem takeValue_value (h : ReadersAnswer fuel) (nesting position : Nat) (s : List Char) :
    Answers IsValue (takeValue nesting (fuel + 1) position s) := by
  by_cases hplain : ∀ c rest, s = c :: rest → c ≠ '"' ∧ c ≠ '\x7b' ∧ c ≠ '['
  · rw [takeValue_plain hplain]
    exact takePlain_value position s
  · rw [takeValue.eq_def]
    dsimp only
    split
    · exact Answers.bind (P := fun _ => True) (fun _ _ => trivial) fun text position rest _ =>
        Answers.of_ok (.text _) _ _
    · refine Answers.enter fun nesting => ?_
      split
      · exact Answers.of_ok areEntries_nil.isValue _ _
      · exact (h.entries _ _ _ _ areEntries_nil).bind fun entries position rest h =>
          Answers.of_ok h.isValue _ _
    · refine Answers.enter fun nesting => ?_
      split
      · exact Answers.of_ok (.list (List.forall_mem_nil _)) _ _
      · exact (h.items _ _ _).bind fun items position rest h => Answers.of_ok (.list h) _ _
    · exact takePlain_value position s

end ReadersAnswer

theorem readersAnswer (fuel : Nat) : ReadersAnswer fuel := by
  induction fuel with
  | zero =>
    refine ⟨fun _ _ _ => ?_, fun _ _ _ => ?_, fun _ _ _ _ _ => ?_⟩
    · rw [takeValue]; exact Answers.of_error
    · rw [takeItems]; exact Answers.of_error
    · rw [takeEntries]; exact Answers.of_error
  | succ fuel ih => exact ⟨ih.takeValue_value, ih.takeItems_values, ih.takeEntries_values⟩

/-- A JSON text holds a value of one of the seven forms. -/
theorem isValue_of_read {s : List Char} {nesting : Nat} {v : Value}
    (h : read s nesting = .ok v) : IsValue v := by
  unfold read at h
  split at h
  · cases h
  · obtain ⟨⟨w, last, rest⟩, hvalue, h⟩ := except_bind_ok h
    have hw := (readersAnswer _).value _ _ _ _ hvalue
    dsimp only at h
    split at h
    · cases h
      exact hw
    · cases h

end Json

/-! ## Replacing references -/

namespace Reference

open Json

variable {environment : List (String × String)}

theorem expandItems_eq_map (items : List Value) :
    expandItems environment items = items.map (expandValue environment) := by
  induction items with
  | nil => rw [expandItems, List.map_nil]
  | cons v rest ih => rw [expandItems, ih, List.map_cons]

theorem expandEntries_eq_map (entries : Value.Entries) :
    expandEntries environment entries =
      entries.map fun entry => (entry.1, expandValue environment entry.2) := by
  induction entries with
  | nil => rw [expandEntries, List.map_nil]
  | cons entry rest ih => rw [expandEntries, ih, List.map_cons]

/-- The texts of a value of a JSON text are plain. -/
theorem plainTexts_of_isValue {v : Value} (hv : IsValue v) : plainTexts v = v := by
  induction hv with
  | none | bool | int | float | text => simp [plainTexts]
  | list _ ih => rw [plainTexts, plainItems_eq_map, List.map_congr_left ih, List.map_id']
  | dict _ _ ih =>
    have hentries : ∀ entry ∈ _, (entry.1, plainTexts entry.2) = id entry :=
      fun entry hentry => Prod.ext rfl (ih entry hentry)
    rw [plainTexts, plainEntries_eq_map, List.map_congr_left hentries, List.map_id]

/-- A value of a JSON text without references stays as it is. -/
theorem expandValue_of_plain {v : Value} (hv : IsValue v) (h : Plain (texts v)) :
    expandValue environment v = v :=
  (expandValue_eq_plainTexts v h).trans (plainTexts_of_isValue hv)

theorem isValue_expandValue {v : Value} (hv : IsValue v) : IsValue (expandValue environment v) := by
  induction hv with
  | none => simpa [expandValue] using IsValue.none
  | bool b => simpa [expandValue] using IsValue.bool b
  | int n => simpa [expandValue] using IsValue.int n
  | float x => simpa [expandValue] using IsValue.float x
  | text s => rw [expandValue]; exact .text _
  | list _ ih =>
    rw [expandValue, expandItems_eq_map]
    exact .list (List.forall_mem_map.2 ih)
  | dict named _ ih =>
    rw [expandValue, expandEntries_eq_map]
    refine .dict ⟨List.forall_mem_map.2 named.texts, ?_⟩ (List.forall_mem_map.2 ih)
    have hkeys : Prod.fst ∘ (fun entry : Value × Value =>
        (entry.1, expandValue environment entry.2)) = Prod.fst := rfl
    rw [List.map_map, hkeys]
    exact named.nodup

end Reference
end BoundUpdate
