import BoundUpdate.Proofs.Text.Cutting
import BoundUpdate.Settings.Reference

namespace BoundUpdate
namespace Reference

/-!
# What replacing references does

A text is cut from the left into references and characters that start none.
Since no reference starts inside another one, every reference of a text is
replaced, whatever stands around it, and a text without references stays as it
is.  What replaces a reference is not looked at, so a replaced text may hold
references again.
-/

variable {environment other : List (String × String)} {s rest : List Char}

/-! ## References in a text -/

/-- Whether a text is the name of a variable. -/
def IsName : List Char → Prop
  | [] => False
  | c :: rest => startsName c = true ∧ ∀ d ∈ rest, continuesName d = true

/-- The text that refers to a variable. -/
def reference (name : List Char) : List Char := '$' :: '\x7b' :: (name ++ ['\x7d'])

/-- Whether a text starts with a reference. -/
def StartsReference (s : List Char) : Prop :=
  ∃ name rest, IsName name ∧ s = reference name ++ rest

/-- Whether a text refers to a variable. -/
def Refers (s name : List Char) : Prop := IsName name ∧ reference name <:+: s

theorem reference_append (name rest : List Char) :
    reference name ++ rest = '$' :: '\x7b' :: (name ++ '\x7d' :: rest) := by
  simp [reference]

theorem IsName.continues {name : List Char} (h : IsName name) :
    ∀ c ∈ name, continuesName c = true := by
  match name, h with
  | c :: rest, ⟨hc, hrest⟩ =>
    intro d hd
    cases List.mem_cons.1 hd with
    | inl h => simp [continuesName, h, hc]
    | inr h => exact hrest d h

theorem not_continuesName_dollar : continuesName '$' = false := by decide

theorem not_continuesName_close : continuesName '\x7d' = false := by decide

/-- The reader of names finds a name in braces and nothing else. -/
theorem name?_eq_some_iff {name : List Char} :
    name? s = some (name, rest) ↔ IsName name ∧ s = name ++ '\x7d' :: rest := by
  constructor
  · intro h
    unfold name? at h
    split at h
    · next c found more htake hdrop =>
      split at h
      · next hc =>
        cases h
        refine ⟨⟨hc, fun d hd => ?_⟩, ?_⟩
        · exact List.mem_takeWhile_imp (htake ▸ List.mem_cons_of_mem c hd)
        · rw [← htake, ← hdrop, List.takeWhile_append_dropWhile]
      · cases h
    · cases h
  · rintro ⟨hname, rfl⟩
    have hstop : ∀ c ∈ ('\x7d' :: rest).head?, continuesName c = false := by
      simp [not_continuesName_close]
    unfold name?
    rw [Text.takeWhile_run hname.continues hstop, Text.dropWhile_run hname.continues hstop]
    match name, hname with
    | c :: name, ⟨hc, _⟩ => simp [hc]

/-! ## One step of replacing -/

@[simp]
theorem expand_nil : expand environment [] = [] := by rw [expand]

/-- A reference at the front is replaced by the value of its variable. -/
theorem expand_reference {name : List Char} (h : IsName name) (rest : List Char) :
    expand environment (reference name ++ rest) =
      valueOf environment name ++ expand environment rest := by
  have hread : name? (name ++ '\x7d' :: rest) = some (name, rest) := name?_eq_some_iff.2 ⟨h, rfl⟩
  rw [reference_append, expand]
  split
  · next found more hfound =>
    rw [hread] at hfound
    cases hfound
    rfl
  · next hnone => rw [hread] at hnone; cases hnone

/-- A character that starts no reference stays. -/
theorem expand_cons {c : Char} (h : ¬ StartsReference (c :: rest)) :
    expand environment (c :: rest) = c :: expand environment rest := by
  rw [expand.eq_def]
  split
  · next heq => cases heq
  · next more heq =>
    obtain ⟨rfl, rfl⟩ := List.cons.inj heq
    split
    · next name after hfound =>
      obtain ⟨hname, rfl⟩ := name?_eq_some_iff.1 hfound
      exact absurd ⟨name, after, hname, by rw [reference_append]⟩ h
    · rfl
  · next heq =>
    obtain ⟨rfl, rfl⟩ := List.cons.inj heq
    rfl

/-- Induction along the references of a text. -/
theorem reference_induction {P : List Char → Prop} (nil : P [])
    (reference : ∀ name rest, IsName name → P rest → P (reference name ++ rest))
    (char : ∀ c rest, ¬ StartsReference (c :: rest) → P rest → P (c :: rest)) :
    ∀ s, P s := by
  intro s
  induction hn : s.length using Nat.strongRecOn generalizing s with
  | ind n ih =>
    subst hn
    by_cases hs : StartsReference s
    · obtain ⟨name, rest, hname, rfl⟩ := hs
      exact reference name rest hname (ih _ (by simp [Reference.reference]; omega) rest rfl)
    · cases s with
      | nil => exact nil
      | cons c rest => exact char c rest hs (ih _ (by simp) rest rfl)

/-! ## All references of a text -/

/-- What starts with a reference in front of another one starts with a reference alone. -/
theorem startsReference_of_append {name : List Char} {c : Char}
    (h : StartsReference (c :: (s ++ (reference name ++ rest)))) : StartsReference (c :: s) := by
  obtain ⟨first, more, hfirst, heq⟩ := h
  rw [reference_append first] at heq
  obtain ⟨rfl, htail⟩ := List.cons.inj heq
  cases s with
  | nil => rw [List.nil_append, reference_append] at htail; cases htail
  | cons d s =>
    obtain ⟨rfl, hmore⟩ := List.cons.inj htail
    obtain ⟨a, hname, hrest⟩ | ⟨a, hs, hrest⟩ := List.append_eq_append_iff.1 hmore
    · -- the name would go on into the second reference, which starts with a dollar sign
      cases a with
      | nil => rw [List.nil_append, reference_append] at hrest; cases hrest
      | cons d a =>
        rw [reference_append] at hrest
        obtain ⟨rfl, -⟩ := List.cons.inj hrest
        have hd := hfirst.continues '$' (by simp [hname])
        rw [not_continuesName_dollar] at hd
        cases hd
    · cases a with
      | nil => rw [List.nil_append, reference_append] at hrest; cases hrest
      | cons d a =>
        obtain ⟨rfl, -⟩ := List.cons.inj hrest
        exact ⟨first, a, hfirst, by rw [reference_append, hs]⟩

/-- Every reference of a text is replaced by the value of its variable, and what stands before and
after it as if it stood alone. -/
theorem expand_append_reference {name : List Char} (h : IsName name) (front rest : List Char) :
    expand environment (front ++ (reference name ++ rest)) =
      expand environment front ++ (valueOf environment name ++ expand environment rest) := by
  induction front using reference_induction with
  | nil => rw [List.nil_append, expand_nil, List.nil_append, expand_reference h]
  | reference first front hfirst ih =>
    rw [List.append_assoc, expand_reference hfirst, expand_reference hfirst, ih,
      List.append_assoc]
  | char c front hc ih =>
    rw [expand_cons hc, List.cons_append, expand_cons (mt startsReference_of_append hc), ih,
      List.cons_append]

/-- A text without references stays as it is. -/
theorem expand_of_no_reference (h : ∀ name, ¬ Refers s name) : expand environment s = s := by
  induction s using reference_induction with
  | nil => exact expand_nil
  | reference name rest hname _ =>
    exact absurd ⟨hname, (List.prefix_append _ _).isInfix⟩ (h name)
  | char c rest hc ih =>
    rw [expand_cons hc,
      ih fun name hname => h name ⟨hname.1, hname.2.trans (List.suffix_cons c rest).isInfix⟩]

/-- Replacing depends on the values of the variables that the text refers to only. -/
theorem expand_congr
    (h : ∀ name, Refers s name → valueOf environment name = valueOf other name) :
    expand environment s = expand other s := by
  induction s using reference_induction with
  | nil => rw [expand_nil, expand_nil]
  | reference name rest hname ih =>
    rw [expand_reference hname, expand_reference hname,
      h name ⟨hname, (List.prefix_append _ _).isInfix⟩,
      ih fun n hn => h n ⟨hn.1, hn.2.trans (List.suffix_append _ _).isInfix⟩]
  | char c rest hc ih =>
    rw [expand_cons hc, expand_cons hc,
      ih fun n hn => h n ⟨hn.1, hn.2.trans (List.suffix_cons c rest).isInfix⟩]

/-! ## The texts of a value -/

mutual

/-- The texts of a value in which references are replaced. -/
def texts : Value → List (List Char)
  | .dict entries => entryTexts entries
  | .list items => itemTexts items
  | .text s => [s.toList]
  | .enumMember m =>
    match (Value.enumMember m).text? with
    | some s => [s.toList]
    | none => []
  | _ => []

/-- The texts of the items of a list. -/
def itemTexts : List Value → List (List Char)
  | [] => []
  | v :: rest => texts v ++ itemTexts rest

/-- The texts of the values of entries. -/
def entryTexts : List (Value × Value) → List (List Char)
  | [] => []
  | (_, v) :: rest => texts v ++ entryTexts rest

end

theorem expandText_eq_iff {a b : List (String × String)} {s t : String} :
    expandText a s = expandText b t ↔ expand a s.toList = expand b t.toList := by
  rw [expandText, expandText, String.ofList_inj]

mutual

/-- Two surroundings give a value the same form if and only if they give each of its texts the
same form. -/
theorem expandValue_eq_iff {a b : List (String × String)} :
    ∀ v : Value, expandValue a v = expandValue b v ↔ ∀ t ∈ texts v, expand a t = expand b t
  | .dict entries => by simp only [expandValue, texts, Value.dict.injEq, expandEntries_eq_iff]
  | .list items => by simp only [expandValue, texts, Value.list.injEq, expandItems_eq_iff]
  | .text s => by simp [expandValue, texts, expandText_eq_iff]
  | .enumMember m => by
    cases hm : (Value.enumMember m).text? <;> simp [expandValue, texts, hm, expandText_eq_iff]
  | .none | .bool _ | .int _ | .float _ | .bytes _ | .tuple _ | .record .. | .mapping _ | .set _
  | .selfDict | .day _ | .moment _ | .span _ | .zone _ | .decimal _ | .function _
  | .boundMethod .. | .lengthFunction | .object .. | .type _ | .meaning _ | .other _ => by
    simp [expandValue, texts]

theorem expandItems_eq_iff {a b : List (String × String)} :
    ∀ items : List Value, expandItems a items = expandItems b items ↔
      ∀ t ∈ itemTexts items, expand a t = expand b t
  | [] => by simp [expandItems, itemTexts]
  | v :: rest => by
    simp [expandItems, itemTexts, expandValue_eq_iff v, expandItems_eq_iff rest, or_imp,
      forall_and]

theorem expandEntries_eq_iff {a b : List (String × String)} :
    ∀ entries : List (Value × Value), expandEntries a entries = expandEntries b entries ↔
      ∀ t ∈ entryTexts entries, expand a t = expand b t
  | [] => by simp [expandEntries, entryTexts]
  | (k, v) :: rest => by
    simp [expandEntries, entryTexts, expandValue_eq_iff v, expandEntries_eq_iff rest, or_imp,
      forall_and]

end

/-! ## Replacing twice -/

/-- Whether a second replacing changes none of some texts. -/
def Settled (environment : List (String × String)) (ts : List (List Char)) : Prop :=
  ∀ t ∈ ts, expand environment (expand environment t) = expand environment t

@[simp]
theorem settled_nil : Settled environment [] := fun _ ht => nomatch ht

@[simp]
theorem settled_append {ts us : List (List Char)} :
    Settled environment (ts ++ us) ↔ Settled environment ts ∧ Settled environment us :=
  List.forall_mem_append

@[simp]
theorem settled_singleton {t : List Char} :
    Settled environment [t] ↔ expand environment (expand environment t) = expand environment t :=
  List.forall_mem_singleton

mutual

/-- Replacing the references of a value twice is replacing them once if and only if it is so for
each of its texts. -/
theorem expandValue_twice_iff :
    ∀ v : Value, expandValue environment (expandValue environment v) = expandValue environment v ↔
      Settled environment (texts v)
  | .dict entries => by simp only [expandValue, texts, Value.dict.injEq, expandEntries_twice_iff]
  | .list items => by simp only [expandValue, texts, Value.list.injEq, expandItems_twice_iff]
  | .text s => by simp [expandValue, texts, expandText, String.ofList_inj]
  | .enumMember m => by
    cases hm : (Value.enumMember m).text? <;>
      simp [expandValue, texts, hm, expandText, String.ofList_inj]
  | .none | .bool _ | .int _ | .float _ | .bytes _ | .tuple _ | .record .. | .mapping _ | .set _
  | .selfDict | .day _ | .moment _ | .span _ | .zone _ | .decimal _ | .function _
  | .boundMethod .. | .lengthFunction | .object .. | .type _ | .meaning _ | .other _ => by
    simp [expandValue, texts]

theorem expandItems_twice_iff :
    ∀ items : List Value,
      expandItems environment (expandItems environment items) = expandItems environment items ↔
        Settled environment (itemTexts items)
  | [] => by simp [expandItems, itemTexts]
  | v :: rest => by
    simp [expandItems, itemTexts, expandValue_twice_iff v, expandItems_twice_iff rest]

theorem expandEntries_twice_iff :
    ∀ entries : List (Value × Value),
      expandEntries environment (expandEntries environment entries) =
          expandEntries environment entries ↔
        Settled environment (entryTexts entries)
  | [] => by simp [expandEntries, entryTexts]
  | (k, v) :: rest => by
    simp [expandEntries, entryTexts, expandValue_twice_iff v, expandEntries_twice_iff rest]

end

/-! ## Replacing on bounded levels -/

mutual

/-- A value lies as deep in itself after replacing as before. -/
theorem nestsWithin_expandValue :
    ∀ (v : Value) (n : Nat), (expandValue environment v).nestsWithin n = v.nestsWithin n
  | .dict entries, 0 => by simp only [expandValue, Value.nestsWithin]
  | .dict entries, n + 1 => by
    simp only [expandValue, Value.nestsWithin, entriesNestWithin_expandEntries entries n]
  | .list items, 0 => by simp only [expandValue, Value.nestsWithin]
  | .list items, n + 1 => by
    simp only [expandValue, Value.nestsWithin, itemsNestWithin_expandItems items n]
  | .enumMember m, n => by
    cases hm : (Value.enumMember m).text? <;> simp [expandValue, hm, Value.nestsWithin]
  | .text s, n => by simp only [expandValue, Value.nestsWithin]
  | .none, _ | .bool _, _ | .int _, _ | .float _, _ | .bytes _, _ | .tuple _, _ | .record .., _
  | .mapping _, _ | .set _, _ | .selfDict, _ | .day _, _ | .moment _, _ | .span _, _ | .zone _, _
  | .decimal _, _ | .function _, _ | .boundMethod .., _ | .lengthFunction, _ | .object .., _
  | .type _, _ | .meaning _, _ | .other _, _ => by simp only [expandValue]

theorem itemsNestWithin_expandItems :
    ∀ (items : List Value) (n : Nat),
      Value.itemsNestWithin (expandItems environment items) n = Value.itemsNestWithin items n
  | [], _ => by simp only [expandItems]
  | v :: rest, n => by
    simp only [expandItems, Value.itemsNestWithin, nestsWithin_expandValue v n,
      itemsNestWithin_expandItems rest n]

theorem entriesNestWithin_expandEntries :
    ∀ (entries : List (Value × Value)) (n : Nat),
      Value.entriesNestWithin (expandEntries environment entries) n =
        Value.entriesNestWithin entries n
  | [], _ => by simp only [expandEntries]
  | (k, v) :: rest, n => by
    simp only [expandEntries, Value.entriesNestWithin, nestsWithin_expandValue v n,
      entriesNestWithin_expandEntries rest n]

end

variable {nesting : Nat}

theorem expandedEntries_of_nestsWithin {entries : Value.Entries}
    (h : (Value.dict entries).nestsWithin (levels nesting) = true) :
    expandedEntries nesting environment entries = .ok (expandEntries environment entries) := by
  rw [expandedEntries, if_pos h]

theorem nestsWithin_of_expandedEntries {entries d : Value.Entries}
    (h : expandedEntries nesting environment entries = .ok d) :
    (Value.dict entries).nestsWithin (levels nesting) = true := by
  by_contra hdeep
  rw [expandedEntries, if_neg hdeep] at h
  cases h

/-- Entries can be searched as deep after replacing as before. -/
theorem nestsWithin_dict_expandEntries (entries : Value.Entries) (n : Nat) :
    (Value.dict (expandEntries environment entries)).nestsWithin n =
      (Value.dict entries).nestsWithin n := by
  have hvalue :
      expandValue environment (.dict entries) = .dict (expandEntries environment entries) := by
    rw [expandValue]
  rw [← hvalue, nestsWithin_expandValue]

/-- Settled entries are replaced a second time as they are the first time. -/
theorem expandedEntries_expandEntries {entries : Value.Entries}
    (h : Settled environment (entryTexts entries)) :
    expandedEntries nesting environment (expandEntries environment entries) =
      expandedEntries nesting environment entries := by
  rw [expandedEntries, expandedEntries, nestsWithin_dict_expandEntries,
    (expandEntries_twice_iff entries).2 h]

/-! ## Values without references -/

/-- Whether none of some texts refers to a variable. -/
def Plain (ts : List (List Char)) : Prop := ∀ t ∈ ts, ∀ name, ¬ Refers t name

/-- A text without an opening mark refers to nothing. -/
theorem not_refers_of_no_opening {t : List Char} (h : ¬ ['$', '\x7b'] <:+: t) (name : List Char) :
    ¬ Refers t name := by
  intro hrefers
  have hopening : ['$', '\x7b'] <+: reference name := ⟨name ++ ['\x7d'], rfl⟩
  exact h (hopening.isInfix.trans hrefers.2)

theorem expandText_of_plain {s : String} (h : ∀ name, ¬ Refers s.toList name) :
    expandText environment s = s := by
  rw [expandText, expand_of_no_reference h, String.ofList_toList]

mutual

/-- A value whose members of enumerations are texts where they are textual. -/
def plainTexts : Value → Value
  | .dict entries => .dict (plainEntries entries)
  | .list items => .list (plainItems items)
  | .enumMember m =>
    match (Value.enumMember m).text? with
    | some s => .text s
    | none => .enumMember m
  | v => v

/-- The items of a list with plain texts. -/
def plainItems : List Value → List Value
  | [] => []
  | v :: rest => plainTexts v :: plainItems rest

/-- Entries whose values have plain texts. -/
def plainEntries : List (Value × Value) → List (Value × Value)
  | [] => []
  | (k, v) :: rest => (k, plainTexts v) :: plainEntries rest

end

theorem plain_append {ts us : List (List Char)} : Plain (ts ++ us) ↔ Plain ts ∧ Plain us :=
  List.forall_mem_append

mutual

/-- A value without references stays as it is, but for members of enumerations. -/
theorem expandValue_eq_plainTexts :
    ∀ v : Value, Plain (texts v) → expandValue environment v = plainTexts v
  | .dict entries, h => by
    rw [texts] at h
    rw [expandValue, plainTexts, expandEntries_eq_plainEntries entries h]
  | .list items, h => by
    rw [texts] at h
    rw [expandValue, plainTexts, expandItems_eq_plainItems items h]
  | .text s, h => by
    rw [texts] at h
    rw [expandValue, plainTexts, expandText_of_plain (h _ List.mem_cons_self)]
    all_goals simp
  | .enumMember m, h => by
    rw [texts] at h
    rw [expandValue, plainTexts]
    cases hm : (Value.enumMember m).text? with
    | none => rfl
    | some s =>
      rw [hm] at h
      exact congrArg Value.text (expandText_of_plain (h _ List.mem_cons_self))
  | .none, _ | .bool _, _ | .int _, _ | .float _, _ | .bytes _, _ | .tuple _, _ | .record .., _
  | .mapping _, _ | .set _, _ | .selfDict, _ | .day _, _ | .moment _, _ | .span _, _ | .zone _, _
  | .decimal _, _ | .function _, _ | .boundMethod .., _ | .lengthFunction, _ | .object .., _
  | .type _, _ | .meaning _, _ | .other _, _ => by simp [expandValue, plainTexts]

theorem expandItems_eq_plainItems :
    ∀ items : List Value, Plain (itemTexts items) →
      expandItems environment items = plainItems items
  | [], _ => by rw [expandItems, plainItems]
  | v :: rest, h => by
    rw [itemTexts, plain_append] at h
    rw [expandItems, plainItems, expandValue_eq_plainTexts v h.1,
      expandItems_eq_plainItems rest h.2]

theorem expandEntries_eq_plainEntries :
    ∀ entries : List (Value × Value), Plain (entryTexts entries) →
      expandEntries environment entries = plainEntries entries
  | [], _ => by rw [expandEntries, plainEntries]
  | (k, v) :: rest, h => by
    rw [entryTexts, plain_append] at h
    rw [expandEntries, plainEntries, expandValue_eq_plainTexts v h.1,
      expandEntries_eq_plainEntries rest h.2]

end

theorem plainItems_eq_map (items : List Value) : plainItems items = items.map plainTexts := by
  induction items with
  | nil => rw [plainItems, List.map_nil]
  | cons v rest ih => rw [plainItems, ih, List.map_cons]

theorem plainEntries_eq_map (entries : Value.Entries) :
    plainEntries entries = entries.map fun entry => (entry.1, plainTexts entry.2) := by
  induction entries with
  | nil => rw [plainEntries, List.map_nil]
  | cons entry rest ih => rw [plainEntries, ih, List.map_cons]

end Reference
end BoundUpdate
