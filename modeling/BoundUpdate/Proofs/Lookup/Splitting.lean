import BoundUpdate.Lookup.Attribute
import BoundUpdate.Proofs.Json.Values

namespace BoundUpdate

/-!
# Values that cannot be split

Only texts have an attribute `split` among the values of JSON texts: the classes
of the other ones list their members, and neither they nor the classes they
descend from have a member of this name.
-/

namespace Annotation

/-! ## Members of classes -/

namespace Catalogue

/-- A word of a text stands between two of its blanks. -/
theorem contains_wordsOf_eq_false {s word : String}
    (h : word.toList ∉ Text.splitOn ' ' s.toList) : (wordsOf s).contains word = false := by
  rw [List.contains_eq_mem, decide_eq_false_iff_not, wordsOf]
  intro hmem
  obtain ⟨w, hw, rfl⟩ := List.mem_map.1 hmem
  rw [String.toList_ofList] at h
  exact h (List.mem_filter.1 hw).1

end Catalogue

namespace Meaning

theorem contains_ownMembers {kind : String} {row : Catalogue.Row} (hkind : kind ≠ "object")
    (hrow : Catalogue.find? kind = some row) (word : String) :
    (Meaning.type kind).ownMembers.contains word =
      (Catalogue.wordsOf row.members).contains word := by
  rw [ownMembers, if_neg hkind, hrow]
  rfl

/-- The classes of the values of JSON texts other than texts, and those they descend from. -/
def unsplitClasses : List String := ["NoneType", "bool", "int", "float", "list", "dict", "object"]

/-- None of these classes has a member that splits.  Their rows are taken apart by rewriting, since
evaluating the characters of a long text is slow. -/
theorem not_contains_split : ∀ kind ∈ unsplitClasses,
    (Meaning.type kind).ownMembers.contains "split" = false := by
  simp only [unsplitClasses, List.forall_mem_cons]
  refine ⟨?_, ?_, ?_, ?_, ?_, ?_, by decide +kernel, List.forall_mem_nil _⟩
  all_goals
    rw [contains_ownMembers (by decide) rfl]
    apply Catalogue.contains_wordsOf_eq_false
    repeat rw [String.toList_append]
    repeat rw [String.toList_ofList]
    decide +kernel

theorem not_hasMember_split : ∀ kind ∈ unsplitClasses,
    (Meaning.type kind).hasMember "split" = false := by
  have hancestors : ∀ kind ∈ unsplitClasses,
      ∃ kinds : List String, (Meaning.type kind).ancestors = kinds.map Meaning.type ∧
        ∀ k ∈ kinds, k ∈ unsplitClasses := by
    simp only [unsplitClasses, List.forall_mem_cons]
    exact ⟨⟨["NoneType", "object"], rfl, by decide⟩, ⟨["bool", "int", "object"], rfl, by decide⟩,
      ⟨["int", "object"], rfl, by decide⟩, ⟨["float", "object"], rfl, by decide⟩,
      ⟨["list", "object"], rfl, by decide⟩, ⟨["dict", "object"], rfl, by decide⟩,
      ⟨["object"], rfl, by decide⟩, List.forall_mem_nil _⟩
  intro kind hkind
  obtain ⟨kinds, hkinds, hall⟩ := hancestors kind hkind
  have hnone : (Meaning.type kind).ownerOf? "split" = none := by
    rw [ownerOf?, hkinds, List.find?_eq_none]
    intro m hm
    obtain ⟨k, hk, rfl⟩ := List.mem_map.1 hm
    rw [not_contains_split k (hall k hk)]
    exact Bool.false_ne_true
  rw [hasMember, hnone]
  rfl

theorem madeMember?_split : ∀ kind ∈ unsplitClasses,
    (Meaning.type kind).madeMember? "split" = none := by
  have hall : ∀ kind ∈ unsplitClasses,
      ((Meaning.type kind).madeMember? "split").isNone = true := by
    decide +kernel
  exact fun kind hkind => Option.isNone_iff_eq_none.1 (hall kind hkind)

/-- Whether a meaning is that of a value of a JSON text other than a text. -/
inductive IsUnsplit : Meaning → Prop where
  | nothing : IsUnsplit .nothing
  | truth (b : Bool) : IsUnsplit (.truth b)
  | integer (n : Int) : IsUnsplit (.integer n)
  | real (x : Number.Binary64) : IsUnsplit (.real x)
  | list (items : List Meaning) : IsUnsplit (.list items)
  | dict (entries : List (Meaning × Meaning)) : IsUnsplit (.dict "dict" entries)

theorem IsUnsplit.exists_class {m : Meaning} (h : IsUnsplit m) :
    ∃ kind ∈ unsplitClasses, m.classOf = .type kind := by
  cases h with
  | nothing => exact ⟨"NoneType", by decide, rfl⟩
  | truth => exact ⟨"bool", by decide, rfl⟩
  | integer => exact ⟨"int", by decide, rfl⟩
  | real => exact ⟨"float", by decide, rfl⟩
  | list => exact ⟨"list", by decide, rfl⟩
  | dict => exact ⟨"dict", by decide, rfl⟩

/-- The class of a value gives it no member that splits. -/
theorem IsUnsplit.memberByClass?_split {m : Meaning} (h : IsUnsplit m) :
    memberByClass? m "split" = none := by
  obtain ⟨kind, hkind, hclass⟩ := h.exists_class
  have hplace : placeNamed? m "split" = none := by cases h <;> rfl
  simp [memberByClass?, hclass, hplace, madeMember?_split kind hkind,
    not_hasMember_split kind hkind]

/-- Such a meaning has the members that it holds and those that its class gives it. -/
theorem IsUnsplit.memberOf_eq {m : Meaning} (h : IsUnsplit m) (name : String) :
    memberOf m name =
      match typeDatum? m name <|> datum? m name <|> memberByClass? m name with
      | some value => .ok value
      | none => Evaluated.lacking m name := by
  cases h <;> rfl

theorem IsUnsplit.memberOf_split {m : Meaning} (h : IsUnsplit m) :
    memberOf m "split" = Evaluated.lacking m "split" := by
  have htype : typeDatum? m "split" = none := by cases h <;> simp [typeDatum?]
  have hdatum : datum? m "split" = none := by cases h <;> simp [datum?]
  rw [h.memberOf_eq, htype, hdatum, h.memberByClass?_split]
  rfl

end Meaning
end Annotation

namespace Lookup

open Annotation Meaning

variable {v : Value}

theorem isUnsplit_toMeaning (hv : Json.IsValue v) (htext : v.text? = none) :
    IsUnsplit v.toMeaning := by
  cases hv with
  | text s => cases htext
  | none => simpa [Value.toMeaning] using IsUnsplit.nothing
  | bool b => simpa [Value.toMeaning] using IsUnsplit.truth b
  | int n => simpa [Value.toMeaning] using IsUnsplit.integer n
  | float x => simpa [Value.toMeaning] using IsUnsplit.real x
  | list => simpa [Value.toMeaning] using IsUnsplit.list _
  | dict => simpa [Value.toMeaning] using IsUnsplit.dict _

theorem languageAttribute?_split (hv : Json.IsValue v) (htext : v.text? = none) :
    languageAttribute? v "split" = none := by
  rw [languageAttribute?, (isUnsplit_toMeaning hv htext).memberOf_split, Evaluated.lacking]

/-- Asking such a value to be split fails. -/
theorem ask_split (hv : Json.IsValue v) (htext : v.text? = none) (operands : List Value) :
    firstOutcome (ask v "split" operands) = .error (missingAttribute v "split") := by
  have hlanguage := languageAttribute?_split hv htext
  have hown : ownAttribute? v "split" = none := by
    cases hv <;> simp [ownAttribute?, integerAttribute?]
  have hnative : nativeAttribute? v "split" = none := by
    unfold nativeAttribute?
    split
    · nomatch hv
    · rw [if_neg (by decide), hown, hlanguage]
      rfl
  have hread : readAttribute v "split" = throw (missingAttribute v "split") := by
    unfold readAttribute
    split
    · nomatch hv
    · nomatch hv
    · rw [hnative]
  rw [ask, hread]
  rfl

end Lookup
end BoundUpdate
