import BoundUpdate.Proofs.Declaration.Signature

namespace BoundUpdate

/-!
# Written calls

A call of a method can be written in many ways: a value may stand at its place or
under the name of its parameter, values by name may stand in any order, and a
value that is the default may be left out.  All of them pass the same values.
-/

/-- The value that a parameter takes when none stands at its place. -/
inductive Parameter.Takes (named : Named) (p : Parameter) (v : Value) : Prop
  | byName (kind : p.kind ≠ .positionalOnly) (given : (p.name, v) ∈ named)
  | byDefault (omitted : p.name ∉ Named.keys named) (default : p.default? = some v)

/-- The parameters of a method that takes itself first. -/
structure MethodSignature where
  receiver : Parameter
  /-- The other parameters that take a value by position. -/
  front : Signature := []
  /-- The parameter that takes all values by position beyond those. -/
  surplus : Option Parameter := none
  /-- The parameters that take a value by name only. -/
  named : Signature := []
  /-- The parameter that takes all values by name beyond those of the others. -/
  rest : Option Parameter := none
  receiver_positional : receiver.IsPositional
  front_positional : ∀ p ∈ front, p.IsPositional
  surplus_kind : ∀ p ∈ surplus, p.kind = .variadic
  named_kind : ∀ p ∈ named, p.kind = .namedOnly
  rest_kind : ∀ p ∈ rest, p.kind = .variadicNamed
  nodup : (Signature.names
    (receiver :: (front ++ (surplus.toList ++ (named ++ rest.toList))))).Nodup

/-- The values that stand at their places and under names; no name is given twice. -/
structure WrittenCall where
  values : List Value := []
  named : Named := []
  nodup : (Named.keys named).Nodup

namespace MethodSignature

/-- All parameters in order. -/
def signature (o : MethodSignature) : Signature :=
  o.receiver :: (o.front ++ (o.surplus.toList ++ (o.named ++ o.rest.toList)))

/-- The parameters that take one value and have none yet after some values by position. -/
def opened (o : MethodSignature) (count : Nat) : Signature := o.front.drop count ++ o.named

/-- After some values by position a name can be given: a parameter that has no value yet bears it,
or it is left to the parameter that takes all other names. -/
def Admits (o : MethodSignature) (count : Nat) (name : String) : Prop :=
  name ∈ Signature.names (o.opened count) ∨
    o.rest.isSome ∧ name ≠ o.receiver.name ∧
      ∀ p ∈ o.front.take count, p.kind = .positional → p.name ≠ name

/-- What a call passes, in the order of the parameters. -/
inductive Passes (o : MethodSignature) (w : WrittenCall) : List Value → Prop
  | intro {others last : List Value}
      (surplus : o.front.length < w.values.length → o.surplus.isSome)
      (admits : ∀ name ∈ Named.keys w.named, o.Admits w.values.length name)
      (others_taken :
        List.Forall₂ (Parameter.Takes w.named) (o.front.drop w.values.length) others)
      (last_taken : List.Forall₂ (Parameter.Takes w.named) o.named last) :
      Passes o w (w.values.take o.front.length ++ others ++ w.values.drop o.front.length ++ last)

section Bound

open Signature

variable (o : MethodSignature) (r : Value) (values : List Value) (named : Named)

/-- The parameters after those that take values by position. -/
def back : Signature := o.surplus.toList ++ (o.named ++ o.rest.toList)

/-- The parameters that get the receiver and the values by position, one each. -/
def filled (count : Nat) : Signature := o.receiver :: o.front.take count

/-- What the parameter that takes any number of values by position gets. -/
def surplusOf : Named :=
  match values.drop o.front.length with
  | [] => []
  | extra => o.surplus.toList.map fun p => (p.name, .tuple extra)

/-- What a call binds. -/
def bound : Named :=
  (names (o.filled values.length)).zip (r :: values.take o.front.length) ++
    (o.surplusOf values ++ givenTo (o.opened values.length) named)

theorem filled_positional (count : Nat) : ∀ p ∈ o.filled count, p.IsPositional := by
  intro p hp
  rcases List.mem_cons.1 hp with rfl | hp
  · exact o.receiver_positional
  · exact o.front_positional p (List.mem_of_mem_take hp)

theorem signature_eq (count : Nat) :
    o.signature = o.filled count ++ (o.front.drop count ++ o.back) := by
  rw [filled, List.cons_append, ← List.append_assoc, List.take_append_drop]
  rfl

theorem nodup_names (count : Nat) :
    (names (o.filled count) ++ (names (o.front.drop count) ++ names o.back)).Nodup := by
  have h : (names o.signature).Nodup := o.nodup
  rw [o.signature_eq count] at h
  simpa [names] using h

theorem singles_named_rest : singles (o.named ++ o.rest.toList) = o.named := by
  have hnamed : singles o.named = o.named := singles_eq_self fun p hp => by
    simp [Parameter.isVariadic, o.named_kind p hp]
  have hrest : singles o.rest.toList = [] := singles_eq_nil fun p hp => by
    simp [Parameter.isVariadic, o.rest_kind p (by simpa using hp)]
  rw [singles_append, hnamed, hrest, List.append_nil]

theorem singles_left (count : Nat) : singles (o.front.drop count ++ o.back) = o.opened count := by
  have hfront : singles (o.front.drop count) = o.front.drop count := singles_eq_self fun p hp =>
    (o.front_positional p (List.mem_of_mem_drop hp)).isVariadic
  have hsurplus : singles o.surplus.toList = [] := singles_eq_nil fun p hp => by
    simp [Parameter.isVariadic, o.surplus_kind p (by simpa using hp)]
  rw [back, singles_append, singles_append, hfront, hsurplus, singles_named_rest, List.nil_append,
    opened]

theorem singles_opened (count : Nat) : singles (o.opened count) = o.opened count := by
  rw [← singles_left, singles_singles]

theorem takesRest_named_rest : takesRest (o.named ++ o.rest.toList) = o.rest.isSome := by
  have hnamed : o.named.any (fun p => decide (p.kind = .variadicNamed)) = false :=
    List.any_eq_false.2 fun p hp => by simp [o.named_kind p hp]
  have hrest : o.rest.toList.any (fun p => decide (p.kind = .variadicNamed)) = o.rest.isSome := by
    cases h : o.rest with
    | none => rfl
    | some p => simp [o.rest_kind p (by simp [h])]
  rw [takesRest, List.any_append, hnamed, hrest, Bool.false_or]

theorem takesRest_left (count : Nat) :
    takesRest (o.front.drop count ++ o.back) = o.rest.isSome := by
  have hfront : (o.front.drop count).any (fun p => decide (p.kind = .variadicNamed)) = false := by
    refine List.any_eq_false.2 fun p hp => ?_
    rcases o.front_positional p (List.mem_of_mem_drop hp) with hp | hp <;> simp [hp]
  have hsurplus : o.surplus.toList.any (fun p => decide (p.kind = .variadicNamed)) = false :=
    List.any_eq_false.2 fun p hp => by simp [o.surplus_kind p (by simpa using hp)]
  have hnamed := o.takesRest_named_rest
  rw [takesRest] at hnamed ⊢
  rw [back, List.any_append, List.any_append, hfront, hsurplus, hnamed]
  simp

/-- A call binds exactly if there is room for the values by position, every parameter without one
has a value, and every name leads somewhere. -/
theorem bind_eq_ok_iff {b : Named} :
    o.signature.bind (r :: values) named = .ok b ↔
      (o.front.length < values.length → o.surplus.isSome) ∧
      IsFree named (o.filled values.length) ∧
      (∀ p ∈ o.opened values.length, (p.valueIn named).isSome) ∧
      (beyond (o.opened values.length) named = [] ∨ o.rest.isSome) ∧
      b = o.bound r values named := by
  have hlength : (o.filled values.length).length = (r :: values.take o.front.length).length := by
    simp [filled, Nat.min_comm]
  rw [o.signature_eq values.length]
  rcases Nat.lt_or_ge o.front.length values.length with hmore | hfew
  -- more values than places: no place is left, and the others need a parameter that takes them
  · obtain ⟨v, extra, hextra⟩ : ∃ v extra, values.drop o.front.length = v :: extra :=
      List.exists_cons_of_ne_nil (List.drop_eq_nil_iff.not.2 (Nat.not_le.2 hmore))
    have hvalues : r :: values = r :: values.take o.front.length ++ v :: extra := by
      rw [← hextra, List.cons_append, List.take_append_drop]
    have hfront : o.front.drop values.length = [] := List.drop_of_length_le (Nat.le_of_lt hmore)
    rw [hvalues, hfront, List.nil_append, back]
    cases hsurplus : o.surplus with
    | none =>
      refine ⟨fun h => absurd h (bind_append_surplus_ne_ok (o.filled_positional _) hlength ?_), ?_⟩
      · intro p hp
        have hp : p ∈ o.named ++ o.rest.toList := hp
        rcases List.mem_append.1 hp with hp | hp
        · exact .inl (o.named_kind p hp)
        · exact .inr (o.rest_kind p (by simpa using hp))
      · rintro ⟨hroom, -⟩
        exact absurd (hroom hmore) (by simp)
    | some p =>
      have hnodup : (names (o.named ++ o.rest.toList)).Nodup := by
        have h := (o.nodup_names values.length).of_append_right.of_append_right
        rw [back, hsurplus] at h
        exact (List.nodup_cons.1 h).2
      have hopened : singles (o.named ++ o.rest.toList) = o.opened values.length := by
        rw [singles_named_rest, opened, hfront, List.nil_append]
      have hbound : o.bound r values named =
          (names (o.filled values.length)).zip (r :: values.take o.front.length) ++
            (p.name, .tuple (v :: extra)) :: givenTo (o.opened values.length) named := by
        simp [bound, surplusOf, hextra, hsurplus]
      rw [Option.toList_some, List.singleton_append, bind_append_surplus_eq_ok_iff
        (o.filled_positional _) hlength (o.surplus_kind p hsurplus) hnodup, hopened,
        takesRest_named_rest, ← beyond_singles, ← givenTo_singles, hopened, hbound,
        and_iff_right (a := _ → _) fun _ => Option.isSome_some]
  -- the places that are left are filled by name, and the surplus is empty
  · have hvalues : r :: values.take o.front.length = r :: values := by
      rw [List.take_of_length_le hfew]
    have hnodup : (names (o.front.drop values.length ++ o.back)).Nodup := by
      simpa [names] using (o.nodup_names values.length).of_append_right
    have hbound : o.bound r values named =
        (names (o.filled values.length)).zip (r :: values.take o.front.length) ++
          givenTo (o.opened values.length) named := by
      simp [bound, surplusOf, List.drop_of_length_le hfew]
    rw [← hvalues, bind_append_eq_ok_iff (o.filled_positional _) hlength hnodup,
      singles_left, takesRest_left, ← beyond_singles, ← givenTo_singles, singles_left, hbound,
      and_iff_right (a := _ → _) fun h => absurd h (Nat.not_lt.2 hfew)]

theorem lookup_surplusOf_eq_none {name : String} (h : ∀ p ∈ o.surplus, p.name ≠ name) :
    (o.surplusOf values).lookup name = none := by
  unfold surplusOf
  split
  · rfl
  · cases hsurplus : o.surplus with
    | none => rfl
    | some p =>
      have hne : name ≠ p.name := (h p hsurplus).symm
      simp [List.lookup_cons, beq_false_of_ne hne]

theorem mem_opened {p : Parameter} {count : Nat} :
    p ∈ o.opened count ↔ p ∈ o.front.drop count ∨ p ∈ o.named :=
  List.mem_append

theorem isVariadic_of_mem_opened {p : Parameter} {count : Nat} (hp : p ∈ o.opened count) :
    p.isVariadic = false := by
  rw [← singles_opened] at hp
  exact (mem_singles.1 hp).2

/-- A parameter without a value by position bears another name than those with one. -/
theorem name_not_mem_filled {p : Parameter} {count : Nat} (hp : p ∈ o.opened count) :
    p.name ∉ names (o.filled count) := by
  have hdisjoint := (List.nodup_append.1 (o.nodup_names count)).2.2
  refine fun hmem => hdisjoint _ hmem p.name ?_ rfl
  rcases o.mem_opened.1 hp with hp | hp
  · exact List.mem_append_left _ (mem_names_of_mem hp)
  · refine List.mem_append_right _ (mem_names_of_mem ?_)
    simp [back, hp]

theorem name_ne_surplus {p q : Parameter} {count : Nat} (hp : p ∈ o.opened count)
    (hq : q ∈ o.surplus) : q.name ≠ p.name := by
  have hnodup := (o.nodup_names count).of_append_right
  rw [back, names, names, List.map_append] at hnodup
  have hq : q.name ∈ o.surplus.toList.map Parameter.name := by
    simpa using ⟨q, hq, rfl⟩
  rcases o.mem_opened.1 hp with hp | hp
  · have hdisjoint := (List.nodup_append.1 hnodup).2.2
    exact (hdisjoint _ (mem_names_of_mem hp) _ (List.mem_append_left _ hq)).symm
  · have hdisjoint := (List.nodup_append.1 hnodup.of_append_right).2.2
    refine hdisjoint _ hq _ ?_
    rw [List.map_append]
    exact List.mem_append_left _ (mem_names_of_mem hp)

theorem surplus_not_mem_filled {p : Parameter} (hp : p ∈ o.surplus) (count : Nat) :
    p.name ∉ names (o.filled count) := by
  have hdisjoint := (List.nodup_append.1 (o.nodup_names count)).2.2
  refine fun hmem => hdisjoint _ hmem p.name ?_ rfl
  refine List.mem_append_right _ (mem_names_of_mem (List.mem_append_left _ ?_))
  simpa using hp

/-- A parameter that takes one value contributes what the values by name leave it. -/
theorem contribution_opened {p : Parameter} {v : Value} (hp : p ∈ o.opened values.length)
    (hv : p.valueIn named = some v) : p.contribution (o.bound r values named) = [v] := by
  refine Parameter.contribution_of_valueIn (o.isVariadic_of_mem_opened hp) ?_ hv
  -- neither the values by position nor the surplus are bound under its name
  rw [bound, List.lookup_append, List.lookup_append,
    lookup_zip_eq_none _ (o.name_not_mem_filled hp),
    o.lookup_surplusOf_eq_none values fun q hq => o.name_ne_surplus hp hq, Option.none_or,
    Option.none_or]
  rw [← singles_opened] at hp
  exact lookup_givenTo hp

/-- A parameter that takes any number of values contributes those beyond the places. -/
theorem contribution_surplus (hroom : o.front.length < values.length → o.surplus.isSome) :
    o.surplus.toList.flatMap (fun p => p.contribution (o.bound r values named)) =
      values.drop o.front.length := by
  cases hsurplus : o.surplus with
  | none =>
    have hfew : values.length ≤ o.front.length := Nat.not_lt.1 fun hmore => by
      simpa [hsurplus] using hroom hmore
    rw [List.drop_of_length_le hfew]
    rfl
  | some p =>
    have hgiven : (givenTo (o.opened values.length) named).lookup p.name = none :=
      Named.lookup_eq_none_iff_not_mem.2 fun hmem => by
        obtain ⟨q, hq, hname⟩ := List.mem_map.1 (keys_givenTo_subset hmem)
        rw [singles_opened] at hq
        exact o.name_ne_surplus hq hsurplus hname.symm
    have hlookup : (o.bound r values named).lookup p.name =
        (o.surplusOf values).lookup p.name := by
      rw [bound, List.lookup_append, List.lookup_append,
        lookup_zip_eq_none _ (o.surplus_not_mem_filled hsurplus _), hgiven, Option.none_or,
        Option.or_none]
    rw [Option.toList_some, List.flatMap_singleton,
      Parameter.contribution_of_variadic (o.surplus_kind p hsurplus), hlookup, surplusOf, hsurplus]
    cases values.drop o.front.length with
    | nil => rfl
    | cons v extra => simp [Value.items?]

/-- The arguments are the values by position at their places, and those of the other parameters at
theirs. -/
theorem arguments_bound {others last : List Value}
    (hothers : List.Forall₂ (fun p v => p.valueIn named = some v)
      (o.front.drop values.length) others)
    (hlast : List.Forall₂ (fun p v => p.valueIn named = some v) o.named last)
    (hroom : o.front.length < values.length → o.surplus.isSome) :
    arguments o.signature (o.bound r values named) =
      values.take o.front.length ++ others ++ values.drop o.front.length ++ last := by
  have hlength : (o.filled values.length).length = (r :: values.take o.front.length).length := by
    simp [filled, Nat.min_comm]
  have hplaced : (o.front.take values.length).flatMap
      (fun p => p.contribution (o.bound r values named)) = values.take o.front.length := by
    have hlookup := lookup_zip (o.nodup_names values.length).of_append_left hlength
      (o.surplusOf values ++ givenTo (o.opened values.length) named)
    cases hlookup with
    | cons _ hlookup =>
      exact flatMap_contribution (forall₂_imp_of_mem hlookup fun p hp v h =>
        Parameter.contribution_of_lookup
          (o.front_positional p (List.mem_of_mem_take hp)).isVariadic h)
  have hothers' : (o.front.drop values.length).flatMap
      (fun p => p.contribution (o.bound r values named)) = others :=
    flatMap_contribution (forall₂_imp_of_mem hothers fun p hp v h =>
      o.contribution_opened r values named (o.mem_opened.2 (.inl hp)) h)
  have hlast' : o.named.flatMap (fun p => p.contribution (o.bound r values named)) = last :=
    flatMap_contribution (forall₂_imp_of_mem hlast fun p hp v h =>
      o.contribution_opened r values named (o.mem_opened.2 (.inr hp)) h)
  have hrest : o.rest.toList.flatMap (fun p => p.contribution (o.bound r values named)) = [] :=
    List.flatMap_eq_nil_iff.2 fun p hp => by
      simp [Parameter.contribution, o.rest_kind p (by simpa using hp)]
  have hoperands : operands o.signature = o.front.take values.length ++
      (o.front.drop values.length ++ (o.surplus.toList ++ (o.named ++ o.rest.toList))) := by
    rw [← List.append_assoc, List.take_append_drop]
    rfl
  rw [arguments, hoperands, List.flatMap_append, List.flatMap_append, List.flatMap_append,
    List.flatMap_append, hplaced, hothers', o.contribution_surplus r values named hroom, hlast',
    hrest]
  simp

/-- Every name leads somewhere exactly if none is that of a parameter with a value by position and
either all names are of parameters or a parameter takes the others. -/
theorem forall_admits_iff {count : Nat} :
    (∀ name ∈ Named.keys named, o.Admits count name) ↔
      IsFree named (o.filled count) ∧
        (beyond (o.opened count) named = [] ∨ o.rest.isSome) ∧
        o.receiver.name ∉ Named.keys named := by
  have hreceiver : o.receiver ∈ o.filled count := List.mem_cons_self
  constructor
  · intro h
    -- a parameter with a value is given by name only if the name is left to others
    have hleft : ∀ p ∈ o.filled count, p.name ∈ Named.keys named →
        p.name ≠ o.receiver.name ∧
          ∀ q ∈ o.front.take count, q.kind = .positional → q.name ≠ p.name := by
      intro p hp hmem
      rcases h _ hmem with hopened | ⟨-, hne, hother⟩
      · obtain ⟨q, hq, hname⟩ := List.mem_map.1 hopened
        exact absurd (mem_names_of_mem hp) (hname ▸ o.name_not_mem_filled hq)
      · exact ⟨hne, hother⟩
    have habsent : o.receiver.name ∉ Named.keys named := fun hmem =>
      (hleft _ hreceiver hmem).1 rfl
    refine ⟨fun p hp hgiven => ?_, ?_, habsent⟩
    · have hmem := Named.isGiven_iff_mem.1 hgiven
      rcases List.mem_cons.1 hp with rfl | htake
      · exact absurd hmem habsent
      · refine (o.filled_positional _ p hp).resolve_right fun hkind => ?_
        exact (hleft p hp hmem).2 p htake hkind rfl
    · by_cases hrest : o.rest.isSome = true
      · exact .inr hrest
      · refine .inl (beyond_eq_nil_iff.2 fun name hname => ?_)
        rw [singles_opened]
        exact (h name hname).resolve_right fun hothers => hrest hothers.1
  · rintro ⟨hfree, hbeyond, habsent⟩ name hname
    by_cases hopened : name ∈ names (o.opened count)
    · exact .inl hopened
    · refine .inr ⟨hbeyond.resolve_left fun hnil => ?_, ?_, fun p hp hkind heq => ?_⟩
      · rw [beyond_eq_nil_iff, singles_opened] at hnil
        exact hopened (hnil name hname)
      · rintro rfl
        exact habsent hname
      · have hpositional := hfree p (List.mem_cons_of_mem _ hp)
          (Named.isGiven_iff_mem.2 (heq ▸ hname))
        rw [hkind] at hpositional
        cases hpositional

end Bound

open Signature

theorem takes_iff {w : WrittenCall} {p : Parameter} {v : Value} :
    p.Takes w.named v ↔ p.valueIn w.named = some v := by
  constructor
  · rintro (⟨hkind, hgiven⟩ | ⟨homitted, hdefault⟩)
    · rw [← lookup_eq_some_iff_mem w.nodup] at hgiven
      simp only [Parameter.valueIn, hgiven, if_neg hkind]
    · rw [← Named.lookup_eq_none_iff_not_mem] at homitted
      simp only [Parameter.valueIn, homitted, hdefault]
  · intro h
    cases hlookup : w.named.lookup p.name with
    | some u =>
      simp only [Parameter.valueIn, hlookup] at h
      split at h
      · cases h
      · rename_i hkind
        obtain rfl := Option.some.inj h
        exact .byName hkind (mem_of_lookup hlookup)
    | none =>
      simp only [Parameter.valueIn, hlookup] at h
      exact .byDefault (Named.lookup_eq_none_iff_not_mem.1 hlookup) h

/-- The arguments of a call that does not name the receiver are what it passes. -/
theorem argumentsOf_eq_ok_iff (o : MethodSignature) (r : Value) (w : WrittenCall)
    {vs : List Value} :
    (o.signature.argumentsOf r w.values w.named = .ok vs ∧
      o.receiver.name ∉ Named.keys w.named) ↔ o.Passes w vs := by
  constructor
  · rintro ⟨harguments, habsent⟩
    obtain ⟨b, hbind, rfl⟩ := except_map_ok harguments
    obtain ⟨hroom, hfree, hvalues, hbeyond, rfl⟩ := (o.bind_eq_ok_iff r w.values w.named).1 hbind
    rw [opened, List.forall_mem_append] at hvalues
    obtain ⟨others, hothers⟩ := exists_values hvalues.1
    obtain ⟨last, hlast⟩ := exists_values hvalues.2
    rw [o.arguments_bound r w.values w.named hothers hlast hroom]
    exact .intro hroom ((o.forall_admits_iff w.named).2 ⟨hfree, hbeyond, habsent⟩)
      (hothers.imp fun _ _ => takes_iff.2) (hlast.imp fun _ _ => takes_iff.2)
  · rintro ⟨hroom, hadmits, hothers, hlast⟩
    obtain ⟨hfree, hbeyond, habsent⟩ := (o.forall_admits_iff w.named).1 hadmits
    have hothers := hothers.imp fun _ _ => takes_iff.1
    have hlast := hlast.imp fun _ _ => takes_iff.1
    have hvalues : ∀ p ∈ o.opened w.values.length, (p.valueIn w.named).isSome := by
      rw [opened, List.forall_mem_append]
      exact ⟨isSome_of_values hothers, isSome_of_values hlast⟩
    have hbind := (o.bind_eq_ok_iff r w.values w.named).2 ⟨hroom, hfree, hvalues, hbeyond, rfl⟩
    refine ⟨?_, habsent⟩
    rw [argumentsOf, hbind, ← o.arguments_bound r w.values w.named hothers hlast hroom]
    rfl

/-- Without parameters that take any number of values a call passes one value for every parameter
but the receiver, as many as the method is declared to take. -/
theorem Passes.arity_eq {o : MethodSignature} {w : WrittenCall} {vs : List Value}
    (h : o.Passes w vs) (hsurplus : o.surplus = none) (hrest : o.rest = none) :
    o.signature.arity = some vs.length := by
  obtain ⟨hroom, -, hothers, hlast⟩ := h
  have hfew : w.values.length ≤ o.front.length := Nat.not_lt.1 fun hmore => by
    simpa [hsurplus] using hroom hmore
  have hoperands : operands o.signature = o.front ++ o.named := by
    simp [operands, signature, hsurplus, hrest]
  have hsingle : (o.front ++ o.named).any Parameter.isVariadic = false := by
    refine List.any_eq_false.2 fun p hp => ?_
    rw [Bool.not_eq_true]
    rcases List.mem_append.1 hp with hp | hp
    · exact (o.front_positional p hp).isVariadic
    · exact o.isVariadic_of_mem_opened (o.mem_opened.2 (.inr hp) : p ∈ o.opened 0)
  have hothers := hothers.length_eq
  have hlast := hlast.length_eq
  rw [arity, hoperands, hsingle, if_neg Bool.false_ne_true]
  simp only [List.length_append, List.length_take, List.length_drop] at hothers ⊢
  congr 1
  omega

end MethodSignature
end BoundUpdate
