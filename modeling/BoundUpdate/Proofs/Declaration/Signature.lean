import BoundUpdate.Declaration.Signature
import BoundUpdate.Proofs.Association
import BoundUpdate.Proofs.Failure.Sequence
import Mathlib.Data.List.Nodup
import Mathlib.Data.List.Forall2

namespace BoundUpdate

/-!
# Binding values to parameters

Values by position fill the parameters from the front, one each; values by name
fill those of the others that they name.  What is bound is looked up again by the
names of the parameters, which are all different.
-/

theorem forall₂_imp_of_mem {α β : Type} {R S : α → β → Prop} {l : List α} {m : List β}
    (h : List.Forall₂ R l m) (himp : ∀ a ∈ l, ∀ b, R a b → S a b) : List.Forall₂ S l m :=
  ((List.forall₂_and_left l m).2 ⟨himp, h⟩).imp fun _ b hab => hab.1 b hab.2

namespace Named

/-- The names that values are given by. -/
def keys (named : Named) : List String := named.map Prod.fst

variable {named : Named} {name : String} {v : Value}

theorem mem_keys_of_mem (h : (name, v) ∈ named) : name ∈ keys named :=
  List.mem_map_of_mem (f := Prod.fst) h

theorem lookup_eq_none_iff_not_mem : named.lookup name = none ↔ name ∉ keys named := by
  simp only [List.lookup_eq_none_iff, keys, List.mem_map, not_exists, not_and, bne_iff_ne]
  exact ⟨fun h p hp heq => h p hp heq.symm, fun h p hp heq => h p hp heq.symm⟩

theorem isGiven_iff_mem : Signature.isGiven named name = true ↔ name ∈ keys named := by
  rw [Signature.isGiven, Option.isSome_iff_ne_none, ne_eq, lookup_eq_none_iff_not_mem, not_not]

/-- Values of other names do not matter to a lookup. -/
theorem lookup_filter (keep : String → Bool) (h : keep name = true) :
    (named.filter fun entry => keep entry.1).lookup name = named.lookup name := by
  induction named with
  | nil => rfl
  | cons entry rest ih =>
    obtain ⟨key, value⟩ := entry
    by_cases hkey : name = key
    · subst hkey
      simp [h]
    · have hne : (name == key) = false := beq_false_of_ne hkey
      by_cases hkeep : keep key = true
      · simp [hkeep, List.lookup_cons, hne, ih]
      · simp [hkeep, List.lookup_cons, hne, ih]

end Named

namespace Parameter

/-- A parameter takes one value by position. -/
def IsPositional (p : Parameter) : Prop := p.kind = .positionalOnly ∨ p.kind = .positional

/-- The value of a parameter that values by name leave it: the one given under its name, or its
default. -/
def valueIn (p : Parameter) (named : Named) : Option Value :=
  match named.lookup p.name with
  | some v => if p.kind = .positionalOnly then none else some v
  | none => p.default?

variable {p : Parameter} {named bound : Named} {v : Value}

theorem IsPositional.isVariadic (hp : p.IsPositional) : p.isVariadic = false := by
  rcases hp with hp | hp <;> simp [Parameter.isVariadic, hp]

theorem valueIn_congr {named' : Named} (h : named'.lookup p.name = named.lookup p.name) :
    p.valueIn named' = p.valueIn named := by
  rw [valueIn, valueIn, h]

/-- A parameter that takes one value contributes what is bound to it, or its default. -/
theorem contribution_of_single (hp : p.isVariadic = false) :
    p.contribution bound = ((bound.lookup p.name).or p.default?).toList := by
  rcases p with ⟨name, kind, default?⟩
  cases kind with
  | variadic | variadicNamed => simp [isVariadic] at hp
  | positionalOnly | positional | namedOnly =>
    cases hbound : bound.lookup name <;> cases default? <;> simp only [contribution, hbound] <;> rfl

/-- A parameter that takes any number of values contributes all it has taken. -/
theorem contribution_of_variadic (hp : p.kind = .variadic) :
    p.contribution bound = ((bound.lookup p.name).bind Value.items?).getD [] := by
  rcases p with ⟨name, kind, default?⟩
  obtain rfl : kind = .variadic := hp
  cases hbound : bound.lookup name <;> simp only [contribution, hbound] <;> rfl

theorem contribution_of_lookup (hp : p.isVariadic = false) (h : bound.lookup p.name = some v) :
    p.contribution bound = [v] := by
  rw [contribution_of_single hp, h]
  rfl

theorem contribution_of_valueIn (hp : p.isVariadic = false)
    (hlookup : bound.lookup p.name = named.lookup p.name) (hv : p.valueIn named = some v) :
    p.contribution bound = [v] := by
  cases h : named.lookup p.name with
  | some w =>
    simp only [valueIn, h] at hv
    split at hv
    · cases hv
    · obtain rfl := Option.some.inj hv
      exact contribution_of_lookup hp (hlookup.trans h)
  | none =>
    simp only [valueIn, h] at hv
    rw [contribution_of_single hp, hlookup, h, hv]
    rfl

end Parameter

namespace Signature

variable {s left : Signature} {values : List Value} {named bound back remaining : Named}

/-- The names of parameters. -/
def names (s : Signature) : List String := s.map Parameter.name

/-- The parameters that take one value. -/
def singles (s : Signature) : Signature := s.filter fun p => !p.isVariadic

@[simp]
theorem mem_singles {p : Parameter} : p ∈ singles s ↔ p ∈ s ∧ p.isVariadic = false := by
  simp [singles]

/-- What values by name give to parameters. -/
def givenTo (s : Signature) (named : Named) : Named :=
  (singles s).filterMap fun p => (named.lookup p.name).map (p.name, ·)

/-- The values by name that name none of the parameters that take one value. -/
def beyond (s : Signature) (named : Named) : Named :=
  named.filter fun entry => decide (entry.1 ∉ names (singles s))

theorem mem_names_of_mem {p : Parameter} (h : p ∈ s) : p.name ∈ names s :=
  List.mem_map_of_mem h

theorem singles_cons_of_isVariadic {p : Parameter} (hp : p.isVariadic = true) :
    singles (p :: s) = singles s := by
  simp [singles, hp]

theorem singles_cons {p : Parameter} (hp : p.isVariadic = false) :
    singles (p :: s) = p :: singles s := by
  simp [singles, hp]

@[simp]
theorem singles_append (s t : Signature) : singles (s ++ t) = singles s ++ singles t :=
  List.filter_append _ _

@[simp]
theorem singles_singles (s : Signature) : singles (singles s) = singles s := by
  simp [singles]

theorem singles_eq_self (h : ∀ p ∈ s, p.isVariadic = false) : singles s = s :=
  List.filter_eq_self.2 fun p hp => by simp [h p hp]

theorem singles_eq_nil (h : ∀ p ∈ s, p.isVariadic = true) : singles s = [] :=
  List.filter_eq_nil_iff.2 fun p hp => by simp [h p hp]

theorem givenTo_singles (s : Signature) (named : Named) :
    givenTo (singles s) named = givenTo s named := by
  rw [givenTo, givenTo, singles_singles]

theorem beyond_singles (s : Signature) (named : Named) :
    beyond (singles s) named = beyond s named := by
  rw [beyond, beyond, singles_singles]

theorem givenTo_congr {named' : Named}
    (h : ∀ p ∈ singles s, named'.lookup p.name = named.lookup p.name) :
    givenTo s named' = givenTo s named :=
  List.filterMap_congr fun p hp => by rw [h p hp]

theorem keys_givenTo_subset : Named.keys (givenTo s named) ⊆ names (singles s) := by
  intro name hname
  obtain ⟨entry, hentry, rfl⟩ := List.mem_map.1 hname
  obtain ⟨p, hp, hgiven⟩ := List.mem_filterMap.1 hentry
  obtain ⟨v, -, rfl⟩ := Option.map_eq_some_iff.1 hgiven
  exact mem_names_of_mem hp

/-- What is given to a parameter is found under its name. -/
theorem lookup_givenTo {p : Parameter} (hp : p ∈ singles s) :
    (givenTo s named).lookup p.name = named.lookup p.name := by
  unfold givenTo
  generalize singles s = l at hp
  induction l with
  | nil => cases hp
  | cons q rest ih =>
    by_cases hname : p.name = q.name
    · cases hlookup : named.lookup q.name with
      | some v => simp [hlookup, hname]
      | none =>
        -- the name is not given, so it is found nowhere
        rw [hname, hlookup, Named.lookup_eq_none_iff_not_mem]
        rintro hmem
        obtain ⟨entry, hentry, hkey⟩ := List.mem_map.1 hmem
        obtain ⟨r, -, hgiven⟩ := List.mem_filterMap.1 hentry
        obtain ⟨v, hv, rfl⟩ := Option.map_eq_some_iff.1 hgiven
        dsimp only at hkey
        rw [hkey, hlookup] at hv
        cases hv
    · have hp : p ∈ rest := (List.mem_cons.1 hp).resolve_left fun heq => hname (by rw [heq])
      cases hlookup : named.lookup q.name with
      | some v => simpa [hlookup, List.lookup_cons, beq_false_of_ne hname] using ih hp
      | none => simpa [hlookup] using ih hp

section Cons

variable {p : Parameter} {rest : Signature} {v : Value}

theorem givenTo_cons_of_none (hp : p.isVariadic = false) (hlookup : named.lookup p.name = none) :
    givenTo (p :: rest) named = givenTo rest named := by
  simp [givenTo, singles_cons hp, hlookup]

theorem beyond_cons_of_none (hp : p.isVariadic = false) (hlookup : named.lookup p.name = none) :
    beyond (p :: rest) named = beyond rest named := by
  have hkey : p.name ∉ Named.keys named := Named.lookup_eq_none_iff_not_mem.1 hlookup
  refine List.filter_congr fun entry hentry => ?_
  have hne : entry.1 ≠ p.name := fun heq => hkey (heq ▸ Named.mem_keys_of_mem hentry)
  simp [singles_cons hp, names, hne]

/-- A value that has been given to a parameter is no longer looked up. -/
theorem lookup_without (hp : p.name ∉ names rest) :
    ∀ q ∈ singles rest, (named.filter fun entry => entry.1 != p.name).lookup q.name =
      named.lookup q.name := by
  intro q hq
  have hother : q.name ≠ p.name := fun heq => hp (heq ▸ mem_names_of_mem (mem_singles.1 hq).1)
  exact Named.lookup_filter (fun key => key != p.name) (bne_iff_ne.2 hother)

theorem givenTo_cons_of_some (hp : p.isVariadic = false) (hname : p.name ∉ names rest)
    (hlookup : named.lookup p.name = some v) : givenTo (p :: rest) named =
      (p.name, v) :: givenTo rest (named.filter fun entry => entry.1 != p.name) := by
  rw [givenTo_congr (lookup_without hname)]
  simp [givenTo, singles_cons hp, hlookup]

theorem beyond_cons (hp : p.isVariadic = false) : beyond (p :: rest) named =
    beyond rest (named.filter fun entry => entry.1 != p.name) := by
  rw [beyond, beyond, List.filter_filter]
  refine List.filter_congr fun entry _ => ?_
  by_cases heq : entry.1 = p.name <;> simp [singles_cons hp, names, heq]

end Cons

/-- Values by name are bound exactly if every parameter that takes one value has one; the others
remain. -/
theorem bindNamed_eq_ok_iff (hnodup : (names s).Nodup) :
    bindNamed s named = .ok (back, remaining) ↔
      (∀ p ∈ singles s, (p.valueIn named).isSome) ∧
        back = givenTo s named ∧ remaining = beyond s named := by
  induction s generalizing named back remaining with
  | nil =>
    have hremaining : beyond [] named = named := List.filter_eq_self.2 fun _ _ => rfl
    have hback : givenTo [] named = [] := rfl
    rw [bindNamed, hremaining, hback, Except.ok.injEq, Prod.mk.injEq, eq_comm, eq_comm (a := named)]
    exact (and_iff_right fun p hp => nomatch hp).symm
  | cons p rest ih =>
    obtain ⟨hp, hrest⟩ := List.nodup_cons.1 hnodup
    by_cases hvariadic : p.isVariadic = true
    · rw [bindNamed, if_pos hvariadic, ih hrest, beyond, beyond, givenTo, givenTo,
        singles_cons_of_isVariadic hvariadic]
    · have hsingle : p.isVariadic = false := by simpa using hvariadic
      rw [bindNamed, if_neg hvariadic, singles_cons hsingle, List.forall_mem_cons]
      cases hlookup : named.lookup p.name with
      | none =>
        have hvalue : p.valueIn named = p.default? := by simp [Parameter.valueIn, hlookup]
        rw [givenTo_cons_of_none hsingle hlookup, beyond_cons_of_none hsingle hlookup, hvalue]
        dsimp only
        split
        · rename_i hdefault
          rw [ih hrest, and_iff_right hdefault]
        · rename_i hdefault
          exact ⟨fun h => (nomatch h), fun h => absurd h.1.1 hdefault⟩
      | some v =>
        rw [givenTo_cons_of_some hsingle hp hlookup, beyond_cons hsingle]
        dsimp only
        split
        · rename_i hkind
          have hvalue : p.valueIn named = none := by simp [Parameter.valueIn, hlookup, hkind]
          rw [hvalue]
          exact ⟨fun h => (nomatch h), fun h => nomatch h.1.1⟩
        · rename_i hkind
          have hvalue : (p.valueIn named).isSome = true := by
            simp [Parameter.valueIn, hlookup, hkind]
          -- the other parameters do not see that this value is taken away
          have hvalues : (∀ q ∈ singles rest,
              (q.valueIn (named.filter fun entry => entry.1 != p.name)).isSome) ↔
              ∀ q ∈ singles rest, (q.valueIn named).isSome :=
            forall₂_congr fun q hq => by rw [Parameter.valueIn_congr (lookup_without hp q hq)]
          rw [← hvalues, and_iff_right hvalue]
          constructor
          · intro h
            obtain ⟨⟨back', remaining'⟩, hbound, heq⟩ := except_bind_ok h
            obtain ⟨hall, rfl, rfl⟩ := (ih hrest).1 hbound
            cases heq
            exact ⟨hall, rfl, rfl⟩
          · rintro ⟨hall, rfl, rfl⟩
            rw [(ih hrest).2 ⟨hall, rfl, rfl⟩]
            rfl

theorem beyond_eq_nil_iff :
    beyond s named = [] ↔ ∀ name ∈ Named.keys named, name ∈ names (singles s) := by
  simp [beyond, Named.keys, List.filter_eq_nil_iff]

theorem exists_values (h : ∀ p ∈ s, (p.valueIn named).isSome) :
    ∃ vs, List.Forall₂ (fun p v => p.valueIn named = some v) s vs := by
  induction s with
  | nil => exact ⟨[], .nil⟩
  | cons p rest ih =>
    obtain ⟨hp, hrest⟩ := List.forall_mem_cons.1 h
    obtain ⟨v, hv⟩ := Option.isSome_iff_exists.1 hp
    obtain ⟨vs, hvs⟩ := ih hrest
    exact ⟨v :: vs, .cons hv hvs⟩

theorem isSome_of_values {vs : List Value}
    (h : List.Forall₂ (fun p v => p.valueIn named = some v) s vs) :
    ∀ p ∈ s, (p.valueIn named).isSome := by
  induction h with
  | nil => exact fun p hp => nomatch hp
  | cons hp _ ih => exact List.forall_mem_cons.2 ⟨by rw [hp]; rfl, ih⟩

/-- No value is given under the name of a parameter that could take it. -/
def IsFree (named : Named) (f : Signature) : Prop :=
  ∀ p ∈ f, isGiven named p.name = true → p.kind = .positionalOnly

/-- Values by position are bound one to each parameter in front. -/
theorem bindPositional_append_eq_ok_iff {f : Signature} {given : List Value}
    (hpositional : ∀ p ∈ f, p.IsPositional) (hlength : f.length = given.length) :
    bindPositional named (f ++ s) (given ++ values) = .ok (bound, left) ↔
      IsFree named f ∧ ∃ back, bindPositional named s values = .ok (back, left) ∧
        bound = (names f).zip given ++ back := by
  induction f generalizing given bound with
  | nil =>
    obtain rfl := List.length_eq_zero_iff.1 hlength.symm
    refine ⟨fun h => ⟨fun p hp => (nomatch hp), bound, h, rfl⟩, ?_⟩
    rintro ⟨-, back, hback, rfl⟩
    exact hback
  | cons p rest ih =>
    cases given with
    | nil => cases hlength
    | cons v given =>
      obtain ⟨hp, hrest⟩ := List.forall_mem_cons.1 hpositional
      have hnamed : ¬(p.kind = .variadicNamed ∨ p.kind = .namedOnly) := by
        rcases hp with hp | hp <;> simp [hp]
      have hvariadic : p.kind ≠ .variadic := by
        rcases hp with hp | hp <;> simp [hp]
      rw [List.cons_append, List.cons_append, bindPositional, if_neg hnamed, if_neg hvariadic]
      unfold IsFree
      rw [List.forall_mem_cons]
      split
      · rename_i htaken
        refine ⟨fun h => (nomatch h), fun h => absurd (h.1.1 htaken.1) htaken.2⟩
      · rename_i hfree
        have hfree : isGiven named p.name = true → p.kind = .positionalOnly := fun h =>
          Decidable.byContradiction fun hkind => hfree ⟨h, hkind⟩
        rw [and_iff_right hfree]
        constructor
        · intro h
          obtain ⟨⟨bound', left'⟩, hbound, heq⟩ := except_bind_ok h
          cases heq
          obtain ⟨hall, back, hback, rfl⟩ := (ih hrest (Nat.succ.inj hlength)).1 hbound
          exact ⟨hall, back, hback, rfl⟩
        · rintro ⟨hall, back, hback, rfl⟩
          rw [(ih hrest (Nat.succ.inj hlength)).2 ⟨hall, back, hback, rfl⟩]
          rfl

/-- Whether some parameter takes what remains of the values by name. -/
def takesRest (s : Signature) : Bool := s.any fun p => p.kind = .variadicNamed

/-- Without values by position all parameters are left, or one of them gets no value. -/
theorem bindPositional_nil (named : Named) (s : Signature) :
    (∃ left, bindPositional named s [] = .ok ([], left) ∧ singles left = singles s ∧
        (names left).Sublist (names s) ∧ takesRest left = takesRest s) ∨
      (∃ failure, bindPositional named s [] = .error failure) ∧
        ∃ p ∈ singles s, p.valueIn named = none := by
  cases s with
  | nil => exact .inl ⟨[], rfl, rfl, .refl _, rfl⟩
  | cons p rest =>
    rw [bindPositional]
    split
    · rename_i hkind
      have hvariadic : p.isVariadic = true := by simp [Parameter.isVariadic, hkind]
      refine .inl ⟨rest, rfl, (singles_cons_of_isVariadic hvariadic).symm,
        List.sublist_cons_self _ _, ?_⟩
      simp [takesRest, hkind]
    · rename_i hkind
      split
      · rename_i hgiven
        split
        · rename_i hpositional
          refine .inr ⟨⟨_, rfl⟩, p, ?_, ?_⟩
          · simp [Parameter.isVariadic, hpositional]
          · obtain ⟨v, hv⟩ := Option.isSome_iff_exists.1 hgiven
            simp [Parameter.valueIn, hv, hpositional]
        · exact .inl ⟨_, rfl, rfl, .refl _, rfl⟩
      · rename_i hgiven
        split
        · exact .inl ⟨_, rfl, rfl, .refl _, rfl⟩
        · rename_i hoptional
          obtain ⟨hvariadic, hdefault⟩ : p.isVariadic = false ∧ p.default? = none := by
            simpa [Parameter.isOptional] using hoptional
          have hlookup : named.lookup p.name = none := Option.not_isSome_iff_eq_none.1 hgiven
          refine .inr ⟨⟨_, rfl⟩, p, ?_, ?_⟩
          · simp [hvariadic]
          · simp only [Parameter.valueIn, hlookup, hdefault]

theorem bind_eq_ok_iff : s.bind values named = .ok bound ↔
    ∃ front left back remaining, bindPositional named s values = .ok (front, left) ∧
      bindNamed left named = .ok (back, remaining) ∧
      (remaining = [] ∨ takesRest left = true) ∧ bound = front ++ back := by
  constructor
  · intro h
    obtain ⟨⟨front, left⟩, hfront, h⟩ := except_bind_ok h
    obtain ⟨⟨back, remaining⟩, hback, h⟩ := except_bind_ok h
    refine ⟨front, left, back, remaining, hfront, hback, ?_⟩
    cases remaining with
    | nil => exact ⟨.inl rfl, (Except.ok.inj h).symm⟩
    | cons entry others =>
      dsimp only at h
      split at h
      · rename_i hrest
        exact ⟨.inr hrest, (Except.ok.inj h).symm⟩
      · cases h
  · rintro ⟨front, left, back, remaining, hfront, hback, hrest, rfl⟩
    simp only [bind, hfront, hback, except_ok_bind]
    cases remaining with
    | nil => rfl
    | cons entry others =>
      have hrest : takesRest left = true := hrest.resolve_left (List.cons_ne_nil _ _)
      exact if_pos hrest

/-- A call that gives a value by position to every parameter in front, and no others, binds exactly
if all other parameters that take one value have one and nothing else is given by name. -/
theorem bind_append_eq_ok_iff {f : Signature} {given : List Value}
    (hpositional : ∀ p ∈ f, p.IsPositional) (hlength : f.length = given.length)
    (hnodup : (names s).Nodup) :
    (f ++ s).bind given named = .ok bound ↔
      IsFree named f ∧ (∀ p ∈ singles s, (p.valueIn named).isSome) ∧
        (beyond s named = [] ∨ takesRest s = true) ∧
        bound = (names f).zip given ++ givenTo s named := by
  have hgiven : bindPositional named (f ++ s) given =
      bindPositional named (f ++ s) (given ++ []) := by rw [List.append_nil]
  simp only [bind_eq_ok_iff, hgiven, bindPositional_append_eq_ok_iff hpositional hlength]
  rcases bindPositional_nil named s with
    ⟨left, hleft, hsingles, hnames, hrest⟩ | ⟨⟨failure, hfailure⟩, p, hp, hnone⟩
  · have hnodup := hnames.nodup hnodup
    have hgivenTo : givenTo left named = givenTo s named := by rw [givenTo, givenTo, hsingles]
    have hbeyond : beyond left named = beyond s named := by rw [beyond, beyond, hsingles]
    constructor
    · rintro ⟨front, left', back, remaining, ⟨hfree, back', hback', rfl⟩, hback, hremaining, rfl⟩
      rw [hleft] at hback'
      cases hback'
      obtain ⟨hall, rfl, rfl⟩ := (bindNamed_eq_ok_iff hnodup).1 hback
      rw [hsingles] at hall
      rw [hbeyond, hrest] at hremaining
      exact ⟨hfree, hall, hremaining, by rw [List.append_nil, hgivenTo]⟩
    · rintro ⟨hfree, hall, hremaining, rfl⟩
      rw [← hsingles] at hall
      rw [← hbeyond, ← hrest] at hremaining
      exact ⟨_, left, _, _, ⟨hfree, [], hleft, rfl⟩,
        (bindNamed_eq_ok_iff hnodup).2 ⟨hall, rfl, rfl⟩, hremaining, by
          rw [List.append_nil, hgivenTo]⟩
  · constructor
    · rintro ⟨front, left', back, remaining, ⟨-, back', hback', -⟩, -⟩
      rw [hfailure] at hback'
      cases hback'
    · rintro ⟨-, hall, -⟩
      have hsome := hall p hp
      rw [hnone] at hsome
      cases hsome

/-- Values by position beyond the parameters in front go to a parameter that takes any number. -/
theorem bind_append_surplus_eq_ok_iff {f : Signature} {given extra : List Value} {v : Value}
    {p : Parameter} (hpositional : ∀ p ∈ f, p.IsPositional) (hlength : f.length = given.length)
    (hp : p.kind = .variadic) (hnodup : (names s).Nodup) :
    (f ++ p :: s).bind (given ++ v :: extra) named = .ok bound ↔
      IsFree named f ∧ (∀ p ∈ singles s, (p.valueIn named).isSome) ∧
        (beyond s named = [] ∨ takesRest s = true) ∧
        bound = (names f).zip given ++ (p.name, .tuple (v :: extra)) :: givenTo s named := by
  have hsurplus : bindPositional named (p :: s) (v :: extra) =
      .ok ([(p.name, .tuple (v :: extra))], s) := by
    simp [bindPositional, hp]
  simp only [bind_eq_ok_iff, bindPositional_append_eq_ok_iff hpositional hlength, hsurplus]
  constructor
  · rintro ⟨front, left, back, remaining, ⟨hfree, back', hback', rfl⟩, hback, hremaining, rfl⟩
    cases hback'
    obtain ⟨hall, rfl, rfl⟩ := (bindNamed_eq_ok_iff hnodup).1 hback
    exact ⟨hfree, hall, hremaining, by simp⟩
  · rintro ⟨hfree, hall, hremaining, rfl⟩
    exact ⟨_, s, _, _, ⟨hfree, _, rfl, rfl⟩,
      (bindNamed_eq_ok_iff hnodup).2 ⟨hall, rfl, rfl⟩, hremaining, by simp⟩

/-- Without such a parameter a call with more values does not fit. -/
theorem bind_append_surplus_ne_ok {f : Signature} {given extra : List Value} {v : Value}
    (hpositional : ∀ p ∈ f, p.IsPositional) (hlength : f.length = given.length)
    (hs : ∀ p ∈ s, p.kind = .namedOnly ∨ p.kind = .variadicNamed) :
    (f ++ s).bind (given ++ v :: extra) named ≠ .ok bound := by
  rw [ne_eq, bind_eq_ok_iff]
  rintro ⟨front, left, back, remaining, hfront, -⟩
  obtain ⟨-, back, hback, -⟩ := (bindPositional_append_eq_ok_iff hpositional hlength).1 hfront
  cases s with
  | nil => cases hback
  | cons p rest =>
    have hkind := (hs p List.mem_cons_self).symm
    rw [bindPositional, if_pos hkind] at hback
    cases hback

/-! ## Contributions -/

/-- A value by position is found under the name of its parameter. -/
theorem lookup_zip {f : Signature} {given : List Value} (hnodup : (names f).Nodup)
    (hlength : f.length = given.length) (others : Named) :
    List.Forall₂ (fun p v => ((names f).zip given ++ others).lookup p.name = some v) f given := by
  induction f generalizing given with
  | nil =>
    obtain rfl := List.length_eq_zero_iff.1 hlength.symm
    exact .nil
  | cons p rest ih =>
    cases given with
    | nil => cases hlength
    | cons v given =>
      obtain ⟨hp, hrest⟩ := List.nodup_cons.1 hnodup
      refine .cons (by simp [names]) ?_
      refine forall₂_imp_of_mem (ih hrest (Nat.succ.inj hlength)) fun q hq w hlookup => ?_
      have hname : q.name ≠ p.name := fun heq => hp (heq ▸ mem_names_of_mem hq)
      simpa [names, List.lookup_cons, beq_false_of_ne hname] using hlookup

theorem flatMap_contribution {s : Signature} {b : Named} {vs : List Value}
    (h : List.Forall₂ (fun p v => p.contribution b = [v]) s vs) :
    s.flatMap (fun p => p.contribution b) = vs := by
  induction h with
  | nil => rfl
  | cons hp _ ih => rw [List.flatMap_cons, hp, ih, List.singleton_append]

theorem lookup_zip_eq_none {f : Signature} {name : String} (given : List Value)
    (h : name ∉ names f) : ((names f).zip given).lookup name = none :=
  Named.lookup_eq_none_iff_not_mem.2 fun hmem => by
    obtain ⟨entry, hentry, rfl⟩ := List.mem_map.1 hmem
    exact h (List.of_mem_zip hentry).1

/-! ## Calls that do not fit -/

/-- What does not fit fails as something of a wrong type. -/
def Misfits {α : Type} (x : Except Failure α) : Prop :=
  ∀ failure, x = .error failure → failure.kind = .wrongType

section Misfits

variable {α β : Type}

theorem misfits_ok (a : α) : Misfits (.ok a : Except Failure α) := fun _ h => nomatch h

theorem misfits_misfit (text : String) : Misfits (misfit text : Except Failure α) :=
  fun _ h => by cases h; rfl

theorem Misfits.bind {x : Except Failure α} {f : α → Except Failure β} (hx : Misfits x)
    (hf : ∀ a, Misfits (f a)) : Misfits (x >>= f) := by
  cases x with
  | error failure => exact fun _ h => by cases h; exact hx _ rfl
  | ok a => exact hf a

end Misfits

theorem misfits_bindPositional (named : Named) (s : Signature) (values : List Value) :
    Misfits (bindPositional named s values) := by
  induction s generalizing values with
  | nil =>
    cases values with
    | nil => exact misfits_ok _
    | cons v values => exact misfits_misfit _
  | cons p rest ih =>
    cases values with
    | nil =>
      rw [bindPositional]
      repeat' split
      all_goals first | exact misfits_ok _ | exact misfits_misfit _
    | cons v values =>
      rw [bindPositional]
      split
      · exact misfits_misfit _
      · split
        · exact misfits_ok _
        · split
          · exact misfits_misfit _
          · exact (ih values).bind fun bound => misfits_ok _

theorem misfits_bindNamed (s : Signature) (named : Named) : Misfits (bindNamed s named) := by
  induction s generalizing named with
  | nil => exact misfits_ok _
  | cons p rest ih =>
    rw [bindNamed]
    split
    · exact ih named
    · split
      · split
        · exact ih named
        · exact misfits_misfit _
      · split
        · exact misfits_misfit _
        · exact (ih _).bind fun bound => misfits_ok _

theorem misfits_argumentsOf (s : Signature) (r : Value) (values : List Value) (named : Named) :
    Misfits (s.argumentsOf r values named) := by
  have hbind : Misfits (s.bind (r :: values) named) := by
    refine (misfits_bindPositional named s _).bind fun ⟨front, left⟩ => ?_
    refine (misfits_bindNamed left named).bind fun ⟨back, remaining⟩ => ?_
    cases remaining with
    | nil => exact misfits_ok _
    | cons entry others =>
      dsimp only
      split
      · exact misfits_ok _
      · exact misfits_misfit _
  intro failure h
  cases hbound : s.bind (r :: values) named with
  | error raised =>
    rw [argumentsOf, hbound] at h
    cases h
    exact hbind _ hbound
  | ok bound =>
    rw [argumentsOf, hbound] at h
    cases h

end Signature
end BoundUpdate
