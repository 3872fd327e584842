import BoundUpdate.Proofs.Declaration.Calls
import Mathlib.Logic.Relation

namespace BoundUpdate

/-!
# Other ways to write a call

A value that stands at the last place may be given by name, values by name may
stand in any order, and what is the default, or bears a name that no parameter
bears, may be left out.  A call passes the same in each of these ways.
-/

namespace MethodSignature

open Signature

/-- One step of writing a call in another way. -/
inductive Rewrites (o : MethodSignature) : WrittenCall → WrittenCall → Prop
  /-- The values by name stand in another order. -/
  | reorder {w w' : WrittenCall} (values : w'.values = w.values) (named : w.named.Perm w'.named) :
      Rewrites o w w'
  /-- The last value by position is given by name. -/
  | byName {w w' : WrittenCall} {p : Parameter} {v : Value}
      (place : o.front[w'.values.length]? = some p) (kind : p.kind = .positional)
      (values : w.values = w'.values ++ [v]) (named : w'.named = (p.name, v) :: w.named) :
      Rewrites o w w'
  /-- The last value by position is left out, as it is the default. -/
  | omitLast {w w' : WrittenCall} {p : Parameter} {v : Value}
      (place : o.front[w'.values.length]? = some p) (default : p.default? = some v)
      (omitted : p.name ∉ Named.keys w.named)
      (values : w.values = w'.values ++ [v]) (named : w'.named = w.named) : Rewrites o w w'
  /-- A value by name is left out, as it is the default. -/
  | omitNamed {w w' : WrittenCall} {p : Parameter} {v : Value}
      (mem : p ∈ o.opened w.values.length) (kind : p.kind ≠ .positionalOnly)
      (default : p.default? = some v)
      (values : w'.values = w.values) (named : w.named = (p.name, v) :: w'.named) :
      Rewrites o w w'
  /-- A value under a name that no parameter bears is left out. -/
  | omitRest {w w' : WrittenCall} {name : String} {v : Value}
      (rest : o.rest.isSome)
      (stranger : name ∉ Signature.names (o.receiver :: (o.front ++ o.named)))
      (values : w'.values = w.values) (named : w.named = (name, v) :: w'.named) :
      Rewrites o w w'

variable {o : MethodSignature} {w w' : WrittenCall} {vs : List Value}

/-- A value under another name does not matter to a parameter. -/
theorem takes_cons_iff {named : Named} {name : String} {v u : Value} {p : Parameter}
    (hne : p.name ≠ name) : p.Takes ((name, v) :: named) u ↔ p.Takes named u := by
  constructor
  · rintro (⟨hkind, hgiven⟩ | ⟨homitted, hdefault⟩)
    · refine .byName hkind ((List.mem_cons.1 hgiven).resolve_left fun heq => hne ?_)
      exact (Prod.mk.inj heq).1
    · exact .byDefault (fun hmem => homitted (List.mem_cons_of_mem _ hmem)) hdefault
  · rintro (⟨hkind, hgiven⟩ | ⟨homitted, hdefault⟩)
    · exact .byName hkind (List.mem_cons_of_mem _ hgiven)
    · exact .byDefault (fun hmem => (List.mem_cons.1 hmem).elim hne homitted) hdefault

theorem takes_of_perm {named named' : Named} {p : Parameter} {v : Value}
    (hperm : named.Perm named') (h : p.Takes named v) : p.Takes named' v := by
  rcases h with ⟨hkind, hgiven⟩ | ⟨homitted, hdefault⟩
  · exact .byName hkind (hperm.mem_iff.1 hgiven)
  · exact .byDefault (fun hmem => homitted ((hperm.map Prod.fst).mem_iff.2 hmem)) hdefault

/-- Parameters without a value by position bear different names. -/
theorem eq_of_name_eq {count : Nat} {p q : Parameter} (hp : p ∈ o.opened count)
    (hq : q ∈ o.opened count) (h : p.name = q.name) : p = q := by
  have hnodup := (o.nodup_names count).of_append_right
  rw [names, names, ← List.map_append] at hnodup
  have hmem : ∀ r ∈ o.opened count, r ∈ o.front.drop count ++ o.back := fun r hr =>
    (mem_singles.1 (by rwa [singles_left])).1
  exact List.inj_on_of_nodup_map hnodup (hmem p hp) (hmem q hq) h

/-- What a call passes depends on the values by position and on what the other parameters take. -/
theorem Passes.of_takes (h : o.Passes w vs) (hvalues : w'.values = w.values)
    (htakes : ∀ p ∈ o.opened w.values.length, ∀ v, p.Takes w.named v → p.Takes w'.named v)
    (hadmits : ∀ name ∈ Named.keys w'.named, o.Admits w.values.length name) :
    o.Passes w' vs := by
  obtain ⟨hroom, -, hothers, hlast⟩ := h
  rw [← hvalues] at hroom hothers hadmits htakes ⊢
  refine .intro hroom hadmits ?_ ?_
  · exact forall₂_imp_of_mem hothers fun p hp v => htakes p (o.mem_opened.2 (.inl hp)) v
  · exact forall₂_imp_of_mem hlast fun p hp v => htakes p (o.mem_opened.2 (.inr hp)) v

theorem Passes.admits (h : o.Passes w vs) :
    ∀ name ∈ Named.keys w.named, o.Admits w.values.length name := by
  obtain ⟨-, hadmits, -, -⟩ := h
  exact hadmits

section Place

variable {count : Nat} {p : Parameter}

theorem drop_of_place (hplace : o.front[count]? = some p) :
    o.front.drop count = p :: o.front.drop (count + 1) := by
  obtain ⟨hlt, rfl⟩ := List.getElem?_eq_some_iff.1 hplace
  exact List.drop_eq_getElem_cons hlt

theorem mem_opened_of_place (hplace : o.front[count]? = some p) : p ∈ o.opened count :=
  o.mem_opened.2 (.inl (by rw [drop_of_place hplace]; exact List.mem_cons_self))

theorem name_ne_of_place (hplace : o.front[count]? = some p) {q : Parameter}
    (hq : q ∈ o.opened (count + 1)) : q.name ≠ p.name := by
  intro heq
  have hmem : p ∈ o.filled (count + 1) := by
    rw [filled, List.take_add_one, hplace]
    simp
  exact o.name_not_mem_filled hq (heq ▸ mem_names_of_mem hmem)

/-- One more value by position changes only where the name of its parameter leads. -/
theorem admits_succ (hplace : o.front[count]? = some p) {name : String} (hne : name ≠ p.name) :
    o.Admits (count + 1) name ↔ o.Admits count name := by
  have hnames : name ∈ names (o.opened count) ↔ name ∈ names (o.opened (count + 1)) := by
    rw [opened, opened, drop_of_place hplace, List.cons_append, names, List.map_cons,
      List.mem_cons, or_iff_right hne]
    rfl
  have htake : o.front.take (count + 1) = o.front.take count ++ [p] := by
    rw [List.take_add_one, hplace, Option.toList_some]
  have hplaced : (∀ q ∈ o.front.take (count + 1), q.kind = .positional → q.name ≠ name) ↔
      ∀ q ∈ o.front.take count, q.kind = .positional → q.name ≠ name := by
    rw [htake, List.forall_mem_append]
    refine and_iff_left fun q hq _ => ?_
    obtain rfl := List.mem_singleton.1 hq
    exact hne.symm
  rw [Admits, Admits, hnames, hplaced]

/-- The last value by position need not stand at its place if its parameter takes it anyway. -/
theorem passes_iff_of_place (hplace : o.front[w'.values.length]? = some p) {v : Value}
    (hvalues : w.values = w'.values ++ [v]) (htakes : p.Takes w'.named v)
    (hothers : ∀ q ∈ o.opened w.values.length, ∀ u, q.Takes w.named u ↔ q.Takes w'.named u)
    (hadmits : (∀ name ∈ Named.keys w.named, o.Admits w.values.length name) ↔
      ∀ name ∈ Named.keys w'.named, o.Admits w'.values.length name) :
    o.Passes w vs ↔ o.Passes w' vs := by
  have hlength : w.values.length = w'.values.length + 1 := by simp [hvalues]
  have hlt : w'.values.length < o.front.length := (List.getElem?_eq_some_iff.1 hplace).1
  have htake : w.values.take o.front.length = w'.values.take o.front.length ++ [v] := by
    rw [List.take_of_length_le (by omega), List.take_of_length_le (by omega), hvalues]
  have hdrop : w.values.drop o.front.length = w'.values.drop o.front.length := by
    rw [List.drop_of_length_le (by omega), List.drop_of_length_le (by omega)]
  have hfront := drop_of_place hplace
  rw [← hlength] at hfront
  constructor
  · rintro ⟨-, hnames, hfollowing, hlast⟩
    rename_i others last
    have hfollowing := forall₂_imp_of_mem hfollowing fun q hq u =>
      (hothers q (o.mem_opened.2 (.inl hq)) u).1
    have hlast := forall₂_imp_of_mem hlast fun q hq u =>
      (hothers q (o.mem_opened.2 (.inr hq)) u).1
    have hpassed : o.Passes w' _ := .intro (fun hmore => absurd hmore (by omega))
      (hadmits.1 hnames) (hfront ▸ List.Forall₂.cons htakes hfollowing) hlast
    rw [htake, hdrop]
    simpa using hpassed
  · rintro ⟨-, hnames, hfollowing, hlast⟩
    rw [hfront] at hfollowing
    cases hfollowing with
    | cons hfirst hfollowing =>
      rename_i u others
      -- the parameter takes only one value
      obtain rfl : u = v := Option.some.inj ((takes_iff.1 hfirst).symm.trans (takes_iff.1 htakes))
      have hfollowing := forall₂_imp_of_mem hfollowing fun q hq u =>
        (hothers q (o.mem_opened.2 (.inl hq)) u).2
      have hlast := forall₂_imp_of_mem hlast fun q hq u =>
        (hothers q (o.mem_opened.2 (.inr hq)) u).2
      have hpassed : o.Passes w _ := .intro (fun hmore => absurd hmore (by omega))
        (hadmits.2 hnames) hfollowing hlast
      rw [htake, hdrop] at hpassed
      simpa using hpassed

end Place

/-- A value by name that no other parameter takes can be left out. -/
theorem passes_iff_of_named {name : String} {v : Value} (hvalues : w'.values = w.values)
    (hnamed : w.named = (name, v) :: w'.named)
    (htakes : ∀ q ∈ o.opened w.values.length, ∀ u, q.Takes w.named u ↔ q.Takes w'.named u)
    (hadmits : o.Admits w.values.length name) : o.Passes w vs ↔ o.Passes w' vs := by
  have hkeys : Named.keys w.named = name :: Named.keys w'.named := by
    rw [hnamed]
    rfl
  constructor
  · intro h
    refine h.of_takes hvalues (fun q hq u => (htakes q hq u).1) fun key hkey => ?_
    exact h.admits key (by rw [hkeys]; exact List.mem_cons_of_mem _ hkey)
  · intro h
    have hothers := h.admits
    rw [hvalues] at hothers
    refine h.of_takes hvalues.symm (fun q hq u => ?_) fun key hkey => ?_
    · rw [hvalues] at hq
      exact (htakes q hq u).2
    · rw [hkeys, List.mem_cons] at hkey
      rw [hvalues]
      rcases hkey with rfl | hkey
      · exact hadmits
      · exact hothers key hkey

theorem not_mem_keys_of_cons {named : Named} {name : String} {v : Value}
    (hnamed : w.named = (name, v) :: named) : name ∉ Named.keys named := by
  have hnodup := w.nodup
  rw [hnamed] at hnodup
  exact (List.nodup_cons.1 hnodup).1

/-- A call that is written in another way passes the same. -/
theorem passes_iff_of_rewrites (h : o.Rewrites w w') : o.Passes w vs ↔ o.Passes w' vs := by
  cases h with
  | reorder values named =>
    have hkeys := named.map Prod.fst
    constructor
    · intro h
      exact h.of_takes values (fun p _ v => takes_of_perm named) fun name hname =>
        h.admits name (hkeys.mem_iff.2 hname)
    · intro h
      have hadmits := h.admits
      rw [values] at hadmits
      exact h.of_takes values.symm (fun p _ v => takes_of_perm named.symm) fun name hname => by
        rw [values]
        exact hadmits name (hkeys.mem_iff.1 hname)
  | @byName p v place kind values named =>
    have hfresh := not_mem_keys_of_cons named
    have hlength : w.values.length = w'.values.length + 1 := by simp [values]
    refine passes_iff_of_place place values ?_ ?_ ?_
    · exact .byName (by simp [kind]) (by rw [named]; exact List.mem_cons_self)
    · intro q hq u
      rw [hlength] at hq
      rw [named, takes_cons_iff (name_ne_of_place place hq)]
    · have hkeys : Named.keys w'.named = p.name :: Named.keys w.named := by
        rw [named]
        rfl
      rw [hkeys, List.forall_mem_cons, hlength,
        and_iff_right (.inl (mem_names_of_mem (mem_opened_of_place place)))]
      exact forall₂_congr fun name hname =>
        admits_succ place fun heq => hfresh (heq ▸ hname)
  | omitLast place default omitted values named =>
    have hlength : w.values.length = w'.values.length + 1 := by simp [values]
    refine passes_iff_of_place place values ?_ ?_ ?_
    · exact .byDefault (named ▸ omitted) default
    · exact fun q _ u => by rw [named]
    · rw [named, hlength]
      exact forall₂_congr fun name hname =>
        admits_succ place fun heq => omitted (heq ▸ hname)
  | @omitNamed p v mem kind default values named =>
    have htakes : p.Takes w.named v := .byName kind (by rw [named]; exact List.mem_cons_self)
    have htakes' : p.Takes w'.named v := .byDefault (not_mem_keys_of_cons named) default
    refine passes_iff_of_named values named (fun q hq u => ?_) (.inl (mem_names_of_mem mem))
    by_cases hname : q.name = p.name
    · obtain rfl := eq_of_name_eq hq mem hname
      rw [takes_iff, takes_iff, takes_iff.1 htakes, takes_iff.1 htakes']
    · rw [named, takes_cons_iff hname]
  | @omitRest name v rest stranger values named =>
    have hbears : ∀ q ∈ o.receiver :: (o.front ++ o.named), q.name ≠ name := fun q hq heq =>
      stranger (heq ▸ mem_names_of_mem hq)
    refine passes_iff_of_named values named (fun q hq u => ?_)
      (.inr ⟨rest, (hbears _ List.mem_cons_self).symm, fun q hq _ => hbears q ?_⟩)
    · rw [named, takes_cons_iff (hbears q (List.mem_cons_of_mem _ (List.mem_append.2 ?_)))]
      exact (o.mem_opened.1 hq).imp_left List.mem_of_mem_drop
    · exact List.mem_cons_of_mem _ (List.mem_append_left _ (List.mem_of_mem_take hq))

theorem passes_iff_of_rewritings (h : Relation.EqvGen o.Rewrites w w') :
    o.Passes w vs ↔ o.Passes w' vs := by
  induction h with
  | rel _ _ hstep => exact passes_iff_of_rewrites hstep
  | refl _ => exact Iff.rfl
  | symm _ _ _ ih => exact ih.symm
  | trans _ _ _ _ _ ih ih' => exact ih.trans ih'

end MethodSignature
end BoundUpdate
