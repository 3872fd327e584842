import BoundUpdate.Proofs.Declaration.Modes
import BoundUpdate.Proofs.Declaration.Rewriting
import BoundUpdate.Query

namespace BoundUpdate

/-!
# Arguments of a method call

A query runs a declared method with one argument for every parameter in order,
however the call is written: what a call passes is the list of arguments.
-/

namespace MethodDeclaration

variable {declaration : MethodDeclaration} {before after : Activity} {m : DeclaredMethod}

/-- Declaring a method declares its update, with the arity of its signature, and notes more than
that does. -/
theorem exists_build_of_declare (h : declaration.declare before = (.ok m, after)) :
    m.signature = declaration.signature ∧
      ∃ request start built, Spec.build request start = (.ok m.spec, built) ∧
        request.arity = (declaration.signature.arity.map fun (n : Nat) => Value.int n).getD .none ∧
        built.journal ⊆ after.journal := by
  obtain ⟨keys, _, -, h⟩ := Act.exists_of_bind_run_ok h
  obtain ⟨shape, _, -, h⟩ := Act.exists_of_bind_run_ok h
  obtain ⟨keyColumns, _, -, h⟩ := Act.exists_of_bind_run_ok h
  obtain ⟨sql, _, -, h⟩ := Act.exists_of_bind_run_ok h
  obtain ⟨spec, built, hspec, h⟩ := Act.exists_of_bind_run_ok h
  obtain ⟨_, _, hnote, h⟩ := Act.exists_of_bind_run_ok h
  cases h
  cases hnote
  exact ⟨rfl, _, _, built, hspec, rfl, List.subset_append_left _ _⟩

/-- A method that was declared has the declared signature, whose arity the update tells. -/
theorem signature_of_declare (h : declaration.declare before = (.ok m, after)) :
    m.signature = declaration.signature ∧
      m.spec.arity = (declaration.signature.arity.map fun (n : Nat) => Value.int n).getD .none := by
  obtain ⟨hsignature, request, start, built, hbuild, harity, -⟩ := exists_build_of_declare h
  exact ⟨hsignature, (Spec.arity_of_build (congrArg Prod.fst hbuild)).trans harity⟩

end MethodDeclaration

namespace Query

open Signature

variable {o : MethodSignature} {w : WrittenCall} {vs : List Value} {q : Query} {m : DeclaredMethod}

/-- A call runs the method on what it passes. -/
theorem call_of_passes (hm : m.signature = o.signature) (hself : o.receiver.name = receiverName)
    (h : o.Passes w vs) : q.call m w.values w.named = q.run m.spec vs := by
  obtain ⟨harguments, habsent⟩ := (o.argumentsOf_eq_ok_iff (.other q.typeName) w).2 h
  have hgiven : ¬isGiven w.named receiverName = true := by
    rwa [Named.isGiven_iff_mem, ← hself]
  rw [call, if_neg hgiven, hm, harguments]

/-- A call that passes nothing fails as one with wrong types, and does nothing. -/
theorem call_of_not_passes (hm : m.signature = o.signature)
    (hself : o.receiver.name = receiverName) (h : ∀ vs, ¬o.Passes w vs) :
    ∃ failure, failure.kind = .wrongType ∧
      q.call m w.values w.named = pure (q, .error failure) := by
  unfold call
  split
  · exact ⟨_, rfl, rfl⟩
  · rename_i hgiven
    rw [Named.isGiven_iff_mem, ← hself] at hgiven
    cases harguments : m.signature.argumentsOf (.other q.typeName) w.values w.named with
    | error failure => exact ⟨failure, misfits_argumentsOf _ _ _ _ failure harguments, rfl⟩
    | ok vs =>
      rw [hm] at harguments
      exact absurd ((o.argumentsOf_eq_ok_iff _ w).1 ⟨harguments, hgiven⟩) (h vs)

/-- A declared method that takes itself first runs on the values that a call passes, in the order of
its parameters, and tells their number if it has no parameter that takes any number of values.  A
call that is written in another way is the same call, and a call that passes nothing is refused. -/
theorem call_declared {declaration : MethodDeclaration} {before after : Activity}
    (hdeclare : declaration.declare before = (.ok m, after))
    (hsignature : declaration.signature = o.signature)
    (hself : o.receiver.name = receiverName) (q : Query) (w : WrittenCall) :
    (∀ vs, o.Passes w vs →
      q.call m w.values w.named = q.run m.spec vs ∧
      (o.surplus = none → o.rest = none → m.spec.arity = .int vs.length) ∧
      ∀ w', Relation.EqvGen o.Rewrites w w' →
        o.Passes w' vs ∧ q.call m w'.values w'.named = q.call m w.values w.named) ∧
    ((∀ vs, ¬o.Passes w vs) → ∃ failure, failure.kind = .wrongType ∧
      q.call m w.values w.named = pure (q, .error failure)) := by
  obtain ⟨hm, harity⟩ := MethodDeclaration.signature_of_declare hdeclare
  rw [hsignature] at hm harity
  refine ⟨fun vs hpasses => ?_, fun hnone => call_of_not_passes hm hself hnone⟩
  have hcall := call_of_passes (q := q) hm hself hpasses
  refine ⟨hcall, fun hsurplus hrest => ?_, fun w' hrewritings => ?_⟩
  · rw [harity, hpasses.arity_eq hsurplus hrest]
    rfl
  · have hpasses' := (MethodSignature.passes_iff_of_rewritings hrewritings).1 hpasses
    exact ⟨hpasses', (call_of_passes hm hself hpasses').trans hcall.symm⟩

/-- The second of three values is given by name, or left out as it is the default. -/
theorem call_declared_in_three_ways :
    let declaration : MethodDeclaration :=
      { name := "add", qualifiedName := "Add.add"
        signature := [{ name := "self" }, { name := "a", kind := .positionalOnly },
          { name := "b", default? := some (.int 2) }, { name := "c", kind := .namedOnly }]
        sql := .text "VALUES (?1, ?2, ?3)" }
    ∃ m, (declaration.declare {}).1 = .ok m ∧ m.spec.arity = .int 3 ∧ ∀ q : Query,
      q.call m [.int 1, .int 2] [("c", .int 3)] = q.run m.spec [.int 1, .int 2, .int 3] ∧
      q.call m [.int 1] [("b", .int 2), ("c", .int 3)] =
        q.call m [.int 1, .int 2] [("c", .int 3)] ∧
      q.call m [.int 1] [("c", .int 3)] = q.call m [.int 1, .int 2] [("c", .int 3)] := by
  intro declaration
  obtain ⟨m, hdeclare⟩ : ∃ m, (declaration.declare {}).1 = .ok m :=
    exists_of_isOk (by decide +kernel)
  let o : MethodSignature :=
    { receiver := { name := "self" }
      front :=
        [{ name := "a", kind := .positionalOnly }, { name := "b", default? := some (.int 2) }]
      named := [{ name := "c", kind := .namedOnly }]
      receiver_positional := .inr rfl
      front_positional := by simp [Parameter.IsPositional]
      surplus_kind := by simp
      named_kind := by simp
      rest_kind := by simp
      nodup := by decide }
  let w : WrittenCall :=
    { values := [.int 1, .int 2], named := [("c", .int 3)], nodup := by decide }
  let byName : WrittenCall :=
    { values := [.int 1], named := [("b", .int 2), ("c", .int 3)], nodup := by decide }
  let omitted : WrittenCall := { values := [.int 1], named := [("c", .int 3)], nodup := by decide }
  have hadmits : ∀ name ∈ Named.keys w.named, o.Admits w.values.length name := by
    intro name hname
    obtain rfl := List.mem_singleton.1 hname
    exact .inl (by decide)
  have hlast : List.Forall₂ (Parameter.Takes w.named) o.named [.int 3] :=
    .cons (.byName (by decide) (List.mem_singleton.2 rfl)) .nil
  have hpasses : o.Passes w [.int 1, .int 2, .int 3] :=
    .intro (fun hmore => absurd hmore (by decide)) hadmits .nil hlast
  have hcall := fun q =>
    (call_declared (o := o) (Prod.ext hdeclare rfl) rfl rfl q w).1 _ hpasses
  refine ⟨m, hdeclare, (hcall { typeName := "Add" }).2.1 rfl rfl, fun q => ?_⟩
  obtain ⟨hrun, -, hways⟩ := hcall q
  have hnamed : o.Rewrites w byName := .byName rfl rfl rfl rfl
  have homitted : o.Rewrites w omitted := .omitLast rfl rfl (by decide) rfl rfl
  exact ⟨hrun, (hways byName (.rel _ _ hnamed)).2, (hways omitted (.rel _ _ homitted)).2⟩

end Query
end BoundUpdate
