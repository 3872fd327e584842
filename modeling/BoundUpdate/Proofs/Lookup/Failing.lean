import BoundUpdate.Lookup.Path
import BoundUpdate.Proofs.Lookup.Reading

namespace BoundUpdate
namespace Lookup

/-!
# Why a lookup fails

A member is looked up by reading attributes and calling accessors.  An ordinary
failure of a call is reported as a failure of binding, which has the failure as
its cause.  A failure of reading, of an attribute, of the class that a value
tells or of the key of an object that tells that it is a mapping, is not
reported: unless it is that the attribute is missing, it leaves the lookup as it
is.
-/

variable {convention : AccessorConvention} {target : Value} {name : String} {failure : Failure}

/-- The failures of reading a value while one of its members is looked up. -/
inductive FailsToRead (convention : AccessorConvention) (target : Value) (name : String)
    (failure : Failure) : Prop
  /-- The value is asked for its class, which tells whether it is a mapping. -/
  | class : MayFail (tellsMapping target) failure → FailsToRead convention target name failure
  /-- It tells that it is one, and is asked for the key. -/
  | key : MayGive (tellsMapping target) true → MayFail (keyed? target name) failure →
      FailsToRead convention target name failure
  /-- What is found under the member's own name is asked whether it is a method. -/
  | method {found : Attribute} :
      MayGive (readAttribute target name) found → MayFail (fieldOf? found) failure →
      FailsToRead convention target name failure
  /-- The member's own name is read, and the names of its accessors. -/
  | attribute {read : String} :
      read = name ∨ read ∈ convention.accessorNames name →
      MayFail (readAttribute target read) failure → failure.kind ≠ .missingAttribute →
      FailsToRead convention target name failure

/-- The failures of binding that a lookup of a member reports. -/
inductive MemberFault (convention : AccessorConvention) (target : Value) (name : String) :
    BindingFault → Prop
  /-- There is no field, and no accessor that can be called. -/
  | noMember : MemberFault convention target name
      (.noMember name target.typeName (convention.accessorNames name))
  /-- An accessor was called, and what it raised is the cause. -/
  | accessorFailed {accessor : String} {found : Attribute} {call : Probe Value}
      {raised : Failure} :
      accessor ∈ convention.accessorNames name →
      MayGive (readAttribute target accessor) found → callAttribute? found [] = some call →
      MayFail call raised →
      MemberFault convention target name
        (.accessorFailed target.typeName accessor raised.toCause)

/-! ## Reading -/

theorem failsOutside_keyed (target : Value) (name : String) :
    FailsOutside (keyed? target name) := by
  refine (failsOutside_holds _ _).bind fun held => ?_
  split
  · exact (failsOutside_itemOf _ _).map _
  · exact failsOutside_pure _

theorem failsOutside_fieldOf (found : Attribute) : FailsOutside (fieldOf? found) := by
  unfold fieldOf?
  split
  · exact failsOutside_pure _
  · refine (failsOutside_tells _ _).bind fun isMethod => ?_
    split
    · exact failsOutside_pure _
    · refine (failsOutside_tells _ _).bind fun isBuiltin => ?_
      split <;> exact failsOutside_pure _

/-- A failure of reading is not one that the library made. -/
theorem FailsToRead.outside (h : FailsToRead convention target name failure) :
    IsOutside failure := by
  rcases h with h | ⟨-, h⟩ | ⟨-, h⟩ | ⟨-, h, -⟩
  · exact failsOutside_tellsMapping target failure h
  · exact failsOutside_keyed target name failure h
  · exact failsOutside_fieldOf _ failure h
  · exact failsOutside_readAttribute target _ failure h

/-! ## Members -/

theorem mayFail_of_unlessMissing {α : Type} {x : Probe α}
    (h : MayFail (unlessMissing x) failure) :
    MayFail x failure ∧ failure.kind ≠ .missingAttribute := by
  rcases h.cases_of_probe_attempt with ⟨a, -, hgiven⟩ | ⟨raised, hraised, hfailed⟩
  · exact absurd hgiven (not_mayFail_pure _)
  · dsimp only at hfailed
    split at hfailed
    · exact absurd hfailed (not_mayFail_pure _)
    next hkind =>
      obtain rfl := hfailed.eq_of_throw
      exact ⟨hraised, hkind⟩

theorem mayGive_of_unlessMissing {α : Type} {x : Probe α} {a : α}
    (h : MayGive (unlessMissing x) (some a)) : MayGive x a := by
  rcases h.cases_of_probe_attempt with ⟨b, hb, hsome⟩ | ⟨raised, -, hnone⟩
  · obtain rfl := Option.some.inj hsome.eq_of_pure
    exact hb
  · dsimp only at hnone
    split at hnone
    · cases hnone.eq_of_pure
    · exact absurd hnone not_mayGive_throw

theorem failsToRead_of_field (h : MayFail (field? target name) failure) :
    FailsToRead convention target name failure := by
  unfold field? at h
  split at h
  · exact absurd h (not_mayFail_pure _)
  · rcases h.cases_of_bind with hclass | ⟨isMapping, htold, h⟩
    · exact .class hclass
    · split at h
      next hmapping => exact .key (hmapping ▸ htold) h
      next =>
        rcases h.cases_of_bind with hread | ⟨found, hfound, h⟩
        · obtain ⟨hread, hkind⟩ := mayFail_of_unlessMissing hread
          exact .attribute (.inl rfl) hread hkind
        · cases found with
          | none => exact absurd h (not_mayFail_pure _)
          | some found => exact .method (mayGive_of_unlessMissing hfound) h

/-- An ordinary failure of an accessor is the cause of the one that is reported. -/
theorem of_mayFail_callAccessor {accessor : String} {call : Probe Value}
    (h : MayFail (callAccessor target accessor call) failure)
    (hordinary : failure.isOrdinary = true) :
    ∃ raised, MayFail call raised ∧
      failure = .binding (.accessorFailed target.typeName accessor raised.toCause) := by
  rcases h.cases_of_probe_attempt with ⟨v, -, hgiven⟩ | ⟨raised, hraised, hfailed⟩
  · exact absurd hgiven (not_mayFail_pure _)
  · dsimp only at hfailed
    split at hfailed
    · exact ⟨raised, hraised, hfailed.eq_of_throw⟩
    next hinterrupt =>
      obtain rfl := hfailed.eq_of_throw
      exact absurd hordinary hinterrupt

theorem of_mayFail_accessor {accessors : List String}
    (hconvention : ∀ accessor ∈ accessors, accessor ∈ convention.accessorNames name)
    (h : MayFail (accessor? target accessors) failure) (hordinary : failure.isOrdinary = true) :
    FailsToRead convention target name failure ∨
      ∃ fault, failure = .binding fault ∧ MemberFault convention target name fault := by
  induction accessors with
  | nil => exact absurd h (not_mayFail_pure _)
  | cons accessor rest ih =>
    have hfirst := hconvention accessor List.mem_cons_self
    have hrest := ih fun other hother => hconvention other (List.mem_cons_of_mem _ hother)
    rcases h.cases_of_bind with hread | ⟨found, hfound, h⟩
    · obtain ⟨hread, hkind⟩ := mayFail_of_unlessMissing hread
      exact .inl (.attribute (.inr hfirst) hread hkind)
    · cases found with
      | none => exact hrest h
      | some found =>
        dsimp only at h
        split at h
        · -- what cannot be called is passed over like what is missing
          exact hrest h
        next call hcall =>
          obtain ⟨raised, hraised, hfailure⟩ := of_mayFail_callAccessor h.of_map hordinary
          exact .inr ⟨_, hfailure,
            .accessorFailed hfirst (mayGive_of_unlessMissing hfound) hcall hraised⟩

/-- An ordinary failure of a lookup is one of reading, or it is reported. -/
theorem of_mayFail_member (h : MayFail (member target name convention) failure)
    (hordinary : failure.isOrdinary = true) :
    FailsToRead convention target name failure ∨
      ∃ fault, failure = .binding fault ∧ MemberFault convention target name fault := by
  rcases h.cases_of_bind with hfield | ⟨found, -, h⟩
  · exact .inl (failsToRead_of_field hfield)
  · cases found with
    | some v => exact absurd h (not_mayFail_pure v)
    | none =>
      rcases h.cases_of_bind with haccessor | ⟨answer, -, h⟩
      · exact of_mayFail_accessor (fun _ haccessor => haccessor) haccessor hordinary
      · cases answer with
        | some v => exact absurd h (not_mayFail_pure v)
        | none => exact .inr ⟨_, h.eq_of_throw, .noMember⟩

/-! ## Paths -/

/-- A member that is looked up on the way from a value along a path: the value it is looked up in,
and its name.  Nothing is looked up in nothing. -/
inductive OnTheWay (convention : AccessorConvention) :
    Value → List String → Value → String → Prop
  | here {v : Value} {name : String} {rest : List String} :
      v ≠ .none → OnTheWay convention v (name :: rest) v name
  | further {v next target : Value} {name wanted : String} {rest : List String} :
      v ≠ .none → MayGive (member v name convention) next →
      OnTheWay convention next rest target wanted →
      OnTheWay convention v (name :: rest) target wanted

theorem mayFail_noteUnresolved {described : String} {given : Failure} :
    ¬ MayFail (noteUnresolved described given) failure := by
  unfold noteUnresolved
  split
  · rintro ⟨activity, after, h⟩
    cases h
  · exact not_mayFail_pure _

/-- Following a path fails as looking up a member on the way does. -/
theorem of_mayFail_follow {described : String} {v : Value} {path : List String}
    (h : MayFail (follow convention described v path) failure) :
    ∃ target name, OnTheWay convention v path target name ∧
      MayFail (member target name convention) failure := by
  induction path generalizing v with
  | nil => exact absurd h (not_mayFail_pure v)
  | cons name rest ih =>
    unfold follow at h
    split at h
    · exact absurd h (not_mayFail_pure _)
    next hv =>
      rcases h.cases_of_attempt with ⟨next, hnext, h⟩ | ⟨raised, hraised, h⟩
      · obtain ⟨target, wanted, hway, hfailed⟩ := ih h
        exact ⟨target, wanted, .further hv hnext.of_probe hway, hfailed⟩
      · rcases h.cases_of_bind with hnote | ⟨-, -, hthrow⟩
        · exact absurd hnote mayFail_noteUnresolved
        · obtain rfl := hthrow.eq_of_throw
          exact ⟨v, name, .here hv, hraised.of_probe⟩

/-- A placeholder without an argument is reported; with one, its path is followed. -/
theorem of_mayFail_resolve {p : Placeholder} {arguments : List Value}
    (h : MayFail (resolve convention p arguments) failure) :
    (argument? p arguments = none ∧ failure = .binding
      (.argumentMissing p.describe (Number.intText p.index) arguments.length)) ∨
    ∃ v target name, argument? p arguments = some v ∧ OnTheWay convention v p.path target name ∧
      MayFail (member target name convention) failure := by
  unfold resolve at h
  split at h
  next v hargument =>
    obtain ⟨target, name, hway, hfailed⟩ := of_mayFail_follow h
    exact .inr ⟨v, target, name, hargument, hway, hfailed⟩
  next hargument => exact .inl ⟨hargument, h.eq_of_throw⟩

end Lookup
end BoundUpdate
