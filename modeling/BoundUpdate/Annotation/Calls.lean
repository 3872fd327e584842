import BoundUpdate.Annotation.Functions

namespace BoundUpdate
namespace Annotation

/-!
# Calls

A call binds arguments to parameters and runs a function, makes an instance of
a class, or is refused by what is called.
-/

/-- Whether an expression hands out values while it runs, which makes a generator of the function
around it; `fuel` bounds its nesting. -/
def handsOut : (fuel : Nat) → Expression → Bool
  | 0, _ => false
  | fuel + 1, e =>
    match e with
    | .yielded _ => true
    | .lambda parameters _ => parameters.defaults.any fun entry => handsOut fuel entry.2
    | .assigned _ value => handsOut fuel value
    | .comprehension _ _ (c :: _) => handsOut fuel c.source
    | .dictComprehension _ _ (c :: _) => handsOut fuel c.source
    | e => e.parts.any (handsOut fuel)

namespace Arguments

/-- The values of positional parameters: arguments in their places, then named ones, then
defaults. -/
def valueOf (name : String) (isNamed : Bool) (a : Arguments) (defaults : List (String × Meaning)) :
    Evaluated Meaning :=
  match if isNamed then a.named.lookup name else none, defaults.lookup name with
  | some m, _ => .ok m
  | none, some m => .ok m
  | none, none => Evaluated.misfit ("missing required argument: " ++ Text.quote name)

/-- The names of a function's frame for a call. -/
def names (p : Parameters Expression) (defaults : List (String × Meaning)) (a : Arguments) :
    Evaluated (List (String × Meaning)) := do
  let places := p.positional.map Prod.fst
  let filled := places.zip a.positional
  let open? := (places.drop filled.length)
  let nameable := (places.drop p.unnamed) ++ p.named.map Prod.fst
  let surplus := a.positional.drop places.length
  let others := a.named.filter fun e => !nameable.contains e.1
  if !surplus.isEmpty && p.rest.isNone then Evaluated.misfit "too many arguments"
  else if !others.isEmpty && p.others.isNone then Evaluated.misfit "unexpected keyword argument"
  else if a.named.any fun e => nameable.contains e.1 && filled.any fun f => f.1 == e.1 then
    Evaluated.misfit "multiple values for argument"
  else
    let rest ← open?.mapM fun name => do
      return (name, ← valueOf name (nameable.contains name) a defaults)
    let named ← p.named.mapM fun (name, _) => do return (name, ← valueOf name true a defaults)
    let gathered := (p.rest.map fun name => (name, Meaning.tuple surplus)).toList ++
      (p.others.map fun name =>
        (name, Meaning.dict "dict" (others.map fun e => (.text e.1, e.2)))).toList
    return filled ++ rest ++ named ++ gathered

end Arguments

namespace Machine

/-- An instance of a class. -/
def construct (k : Machine) (c : Meaning) (a : Arguments) : Evaluation Meaning :=
  match c with
  | .type name => Construction.ofCatalogue k name a
  | .made .. => Construction.ofMade k c a
  | .unknown => return .unknown
  | c => k.call c a

/-- The result of a function that an expression made. -/
def run (k : Machine) (p : Parameters Expression) (defaults : List (String × Meaning))
    (body : Expression) (captured : List (String × Meaning)) (a : Arguments) :
    Evaluation Meaning := do
  let names ← a.names p defaults
  if handsOut 100 body then return Meaning.instanceOf "generator" []
  else
    Evaluation.within
      [{ isComprehension := false, names }, { isComprehension := false, names := captured }]
      (k.enter body)

/-- The result of an object that can be called. -/
def callObject (k : Machine) (c : Meaning) (contents : List Meaning) (a : Arguments) :
    Evaluation Meaning := do
  match c.fullName, contents with
  | "functools.partial", [f, .tuple first, .dict _ named] =>
    let given := named.filterMap fun (key, v) => key.text?.map fun name => (name, v)
    let kept := given.filter fun e => (a.named.lookup e.1).isNone
    k.call f { positional := first ++ a.positional, named := kept ++ a.named }
  | "operator.itemgetter", [key] =>
    match a.positional with
    | [m] => return (← Meaning.subscripted m key)
    | _ => Evaluated.misfit "itemgetter expected 1 argument"
  | "operator.itemgetter", keys =>
    match a.positional with
    | [m] => return .tuple (← keys.mapM fun key => (Meaning.subscripted m key : Evaluated Meaning))
    | _ => Evaluated.misfit "itemgetter expected 1 argument"
  | "operator.attrgetter", [.text path] =>
    match a.positional with
    | [m] =>
      return (← (Text.splitOn '.' path.toList).foldlM
        (fun m name => (Meaning.memberOf m (String.ofList name) : Evaluated Meaning)) m)
    | _ => Evaluated.misfit "attrgetter expected 1 argument"
  | "operator.methodcaller", [.text name, .tuple first, .dict _ named] =>
    match a.positional with
    | [m] =>
      let given := named.filterMap fun (key, v) => key.text?.map fun name => (name, v)
      k.call (← m.memberOf name) { positional := first, named := given }
    | _ => Evaluated.misfit "methodcaller expected 1 argument"
  | _, _ =>
    match c.madeMember? "__call__" with
    | some f => k.call f { a with positional := .object c contents :: a.positional }
    | none =>
      if c.hasMember "__call__" then return .unknown
      else Evaluated.misfit "object is not callable"

/-- The failure of a template that makes no instances. -/
def notMade (name : String) (origin : Meaning) : Evaluation Meaning :=
  Evaluated.refused ("Type " ++ name ++ " cannot be instantiated; use " ++ origin.className ++
    "() instead")

/-- An instance of the class that a template stands for, if it makes any. -/
def fromTemplate (k : Machine) (name : String) (a : Arguments) : Evaluation Meaning :=
  match Template.find? name with
  | some t => if t.isMade then k.construct (.type t.origin) a else notMade name (.type t.origin)
  | none => return .unknown

/-- The members of classes that hold values of instances and are no functions. -/
def heldMembers : List String :=
  ["real", "imag", "numerator", "denominator", "start", "stop", "step", "args", "maxlen",
   "default_factory", "fget", "fset", "fdel", "gi_frame", "gi_running", "gi_code", "gi_yieldfrom",
   "__cause__", "__context__", "__traceback__", "__suppress_context__", "__objclass__", "__self__",
   "__code__", "__defaults__", "__globals__", "__kwdefaults__", "__closure__"]

/-- The result of a function of a class for the instance among the arguments. -/
def callUnbound (k : Machine) (kind name : String) (a : Arguments) : Evaluation Meaning :=
  match a.positional with
  | m :: rest =>
    if heldMembers.contains name then Evaluated.misfit "object is not callable"
    else if kind = "object" ∨ m.isA kind ∨ (m matches .unknown) then
      Method.call k m name { a with positional := rest }
    else Evaluated.misfit "descriptor does not apply to this object"
  | [] => Evaluated.misfit "unbound method needs an argument"

/-- The result of a call. -/
def callOf (k : Machine) (m : Meaning) (a : Arguments) : Evaluation Meaning :=
  match m with
  | .unknown => return .unknown
  | .type _ => k.construct m a
  | .made .. => k.construct m a
  | .lambda p defaults body captured => k.run p defaults body captured a
  | .routine name => Routine.call k name a
  | .method receiver name => Method.call k receiver name a
  | .unbound kind name => k.callUnbound kind name a
  | .generic origin _ _ => k.construct origin a
  | .annotated inner _ => k.call inner a
  | .applied _ origin given _ =>
    match given with
    | some name =>
      if (Template.find? name).isSome then k.fromTemplate name a else k.call origin a
    | none => k.call origin a
  | .template name => k.fromTemplate name a
  | .form _ => Evaluated.refused ("Cannot instantiate " ++ m.shown)
  | .newType _ _ =>
    match a.positional, a.named with
    | [m], [] => return m
    | _, _ => Evaluated.misfit "takes 1 positional argument"
  | .object c contents => k.callObject c contents a
  | _ => Evaluated.misfit "object is not callable"

end Machine
end Annotation
end BoundUpdate
