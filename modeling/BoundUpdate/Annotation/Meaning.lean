import BoundUpdate.Annotation.Expression

namespace BoundUpdate
namespace Annotation

/-!
# What annotations mean

An annotation means a type, a type applied to parameters, alternatives of types
or something that is no type at all.  Texts among the parameters refer to types
by expressions that are evaluated later; remarks on a type may be any values.
-/

/-- How a word of the language is applied to parameters. -/
inductive Application where
  /-- A template or class applied to its parameters. -/
  | plain
  /-- The template of functions; the last parameter is the type of the result. -/
  | function
  /-- Alternatives. -/
  | union
  /-- Values that are spelled out. -/
  | literal
  /-- Parameters in front of others. -/
  | concatenated
  /-- The items of a type in the place of one parameter. -/
  | unpacked
  deriving DecidableEq, Repr

/-- What a type variable stands for. -/
inductive VariableKind where
  | type
  | parameters
  | types
  deriving DecidableEq, Repr

/-- What an expression means. -/
inductive Meaning where
  | nothing
  | unimplemented
  | ellipsis
  | truth (b : Bool)
  | integer (n : Int)
  | real (x : Number.Binary64)
  | complex (real imaginary : Number.Binary64)
  /-- A text; as a type, an expression that is evaluated later. -/
  | text (s : String)
  | bytes (bs : List UInt8) (isMutable : Bool)
  | tuple (items : List Meaning)
  | list (items : List Meaning)
  | set (items : List Meaning) (isFrozen : Bool)
  /-- A dictionary of a class. -/
  | dict (type : String) (entries : List (Meaning × Meaning))
  | slice (start stop step : Meaning)
  | range (start stop step : Int)
  /-- A class of the catalogue. -/
  | type (name : String)
  /-- A class that an expression makes. -/
  | made (name : String) (bases : List Meaning) (members : List (String × Meaning))
  /-- A word of the language that is no class. -/
  | form (name : String)
  /-- A template of the library of templates. -/
  | template (name : String)
  /-- A class applied to parameters, which may be any values. -/
  | generic (origin : Meaning) (parameters : List Meaning) (isUnpacked : Bool)
  /-- A template, word or class applied to parameters that are types. -/
  | applied (style : Application) (origin : Meaning) (name : Option String)
      (parameters : List Meaning)
  /-- Alternatives between bars. -/
  | barred (alternatives : List Meaning)
  /-- A type with remarks. -/
  | annotated (inner : Meaning) (remarks : List Meaning)
  /-- A reference to a type by an expression. -/
  | reference (s : String)
  | variable (kind : VariableKind) (name : String) (variance : Char) (bound : Meaning)
      (constraints : List Meaning)
  /-- A type of another name. -/
  | newType (name : String) (base : Meaning)
  /-- A group of names that are looked up as members. -/
  | library (name : String)
  /-- A function by its name. -/
  | routine (name : String)
  /-- A function of a class together with the value it was read from. -/
  | method (receiver : Meaning) (name : String)
  /-- A function of a class without a value. -/
  | unbound (type name : String)
  /-- A function that an expression makes, with the names around it. -/
  | lambda (parameters : Parameters Expression) (defaults : List (String × Meaning))
      (body : Expression) (captured : List (String × Meaning))
  /-- Items that are computed when they are asked for; the first source is known. -/
  | generator (item : Expression) (clauses : List (Clause Expression)) (source : Meaning)
      (captured : List (String × Meaning))
  /-- An instance of a class, with the values it was made from. -/
  | object (type : Meaning) (contents : List Meaning)
  /-- A value of which nothing is known. -/
  | unknown

instance : Inhabited Meaning := ⟨.unknown⟩

namespace Meaning

/-- The type of nothing. -/
def nothingType : Meaning := .type "NoneType"

/-- An instance of a class of the catalogue. -/
def instanceOf (type : String) (contents : List Meaning) : Meaning := .object (.type type) contents

/-- The integer that a value is: an integer or a truth value. -/
def integer? : Meaning → Option Int
  | .integer n => some n
  | .truth b => some (if b then 1 else 0)
  | _ => none

/-- The text that a value is. -/
def text? : Meaning → Option String
  | .text s => some s
  | _ => none

/-- The items of a tuple; any other value alone. -/
def asTuple : Meaning → List Meaning
  | .tuple items => items
  | m => [m]

/-- Whether a value is the type of nothing. -/
def isNothingType : Meaning → Bool
  | .type name => name == "NoneType"
  | _ => false

/-- Whether a value is a text. -/
def isText (m : Meaning) : Bool := m.text?.isSome

end Meaning
end Annotation
end BoundUpdate
