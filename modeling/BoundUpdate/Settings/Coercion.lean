import BoundUpdate.Text.Blank
import BoundUpdate.Text.Identifier
import BoundUpdate.Text.LetterCase
import BoundUpdate.Text.Split
import BoundUpdate.Value.Dictionary
import BoundUpdate.Value.Integral

namespace BoundUpdate
namespace Coercion

/-!
# Settings of a fixed type

Files and variables give settings as texts, numbers or truth values.  A truth
value is told by a word or a digit in any letter case, an integer by anything
with an integral value, and prefixes by a list of names or by names between
commas.
-/

/-- The words for true. -/
def trueWords : List String := ["1", "true", "yes", "on"]

/-- The words for false; an empty text is one. -/
def falseWords : List String := ["0", "false", "no", "off", ""]

/-- The word that a text spells: the text without blanks around it, in lower case. -/
def wordOf (s : String) : String := String.ofList (Text.lower (Text.trim s.toList))

/-- The truth value of a setting. -/
def toBool (v : Value) (name : String) : Except Failure Bool :=
  match v with
  | .bool b => .ok b
  | v => do
    let word := wordOf (← v.plain?)
    if trueWords.contains word then return true
    else if falseWords.contains word then return false
    else throw (v.failShowing fun text => .configuration (.invalidBoolean name text))

/-- The integer of a setting. -/
def toInt (v : Value) (name : String) : Except Failure Int :=
  match v.integral with
  | .ok n => .ok n
  | .error failure =>
    if failure.kind = .wrongType ∨ failure.kind.isInvalidValue then
      .error (v.failShowing fun text =>
        .configuration (.invalidInteger name text failure.toCause))
    else .error failure

/-- The names between the commas of a text; blank ones are dropped. -/
def commaNames (s : List Char) : List Value :=
  ((Text.splitOn ',' s).map Text.trim).filterMap fun name =>
    if name.isEmpty then none else some (.text (String.ofList name))

/-- Whether a value is a name. -/
def isName (v : Value) : Bool :=
  match v.text? with
  | some s => Text.isIdentifier s.toList
  | none => false

/-- The prefixes of a setting, as they are given. -/
def toPrefixes (v : Value) : Except Failure (List Value) :=
  let v := match v.text? with
    | some s => Value.list (commaNames s.toList)
    | none => v
  do
    let items ← v.toItems
    if items.isEmpty || !items.all isName then
      throw (v.failShowing fun text => .configuration (.invalidPrefixes text))
    else return items

end Coercion
end BoundUpdate
