import BoundUpdate.Declaration.Inference
import BoundUpdate.Declaration.Signature

namespace BoundUpdate

/-!
# Declared methods

A method is declared with a statement and modes.  Its signature tells how many
arguments the statement gets, and its return annotation what a call returns,
unless the declaration says so.
-/

/-- A method and what is declared about it. -/
structure MethodDeclaration where
  name : String
  qualifiedName : String
  signature : Signature
  /-- The annotations of parameters. -/
  parameterAnnotations : List String := []
  returnAnnotation : Option Annotation.Note := none
  sql : Value := .none
  batch : Value := .bool false
  keys : Value := .text KeyRequest.none.word
  /-- The chosen return shape; nothing when the annotation decides. -/
  returns : Value := .none
  bindings : List ConverterEntry := []
  keyColumns : Value := .tuple []

/-- A declared method. -/
structure DeclaredMethod where
  name : String
  qualifiedName : String
  signature : Signature
  spec : Spec

namespace MethodDeclaration

/-- The return shape of a method. -/
def shape (m : MethodDeclaration) (keys : KeyRequest) : Except Failure ReturnShape :=
  match m.returns with
  | .none => do
    let wish ← ReturnWish.ofAnnotation m.returnAnnotation m.parameterAnnotations
    ReturnShape.ofWish? wish m.batch keys
  | v => ReturnShape.ofValue v

/-- Declare a method. -/
def declare (m : MethodDeclaration) : Act DeclaredMethod := do
  let keys ← Act.ofExcept (KeyRequest.ofValue m.keys)
  let shape ← Act.ofExcept (m.shape keys)
  let keyColumns ← Act.ofExcept (Spec.itemsOf m.keyColumns)
  let sql ← Act.ofExcept (m.sql.orElse (.text ""))
  let spec ← Spec.build
    { sql
      batch := m.batch
      keys := .text keys.word
      returns := .text shape.word
      bindings := m.bindings
      keyColumns := .tuple keyColumns
      arity := (m.signature.arity.map fun (n : Nat) => Value.int n).getD .none
      label := some (.text m.qualifiedName) }
  Act.note .debug .query
    ("Registered update query " ++ m.qualifiedName ++ ": " ++ spec.told)
  return { name := m.name, qualifiedName := m.qualifiedName, signature := m.signature, spec }

end MethodDeclaration
end BoundUpdate
