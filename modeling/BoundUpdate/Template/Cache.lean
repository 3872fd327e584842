import BoundUpdate.Activity.Basic
import BoundUpdate.Template.Reader
import BoundUpdate.Value.Display
import BoundUpdate.Value.Equality

namespace BoundUpdate
namespace Template

/-!
# Cached templates

A template text is read once; the template is kept until the cache is cleared.
A text that cannot be read is not kept, so reading it again fails again.  A
member of a textual enumeration has a template of its own, which members with
the same text share.
-/

/-- Read the template text that a value is, and note how many placeholders it has. -/
def ofValue (v : Value) : Act Template :=
  match v.text? with
  | none => Act.ofExcept (.error (.template (.notText v.typeName)))
  | some source =>
    match read source with
    | .error e => Act.ofExcept (.error (e.failure source))
    | .ok t => do
      Act.note .debug .template
        ("Parsed template with " ++ Number.natText t.placeholders.length ++ " placeholders: " ++
          v.plain)
      return t

/-- What the template of a value is kept under, if the value is a text. -/
def keyOf? : Value → Option TemplateKey
  | .text source => some { isMember := false, source }
  | v => v.text?.map fun source => { isMember := true, source }

@[simp]
theorem keyOf?_text (source : String) :
    keyOf? (.text source) = some { isMember := false, source } := rfl

/-- Keep a template with the text by which messages tell it. -/
def keep (key : TemplateKey) (t : Template) (told : String) : Act HeldTemplate := do
  let serial ← Act.freshSerial
  let held : HeldTemplate := { serial, template := t, told }
  modify fun activity =>
    { activity with templates := (key, held) :: activity.templates }
  return held

/-- The template of a text: the kept one, or else a newly read one. -/
def fetch (v : Value) : Act HeldTemplate := do
  match keyOf? (← Act.ofExcept v.asKey) with
  | none => Act.ofExcept (.error (.template (.notText v.typeName)))
  | some key =>
    match (← get).templates.lookup key with
    | some held => return held
    | none =>
      let t ← ofValue v
      keep key t v.plain

/-- Forget all templates. -/
def clearCache : Act Unit := modify fun activity => { activity with templates := [] }

end Template
end BoundUpdate
