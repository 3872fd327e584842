namespace BoundUpdate
namespace Annotation
namespace Catalogue

/-!
# Rows of the catalogue of classes
-/

/-- What the catalogue knows of a class. -/
structure Row where
  /-- The full name, with the library in front unless the class is elementary. -/
  name : String
  bases : List String
  /-- The class that the class is an instance of. -/
  kind : String := "type"
  /-- The abstract classes that the class counts as without descending from them. -/
  counts : String := ""
  /-- Whether instances may be keys, as far as this class decides. -/
  isHashable : Bool := true
  /-- The members of the class, besides those that every class has. -/
  members : String := ""

end Catalogue
end Annotation
end BoundUpdate
