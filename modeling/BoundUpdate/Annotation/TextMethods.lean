import BoundUpdate.Annotation.Format
import BoundUpdate.Annotation.Machine
import BoundUpdate.Number.IntegerText
import BoundUpdate.Text.CharacterClass
import BoundUpdate.Text.Utf8

namespace BoundUpdate
namespace Annotation

/-!
# Functions of texts

Every function of texts is described by its parameters and by what it computes
from the characters of a text.  Byte texts share most of them.
-/

/-- The arguments of a function by its parameters. -/
abbrev Given := List (Option Meaning)

/-- A function of texts. -/
structure TextMethod where
  parameters : List String := []
  required : Nat := 0
  run : List Char → Given → Evaluated Meaning

namespace TextMethod

/-! ## Parts of texts -/

/-- The text of characters. -/
def text (cs : List Char) : Meaning := .text (String.ofList cs)

/-- Where a part first occurs in a text. -/
def find? (part : List Char) : List Char → Option Nat
  | [] => if part.isEmpty then some 0 else none
  | c :: rest => if part.isPrefixOf (c :: rest) then some 0 else (find? part rest).map (· + 1)

/-- Where a part last occurs in a text. -/
def findLast? (part s : List Char) : Option Nat :=
  (find? part.reverse s.reverse).map fun n => s.length - part.length - n

/-- The parts of a text between occurrences of a separator, at most `limit` of which are used.
Every part or separator takes a character, so the length of the text bounds `fuel`. -/
def split (separator : List Char) :
    (fuel : Nat) → (limit : Option Nat) → List Char → List (List Char)
  | 0, _, s => [s]
  | fuel + 1, limit, s =>
    if limit = some 0 then [s]
    else
      match find? separator s with
      | some n =>
        s.take n :: split separator fuel (limit.map (· - 1)) (s.drop (n + separator.length))
      | none => [s]

/-- The words of a text between blanks, at most `limit` of which are cut off. -/
def words : (fuel : Nat) → (limit : Option Nat) → List Char → List (List Char)
  | 0, _, _ => []
  | fuel + 1, limit, s =>
    let s := Text.trimStart s
    if s.isEmpty then []
    else if limit = some 0 then [Text.trimEnd s]
    else
      let word := s.takeWhile fun c => !Text.isBlank c
      word :: words fuel (limit.map (· - 1)) (s.drop word.length)

/-- An argument that must be a text. -/
def textOf (m : Option Meaning) : Evaluated (List Char) :=
  match m with
  | some (.text s) => .ok s.toList
  | _ => Evaluated.misfit "must be str"

/-- An argument that must be an integer. -/
def integerOf (m : Option Meaning) : Evaluated Int :=
  match m.bind Meaning.integer? with
  | some n => .ok n
  | none => Evaluated.misfit "an integer is required"

/-- An argument that must be an integer within the places of a collection. -/
def placeOf (m : Option Meaning) : Evaluated Int := do
  let n ← integerOf m
  if Meaning.greatestPlace < n ∨ n < -Meaning.greatestPlace - 1 then Evaluated.overflow
  else return n

/-- An argument that must be a length there is memory for. -/
def lengthOf (m : Option Meaning) : Evaluated Nat := do
  let n ← placeOf m
  if Meaning.itemLimit < n then Evaluated.noMemory else return n.toNat

/-- A limit of a number of parts; a negative one is none. -/
def limit? (m : Option Meaning) : Evaluated (Option Nat) :=
  match m with
  | none => .ok none
  | some m =>
    do
      let n ← placeOf (some m)
      return if n < 0 then none else some n.toNat

/-- Characters that are taken off: those of a text, or blanks. -/
def strippedBy (m : Option Meaning) : Evaluated (Char → Bool) :=
  match m with
  | none => .ok Text.isBlank
  | some .nothing => .ok Text.isBlank
  | m => do
    let cs ← textOf m
    return cs.contains

/-- The part of a text between two places, and the place where it starts; `none` when it starts
behind the end. -/
def part? (s : List Char) (start stop : Option Meaning) : Evaluated (Option (Nat × List Char)) := do
  let (first, last, _) ← Meaning.run s.length (start.getD .nothing) (stop.getD .nothing) .nothing
  let behind := match start.bind Meaning.integer? with
    | some n => decide ((s.length : Int) < n)
    | none => false
  if behind || decide (last < first) then return none
  else return some (first.toNat, (s.drop first.toNat).take (last - first).toNat)

/-- Whether a text starts or ends with one of the texts of an argument. -/
def borders (isBorder : List Char → List Char → Bool) (s : List Char) (g : Given) :
    Evaluated Meaning :=
  match g with
  | [m, start, stop] => do
    let parts ← match m with
      | some (.tuple items) => items.mapM fun item => textOf (some item)
      | m => do pure [← textOf m]
    match ← part? s start stop with
    | some (_, s) => return .truth (parts.any fun p => isBorder p s)
    | none => return .truth false
  | _ => Evaluated.misfit "wrong arguments"

/-- Where a part of a text is found. -/
def placed (finder : List Char → List Char → Option Nat) (isStrict : Bool) (s : List Char)
    (g : Given) : Evaluated Meaning :=
  match g with
  | [m, start, stop] => do
    let p ← textOf m
    let found := (← part? s start stop).bind fun (n, s) => (finder p s).map (· + n)
    match found with
    | some n => return .integer n
    | none => if isStrict then Evaluated.invalid "substring not found" else return .integer (-1)
  | _ => Evaluated.misfit "wrong arguments"

/-- A text in a given width. -/
def aligned (align : Char) (s : List Char) (g : Given) : Evaluated Meaning :=
  match g with
  | [width, fill] => do
    let width ← lengthOf width
    let fill ← match fill with
      | none => pure [' ']
      | fill => textOf fill
    match fill with
    | [fill] =>
      let missing := width - s.length
      if align = '^' then
        let left := missing / 2 + (if missing % 2 = 1 ∧ width % 2 = 1 then 1 else 0)
        return text (List.replicate left fill ++ s ++ List.replicate (missing - left) fill)
      else return .text (← Format.padded { fill, width } align [] s)
    | _ => Evaluated.misfit "The fill character must be exactly one character long"
  | _ => Evaluated.misfit "wrong arguments"

/-! ## Classes of characters -/

/-- Whether a character is upper case. -/
def isUpper (c : Char) : Bool := Text.casedRanges.covers c.toNat && Text.lowerChar c != [c]

/-- Whether a character is lower case. -/
def isLower (c : Char) : Bool := Text.casedRanges.covers c.toNat && Text.lowerChar c == [c]

/-- A test of all characters; the empty text fails. -/
def every (test : Char → Bool) : TextMethod where
  run s _ := .ok (.truth (!s.isEmpty && s.all test))

/-- A text in title case: a letter after another one is lower case, any other one upper case. -/
def title (isInside : Bool) : List Char → List Char
  | [] => []
  | c :: rest =>
    let isCased := Text.casedRanges.covers c.toNat
    (if isInside then Text.lowerChar c else Text.upperChar c) ++ title isCased rest

/-- The characters that end a line. -/
def isLineEnd (c : Char) : Bool :=
  ['\n', '\r', '\x0b', '\x0c', '\x1c', '\x1d', '\x1e', '\x85', '\u2028', '\u2029'].contains c

/-- The lines of a text; every line takes a character, so the length of the text bounds `fuel`. -/
def lines (keeps : Bool) : (fuel : Nat) → List Char → List (List Char)
  | 0, _ => []
  | _, [] => []
  | fuel + 1, s =>
    let line := s.takeWhile fun c => !isLineEnd c
    let rest := s.drop line.length
    let ending := if ['\r', '\n'].isPrefixOf rest then 2 else 1
    (if keeps then line ++ rest.take ending else line) :: lines keeps fuel (rest.drop ending)

/-- A text with blanks up to the next stop in the place of each tabulator. -/
def expandTabs (size : Nat) (column : Nat) : List Char → List Char
  | [] => []
  | '\t' :: rest =>
    let n := if size = 0 then 0 else size - column % size
    List.replicate n ' ' ++ expandTabs size (column + n) rest
  | c :: rest =>
    c :: expandTabs size (if c = '\n' ∨ c = '\r' then 0 else column + 1) rest

/-- A text with another part in the place of a part, at most `limit` times. -/
def replace (old new s : List Char) (limit : Option Nat) : List Char :=
  if old.isEmpty then
    let n := (limit.getD (s.length + 1))
    let spread := s.zipIdx.flatMap fun (c, i) => if i < n then new ++ [c] else [c]
    spread ++ (if s.length < n then new else [])
  else List.intercalate new (split old (s.length + 1) limit s)

/-- What stands in the place of a character that an encoding does not have, in a way of handling
failures by name. -/
def substitute? (handling : String) (c : Char) : Evaluated (List Char) :=
  let n := c.toNat
  match handling with
  | "strict" => .error (.elementary (.other "UnicodeEncodeError") "ordinal not in range")
  | "ignore" => .ok []
  | "replace" => .ok ['?']
  | "xmlcharrefreplace" => .ok ('&' :: '#' :: Number.natChars n ++ [';'])
  | "backslashreplace" => .ok (Meaning.byCode c)
  | "surrogateescape" => .error (.elementary (.other "UnicodeEncodeError") "ordinal not in range")
  | "surrogatepass" => .error (.elementary (.other "UnicodeEncodeError") "ordinal not in range")
  | _ => .error (.elementary (.other "LookupError") "unknown error handler name")

/-- The bytes of a text in an encoding. -/
def encoded (encoding handling : String) (s : List Char) : Evaluated (List UInt8) :=
  let name := (encoding.toList.map Char.toLower).map fun c => if c = '_' then '-' else c
  let within := fun (bound : Nat) => (do
    let parts ← s.mapM fun c => if c.toNat < bound then .ok [c] else substitute? handling c
    return parts.flatten.map fun c => UInt8.ofNat c.toNat : Evaluated (List UInt8))
  let name := String.ofList name
  if ["utf-8", "utf8", "u8", "utf"].contains name then .ok (String.ofList s).toUTF8.toList
  else if ["ascii", "us-ascii", "646"].contains name then within 128
  else if ["latin-1", "latin1", "iso-8859-1", "iso8859-1", "l1", "latin"].contains name then
    within 256
  else .error (.elementary (.other "LookupError") "unknown encoding")

/-- The text of bytes in an encoding. -/
def decoded (encoding handling : String) (bs : List UInt8) : Evaluated (List Char) :=
  let name := String.ofList
    ((encoding.toList.map Char.toLower).map fun c => if c = '_' then '-' else c)
  let handled := fun (tolerant : List Char) =>
    (match handling with
      | "ignore" => .ok (tolerant.filter (· != '\uFFFD'))
      | "replace" => .ok tolerant
      | "strict" => .error (.elementary .undecodable "invalid start byte")
      | _ => .error (.elementary (.other "LookupError") "unknown error handler name") :
      Evaluated (List Char))
  if ["utf-8", "utf8", "u8", "utf"].contains name then
    match Text.Utf8.decode? bs with
    | some cs => .ok cs
    | none => handled (Text.Utf8.decodeTolerant bs)
  else if ["ascii", "us-ascii", "646"].contains name then
    if bs.all fun b => b.toNat < 128 then .ok (Meaning.charsOf bs)
    else handled (bs.map fun b => if b.toNat < 128 then Char.ofNat b.toNat else '\uFFFD')
  else if ["latin-1", "latin1", "iso-8859-1", "iso8859-1", "l1", "latin"].contains name then
    .ok (bs.map fun b => Char.ofNat b.toNat)
  else .error (.elementary (.other "LookupError") "unknown encoding")

/-- The encoding and the way of handling failures that two arguments name. -/
def encodingOf (m handling : Option Meaning) : Evaluated (String × String) :=
  let named := fun (m : Option Meaning) (standard : String) =>
    (match m with
      | none => .ok standard
      | some (.text s) => .ok s
      | some _ => Evaluated.misfit "must be str" : Evaluated String)
  do return (← named m "utf-8", ← named handling "strict")

/-- A text with characters replaced as a dictionary says. -/
def translated (entries : List (Meaning × Meaning)) (s : List Char) : List Char :=
  s.flatMap fun c =>
    match Meaning.valueAt? entries (.integer c.toNat) with
    | some (.text t) => t.toList
    | some .nothing => []
    | some m => ((m.integer?).map fun n => Char.ofNat n.toNat).toList
    | none => [c]

/-- A text cut at a separator into what is before, the separator and what is behind. -/
def cutAt (finder : List Char → List Char → Option Nat) (isLast : Bool) (s : List Char)
    (g : Given) : Evaluated Meaning := do
  let separator ← textOf (g.head?.join)
  if separator.isEmpty then Evaluated.invalid "empty separator"
  else
    match finder separator s with
    | some n =>
      return .tuple [text (s.take n), text separator, text (s.drop (n + separator.length))]
    | none =>
      return .tuple (if isLast then [text [], text [], text s] else [text s, text [], text []])

/-- The parts of a text. -/
def parted (isLast : Bool) (s : List Char) (g : Given) : Evaluated Meaning := do
  let limit ← limit? ((g.drop 1).head?.join)
  let mirrored := fun (parts : List (List Char)) => parts.reverse.map List.reverse
  let parts ← match g.head?.join with
    | none => pure (if isLast then mirrored (words (s.length + 1) limit s.reverse)
        else words (s.length + 1) limit s)
    | some .nothing => pure (if isLast then mirrored (words (s.length + 1) limit s.reverse)
        else words (s.length + 1) limit s)
    | m => do
      let separator ← textOf m
      if separator.isEmpty then Evaluated.invalid "empty separator"
      else if isLast then
        pure (mirrored (split separator.reverse (s.length + 1) limit s.reverse))
      else pure (split separator (s.length + 1) limit s)
  return .list (parts.map text)

/-! ## All functions -/

/-- A function that takes nothing. -/
def plain (f : List Char → Meaning) : TextMethod where
  run s _ := .ok (f s)

/-- A function that takes characters off. -/
def stripping (f : (Char → Bool) → List Char → List Char) : TextMethod where
  parameters := [""]
  run s g := do return text (f (← strippedBy g.head?.join) s)

/-- The end of a text without some characters. -/
def dropEnd (test : Char → Bool) (s : List Char) : List Char := (s.reverse.dropWhile test).reverse

/-- The functions of texts. -/
def all : List (String × TextMethod) :=
  let bounded := ["", "", ""]
  [("upper", plain fun s => text (Text.upper s)),
   ("lower", plain fun s => text (Text.lower s)),
   ("casefold", plain fun s => text (Text.fold s)),
   ("swapcase", plain fun s =>
     text (s.flatMap fun c => if isUpper c then Text.lowerChar c else Text.upperChar c)),
   ("capitalize", plain fun s => text (match s with
     | [] => []
     | c :: rest => Text.upperChar c ++ Text.lower rest)),
   ("title", plain fun s => text (title false s)),
   ("isalpha", every Text.isLetter), ("isdigit", every Text.isAnyDigit),
   ("isdecimal", every Text.isDecimal), ("isnumeric", every Text.isNumeral),
   ("isalnum", every fun c => Text.isLetter c || Text.isNumeral c),
   ("isspace", every Text.isBlank),
   ("isascii", plain fun s => .truth (s.all fun c => c.toNat < 128)),
   ("isprintable", plain fun s => .truth (s.all fun c => !Text.isHidden c)),
   ("isidentifier", plain fun s => .truth (Text.isIdentifier s)),
   ("isupper", plain fun s => .truth (s.any isUpper && !(s.any isLower))),
   ("islower", plain fun s => .truth (s.any isLower && !(s.any isUpper))),
   ("istitle", plain fun s =>
     .truth ((s.any fun c => isUpper c || isLower c) && title false s == s)),
   ("strip", stripping fun test s => dropEnd test (s.dropWhile test)),
   ("lstrip", stripping List.dropWhile), ("rstrip", stripping dropEnd),
   ("startswith", ⟨bounded, 1, borders List.isPrefixOf⟩),
   ("endswith", ⟨bounded, 1, borders fun p s => p.reverse.isPrefixOf s.reverse⟩),
   ("find", ⟨bounded, 1, placed find? false⟩), ("rfind", ⟨bounded, 1, placed findLast? false⟩),
   ("index", ⟨bounded, 1, placed find? true⟩), ("rindex", ⟨bounded, 1, placed findLast? true⟩),
   ("count", ⟨bounded, 1, fun s g => do
     let p ← textOf g.head?.join
     match ← part? s ((g.drop 1).head?.join) ((g.drop 2).head?.join) with
     | none => return .integer 0
     | some (_, s) =>
       return .integer (if p.isEmpty then s.length + 1
         else (split p (s.length + 1) none s).length - 1 : Nat)⟩),
   ("center", ⟨["", ""], 1, aligned '^'⟩), ("ljust", ⟨["", ""], 1, aligned '<'⟩),
   ("rjust", ⟨["", ""], 1, aligned '>'⟩),
   ("zfill", ⟨[""], 1, fun s g => do
     let width ← lengthOf g.head?.join
     let (sign, body) := match s with
       | '+' :: rest => (['+'], rest)
       | '-' :: rest => (['-'], rest)
       | s => ([], s)
     return text (sign ++ List.replicate (width - s.length) '0' ++ body)⟩),
   ("removeprefix", ⟨[""], 1, fun s g => do
     let p ← textOf g.head?.join
     return text (if p.isPrefixOf s then s.drop p.length else s)⟩),
   ("removesuffix", ⟨[""], 1, fun s g => do
     let p ← textOf g.head?.join
     return text (if p.reverse.isPrefixOf s.reverse then s.take (s.length - p.length) else s)⟩),
   ("replace", ⟨["", "", ""], 2, fun s g => do
     let old ← textOf g.head?.join
     let new ← textOf ((g.drop 1).head?.join)
     return text (replace old new s (← limit? ((g.drop 2).head?.join)))⟩),
   ("split", ⟨["sep", "maxsplit"], 0, parted false⟩),
   ("rsplit", ⟨["sep", "maxsplit"], 0, parted true⟩),
   ("splitlines", ⟨["keepends"], 0, fun s g => do
     let keeps ← match g.head?.join with
       | none => pure 0
       | keeps => integerOf keeps
     return .list ((lines (keeps != 0) (s.length + 1) s).map text)⟩),
   ("partition", ⟨[""], 1, cutAt find? false⟩), ("rpartition", ⟨[""], 1, cutAt findLast? true⟩),
   ("expandtabs", ⟨["tabsize"], 0, fun s g => do
     let size ← match g.head?.join with
       | none => pure 8
       | m => do
         let n ← integerOf m
         if 2147483647 < n ∨ n < -2147483648 then Evaluated.overflow
         else if Meaning.itemLimit < n then Evaluated.noMemory
         else pure n
     return text (expandTabs size.toNat 0 s)⟩),
   ("encode", ⟨["encoding", "errors"], 0, fun s g => do
     let (encoding, handling) ← encodingOf g.head?.join (g.drop 1).head?.join
     return .bytes (← encoded encoding handling s) false⟩),
   ("translate", ⟨[""], 1, fun s g =>
     match g.head?.join with
     | some (.dict _ entries) => .ok (text (translated entries s))
     | some .unknown => .ok .unknown
     | some (.list _) => .ok .unknown
     | some (.tuple _) => .ok .unknown
     | some (.bytes ..) => .ok .unknown
     | some (.text _) => .ok .unknown
     | _ => if s.isEmpty then .ok (text []) else Evaluated.misfit "not subscriptable"⟩)]

/-- A function of texts applied to a text. -/
def apply (f : TextMethod) (s : List Char) (a : Arguments) : Evaluated Meaning := do
  f.run s (← a.bind f.parameters f.required)

/-! ## Byte texts -/

/-- The functions of texts that byte texts do not have. -/
def textOnly : List String :=
  ["casefold", "encode", "isdecimal", "isidentifier", "isnumeric", "isprintable"]

/-- An argument of a function of byte texts as one of a function of texts. -/
def asTextArgument : Meaning → Evaluated Meaning
  | .bytes bs _ => .ok (text (Meaning.charsOf bs))
  | .text _ => Evaluated.misfit "a bytes-like object is required"
  | m => .ok m

/-- A text as a byte text. -/
def asBytes (isMutable : Bool) : Meaning → Meaning
  | .text s => .bytes (s.toList.map fun c => UInt8.ofNat c.toNat) isMutable
  | .list items => .list (items.map part)
  | .tuple items => .tuple (items.map part)
  | m => m
where
  /-- A part as a byte text. -/
  part : Meaning → Meaning
    | .text s => .bytes (s.toList.map fun c => UInt8.ofNat c.toNat) isMutable
    | m => m

/-- A function of texts applied to a byte text. -/
def applyToBytes (f : TextMethod) (bs : List UInt8) (isMutable : Bool) (a : Arguments) :
    Evaluated Meaning := do
  let positional ← a.positional.mapM asTextArgument
  let named ← a.named.mapM fun (name, m) => do return (name, ← asTextArgument m)
  let result ← f.apply (Meaning.charsOf bs) { positional, named }
  return asBytes isMutable result

end TextMethod
end Annotation
end BoundUpdate
