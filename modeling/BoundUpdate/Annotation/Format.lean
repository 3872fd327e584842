import BoundUpdate.Annotation.Indexing
import BoundUpdate.Annotation.Members

namespace BoundUpdate
namespace Annotation

/-!
# Formats

A format says how a value is written in a given width: what fills the rest, on
which side, how a sign is shown, and in which notation a number is.  A pattern
is a text with places for values, each with its format.
-/

/-- How a value is written. -/
structure Format where
  fill : Char := ' '
  align : Option Char := none
  sign : Option Char := none
  /-- Whether zero loses a negative sign. -/
  unsignsZero : Bool := false
  isAlternate : Bool := false
  width : Nat := 0
  grouping : Option Char := none
  precision : Option Nat := none
  notation? : Option Char := none

namespace Format

/-- The characters that align a value. -/
def isAlignment (c : Char) : Bool := c == '<' || c == '>' || c == '=' || c == '^'

/-- A run of digits in front of a text, if there is one. -/
def takeNumber (s : List Char) : Option Nat × List Char :=
  let ds := s.takeWhile Number.isDigit
  (if ds.isEmpty then none else some (Number.readDigits ds), s.dropWhile Number.isDigit)

/-- The filling and alignment in front of a format. -/
def takeAlignment : List Char → Format × List Char
  | fill :: c :: rest =>
    if isAlignment c then ({ fill, align := some c }, rest)
    else if isAlignment fill then ({ align := some fill }, c :: rest)
    else ({}, fill :: c :: rest)
  | [c] => if isAlignment c then ({ align := some c }, []) else ({}, [c])
  | [] => ({}, [])

/-- A character in front of a text, if it is one of some characters. -/
def takeOne (isFit : Char → Bool) : List Char → Option Char × List Char
  | c :: rest => if isFit c then (some c, rest) else (none, c :: rest)
  | [] => (none, [])

/-- Refuse a number that is larger than places of texts. -/
def withinPlaces (n : Option Nat) : Evaluated Unit :=
  if n.any fun n => Meaning.greatestPlace < n then
    Evaluated.invalid "Too many decimal digits in format string"
  else .ok ()

/-- The format that a text describes. -/
def read (s : List Char) : Evaluated Format := do
  let (f, s) := takeAlignment s
  let (sign, s) := takeOne (fun c => c == '+' || c == '-' || c == ' ') s
  let (unsigning, s) := takeOne (· == 'z') s
  let (alternate, s) := takeOne (· == '#') s
  let isZeroed := f.align.isNone && s.head? == some '0'
  let (_, s) := takeOne (· == '0') s
  let (width, s) := takeNumber s
  withinPlaces width
  let (grouping, s) := takeOne (fun c => c == ',' || c == '_') s
  let (precision, s) ← match s with
    | '.' :: rest =>
      match takeNumber rest with
      | (some n, rest) => do
        withinPlaces (some n)
        pure (some n, rest)
      | (none, _) => Evaluated.invalid "Format specifier missing precision"
    | s => pure (none, s)
  let f := if isZeroed then { f with fill := '0', align := some '=' } else f
  let f := { f with
    sign, unsignsZero := unsigning.isSome, isAlternate := alternate.isSome, width := width.getD 0
    grouping, precision }
  match s with
  | [] => return f
  | [c] => return { f with notation? := some c }
  | _ => Evaluated.invalid "Invalid format specifier"

/-- A text in the width of a format; `ahead` stays in front of the filling when a number is
aligned. -/
def padded (f : Format) (standard : Char) (ahead body : List Char) : Evaluated String :=
  let missing := f.width - (ahead.length + body.length)
  if Meaning.itemLimit < missing then Evaluated.noMemory
  else .ok <|
  let filling := List.replicate missing f.fill
  let align := f.align.getD standard
  String.ofList
    (if align = '<' then ahead ++ body ++ filling
    else if align = '=' then ahead ++ filling ++ body
    else if align = '^' then
      filling.take (missing / 2) ++ ahead ++ body ++ filling.drop (missing / 2)
    else filling ++ ahead ++ body)

/-- The digits of a number in a base. -/
def digitsIn (base : Nat) (n : Nat) : List Char := go (n + 1) n []
where
  /-- Digits in front of others; the number itself bounds their count. -/
  go : (fuel : Nat) → Nat → List Char → List Char
    | 0, _, others => others
    | fuel + 1, n, others =>
      let others := Text.hexDigit (n % base) :: others
      if n / base = 0 then others else go (min fuel (n / base + 1)) (n / base) others

/-- Digits in groups. -/
def grouped (mark : Option Char) (size : Nat) (ds : List Char) : List Char :=
  match mark with
  | none => ds
  | some mark =>
    (ds.reverse.zipIdx.flatMap fun (c, i) =>
      if i % size = 0 ∧ i ≠ 0 then [mark, c] else [c]).reverse

/-- The sign of a number in a format. -/
def signOf (f : Format) (isNegative : Bool) : List Char :=
  if isNegative then ['-']
  else
    match f.sign with
    | some '+' => ['+']
    | some ' ' => [' ']
    | _ => []

/-- A quotient with a number of decimal places; a half goes to the even neighbour. -/
def decimalPlaces (num den places : Nat) : List Char :=
  let n := Number.Binary64.nearestNat (num * Nat.pow 10 places) den
  let ds := n.repr.toList
  let ds := List.replicate (places + 1 - ds.length) '0' ++ ds
  let whole := ds.take (ds.length - places)
  if places = 0 then whole else whole ++ '.' :: ds.drop (ds.length - places)

/-- The capital form of letters in a notation. -/
def capital (isCapital : Bool) (cs : List Char) : List Char :=
  if isCapital then cs.map Char.toUpper else cs

/-- A number of significant digits of a quotient, the first of which counts the given power of ten;
a half goes to the even neighbour. -/
def significant (num den count : Nat) : List Char × Int :=
  if num = 0 then (List.replicate count '0', 0)
  else
    let guess : Int := (Number.natChars num).length - (Number.natChars den).length
    let (n, d) := Number.Binary64.decimalRatio 1 guess
    let power := if n * den ≤ num * d then guess else guess - 1
    let (n, d) := Number.Binary64.decimalRatio 1 (power - count + 1)
    let ds := (Number.Binary64.nearestNat (num * d) (den * n)).repr.toList
    if count < ds.length then (ds.take count, power + 1) else (ds, power)

/-- Significant digits with a power of ten behind them. -/
def scientific (ds : List Char) (power : Int) : List Char :=
  let ps := Number.natChars power.natAbs
  ds.take 1 ++ (if ds.length ≤ 1 then [] else '.' :: ds.drop 1) ++
    'e' :: (if power < 0 then '-' else '+') :: List.replicate (2 - ps.length) '0' ++ ps

/-- Significant digits with the point where the power of ten of the first one puts it. -/
def positional (ds : List Char) (power : Int) : List Char :=
  if power < 0 then
    '0' :: '.' :: List.replicate (-power - 1).toNat '0' ++ ds
  else
    let whole := ds.take (power.toNat + 1)
    let behind := ds.drop (power.toNat + 1)
    whole ++ List.replicate (power.toNat + 1 - whole.length) '0' ++
      (if behind.isEmpty then [] else '.' :: behind)

/-- The shorter of both notations with a number of significant digits.  With a point wanted, a
positional number has a digit behind it. -/
def general (num den count : Nat) (wantsPoint keepsZeros : Bool) : List Char :=
  let count := max count 1
  let (ds, power) := significant num den count
  let last : Int := count - (if wantsPoint then 1 else 0)
  let ds := if keepsZeros then ds
    else ds.take 1 ++ ((ds.drop 1).reverse.dropWhile (· == '0')).reverse
  if power < -4 ∨ last ≤ power then scientific ds power
  else
    let cs := positional ds power
    if wantsPoint && !(cs.contains '.') then cs ++ ['.', '0'] else cs

/-- A quotient in a notation; `none` when there is no such notation. -/
def inNotation? (f : Format) (num den : Nat) (c : Char) : Option (List Char) :=
  let places := f.precision.getD 6
  let point := fun (cs : List Char) =>
    if f.isAlternate && !(cs.contains '.') then cs ++ ['.'] else cs
  match c.toLower with
  | 'f' => some (point (decimalPlaces num den places))
  | '%' => some (point (decimalPlaces (num * 100) den places) ++ ['%'])
  | 'e' =>
    let (ds, power) := significant num den (places + 1)
    some (capital c.isUpper (scientific ds power))
  | 'g' => some (capital c.isUpper (general num den places false f.isAlternate))
  | 'n' => if c = 'n' then some (general num den places false f.isAlternate) else none
  | _ => none

/-- Whether the digits in front of a power of ten are all zero. -/
def showsZero (body : List Char) : Bool :=
  (body.takeWhile fun c => c.toLower != 'e').all fun c => !Number.isDigit c || c == '0'

/-- The digits of a real number without its sign in a format. -/
def realBody (f : Format) (x : Number.Binary64) : Evaluated (List Char) := do
  if f.precision.any fun n => 2147483647 < n then
    Evaluated.invalid "precision too big"
  if f.precision.any fun n => Meaning.itemLimit < n then Evaluated.noMemory
  let body : Option (List Char) :=
    match f.notation?, x.abs.quotient?, f.precision with
    | none, some (n, d), some count => some (general n.natAbs d count true f.isAlternate)
    | none, _, _ => some (x.abs.text).toList
    | some c, some (n, d), _ => f.inNotation? n.natAbs d c
    | some c, none, _ =>
      if (f.inNotation? 0 1 c).isSome then
        some (capital c.isUpper (x.abs.text).toList ++ (if c = '%' then ['%'] else []))
      else none
  match body with
  | some body =>
    let whole := body.takeWhile Number.isDigit
    let rest := body.dropWhile Number.isDigit
    return grouped f.grouping 3 whole ++ rest
  | none => Evaluated.invalid "Unknown format code for object of type 'float'"

/-- A real number in a format. -/
def ofReal (f : Format) (x : Number.Binary64) : Evaluated String := do
  let body ← realBody f x
  let isNegative := x.isNegative && !(f.unsignsZero && x.quotient?.isSome && showsZero body)
  padded f '>' (signOf f isNegative) body

/-- A complex number in a format, which must not fill with zeros.  Without a notation it is shown as
it is in full, with the precision of the format. -/
def ofComplex (f : Format) (x y : Number.Binary64) : Evaluated String := do
  if f.fill = '0' then Evaluated.invalid "Zero padding is not allowed in complex format specifier"
  else if f.align = some '=' then
    Evaluated.invalid "alignment not allowed in complex format specifier"
  else if f.notation? = some '%' then
    Evaluated.invalid "Unknown format code '%' for object of type 'complex'"
  else
    let isBare := f.notation?.isNone
    let part := fun (f : Format) (z : Number.Binary64) => (do
      let body ← if isBare && f.precision.isSome then realBody { f with notation? := some 'g' } z
        else realBody f z
      let body := if isBare && f.precision.isNone && ['0', '.'].isPrefixOf body.reverse then
          (body.reverse.drop 2).reverse
        else body
      return signOf f z.isNegative ++ body : Evaluated (List Char))
    let skipsReal := isBare && x.isZero && !x.isNegative
    let real ← if skipsReal then pure [] else part f x
    let imaginary ← part (if skipsReal then f else { f with sign := some '+' }) y
    let body := real ++ imaginary ++ ['j']
    padded f '>' [] (if isBare && !skipsReal then '(' :: body ++ [')'] else body)

/-- An integer in a format. -/
def ofInteger (f : Format) (n : Int) : Evaluated String :=
  let isReal := f.notation?.any fun c => ['e', 'E', 'f', 'F', 'g', 'G', '%'].contains c
  if f.unsignsZero && !isReal then
    Evaluated.invalid "Negative zero coercion (z) not allowed in format specifier with integer"
  else
  let number := fun (base size : Nat) (mark : String) (isCapital : Bool) =>
    if base = 10 ∧ !(Meaning.isShort n) then Meaning.tooLong
    else
      let ds := grouped f.grouping size (capital isCapital (digitsIn base n.natAbs))
      let ahead := signOf f (n < 0) ++ (if f.isAlternate then mark.toList else [])
      padded f '>' ahead ds
  match f.notation? with
  | some c =>
    if isReal then ofReal f (.ofInt n)
    else if f.precision.isSome then
      Evaluated.invalid "Precision not allowed in integer format specifier"
    else if c = 'd' ∨ c = 'n' then number 10 3 "" false
    else if c = 'b' then number 2 4 "0b" false
    else if c = 'o' then number 8 4 "0o" false
    else if c = 'x' then number 16 4 "0x" false
    else if c = 'X' then number 16 4 "0X" true
    else if c = 'c' then
      if f.sign.isSome then Evaluated.invalid "Sign not allowed with integer format specifier 'c'"
      else if 0 ≤ n ∧ n < 0x110000 then padded f '<' [] [Char.ofNat n.toNat]
      else Evaluated.overflow
    else Evaluated.invalid "Unknown format code for object of type 'int'"
  | none =>
    if f.precision.isSome then
      Evaluated.invalid "Precision not allowed in integer format specifier"
    else number 10 3 "" false

/-- A text in a format. -/
def ofText (f : Format) (s : List Char) : Evaluated String :=
  if f.notation?.isSome ∧ f.notation? ≠ some 's' then
    Evaluated.invalid "Unknown format code for object of type 'str'"
  else if f.sign.isSome ∨ f.unsignsZero ∨ f.isAlternate ∨ f.grouping.isSome ∨
      f.align = some '=' then
    Evaluated.invalid "not allowed in string format specifier"
  else padded f '<' [] ((f.precision.map fun n => s.take n).getD s)

end Format

namespace Meaning

/-- A value in a format that a text describes. -/
def formatted (m : Meaning) (spec : String) : Evaluated String :=
  match m with
  | .truth b =>
    if spec = "" then m.inShort
    else do Format.ofInteger (← Format.read spec.toList) (if b then 1 else 0)
  | .text s =>
    if spec = "" then .ok s else do Format.ofText (← Format.read spec.toList) s.toList
  | .integer n => do Format.ofInteger (← Format.read spec.toList) n
  | .real x =>
    if spec = "" then m.inShort else do Format.ofReal (← Format.read spec.toList) x
  | .complex x y =>
    if spec = "" then m.inShort else do Format.ofComplex (← Format.read spec.toList) x y
  | .unknown => .ok ""
  | m => if spec = "" then m.inShort else Evaluated.misfit "unsupported format string"

/-- A value converted as a letter says. -/
def convertedBy (conversion : Option Char) (m : Meaning) : Evaluated Meaning :=
  match conversion with
  | none => .ok m
  | some 's' => do return .text (← m.inShort)
  | some 'r' => do return .text (← m.inFull)
  | some 'a' => do return .text (inAscii (← m.inFull))
  | some c =>
    let shown := if 32 < c.toNat ∧ c.toNat < 127 then [c]
      else '\\' :: 'x' :: Format.digitsIn 16 c.toNat
    Evaluated.invalid ("Unknown conversion specifier " ++ String.ofList shown)

/-! ## Patterns with signs of percent -/

/-- The values that a pattern still has to use. -/
structure Supply where
  /-- Whether the pattern is made of bytes. -/
  isBytes : Bool
  values : List Meaning
  /-- The dictionary or other value that names are looked up in. -/
  named : Meaning

/-- The next value of a supply. -/
def Supply.next : StateT Supply Evaluated Meaning := do
  match (← get).values with
  | m :: rest =>
    modify fun s => { s with values := rest }
    return m
  | [] => Evaluated.misfit "not enough arguments for format string"

/-- A width or precision in a pattern: a number, or a star for the next value. -/
def Supply.number (s : List Char) : StateT Supply Evaluated (Option Int × List Char) := do
  match s with
  | '*' :: rest =>
    match (← Supply.next).integer? with
    | some n => return (some n, rest)
    | none => Evaluated.misfit "* wants int"
  | s =>
    let (n, rest) := Format.takeNumber s
    return (n.map fun (n : Nat) => (n : Int), rest)

/-- The characters of bytes. -/
def charsOf (bs : List UInt8) : List Char := bs.map fun b => Char.ofNat b.toNat

/-- Refuse a number in a pattern that is larger than places of texts. -/
def withinSize (n : Option Int) : Evaluated Unit :=
  if n.any fun n => greatestPlace < n then Evaluated.invalid "width too big" else .ok ()

/-- The conversion of a value in a pattern. -/
def patternValue (isBytes : Bool) (f : Format) (isLeft : Bool) (c : Char) (m : Meaning) :
    Evaluated String := do
  let f := if isLeft then { f with align := some '<', fill := ' ' } else f
  let most : Int := if isBytes then 0x100 else 0x110000
  if c = 's' ∨ c = 'r' ∨ c = 'a' ∨ (c = 'b' && isBytes) then
    let s ← match isBytes && (c == 's' || c == 'b'), m with
      | true, .bytes bs _ => pure (charsOf bs)
      | true, _ => Evaluated.misfit "%b requires a bytes-like object"
      | false, m => do
        if c = 's' then pure (← m.inShort).toList
        else if c = 'r' then pure (← m.inFull).toList
        else pure (inAscii (← m.inFull)).toList
    let s := (f.precision.map fun n => s.take n).getD s
    Format.padded { f with fill := ' ', align := f.align.map fun a => if a = '=' then '>' else a }
      '>' [] s
  else if c = 'c' then
    match m.integer?, isBytes, m with
    | some n, _, _ =>
      if 0 ≤ n ∧ n < most then Format.padded f '>' [] [Char.ofNat n.toNat]
      else Evaluated.overflow
    | none, false, .text s =>
      if s.length = 1 then Format.padded f '>' [] s.toList
      else Evaluated.misfit "%c requires int or char"
    | none, true, .bytes [b] _ => Format.padded f '>' [] (charsOf [b])
    | none, _, _ => Evaluated.misfit "%c requires int or char"
  else if ['d', 'i', 'u', 'o', 'x', 'X'].contains c then
    let notation? := some (if c = 'i' ∨ c = 'u' then 'd' else c)
    match m.integer?, m with
    | some n, _ => Format.ofInteger { f with notation?, precision := none } n
    | none, .real x =>
      if c = 'o' ∨ c = 'x' ∨ c = 'X' then Evaluated.misfit "an integer is required"
      else
        match x.truncate? with
        | some n => Format.ofInteger { f with notation?, precision := none } n
        | none => Evaluated.overflow
    | none, _ => Evaluated.misfit "a number is required"
  else if ['e', 'E', 'f', 'F', 'g', 'G'].contains c then
    match m.integer?, m with
    | some n, _ => Format.ofReal { f with notation? := some c } (.ofInt n)
    | none, .real x => Format.ofReal { f with notation? := some c } x
    | none, _ => Evaluated.misfit "must be real number"
  else Evaluated.invalid "unsupported format character"

/-- The name between brackets at the start of a text; brackets inside it are matched. -/
def bracketedName : (depth : Nat) → List Char → Option (List Char × List Char)
  | _, [] => none
  | depth, c :: rest =>
    if c = ')' ∧ depth = 0 then some ([], rest)
    else
      let depth := if c = '(' then depth + 1 else if c = ')' then depth - 1 else depth
      (bracketedName depth rest).map fun (name, after) => (c :: name, after)

/-- A pattern with values in its places.  Every step takes a character, so the length of the
pattern bounds `fuel`. -/
def patternText : (fuel : Nat) → List Char → StateT Supply Evaluated (List Char)
  | 0, _ => return []
  | _, [] => return []
  | fuel + 1, '%' :: '%' :: rest => do return '%' :: (← patternText fuel rest)
  | fuel + 1, '%' :: rest => do
    let (name, rest) ← match rest with
      | '(' :: inner =>
        match bracketedName 0 inner with
        | some (name, after) => pure (some (String.ofList name), after)
        | none => Evaluated.invalid "incomplete format key"
      | rest => pure (none, rest)
    if let some key := name then
      let value ← match (← get).named with
        | .dict kind entries =>
          let key := if (← get).isBytes then
              Meaning.bytes (key.toList.map fun c => UInt8.ofNat c.toNat) false
            else .text key
          (itemOfKey kind entries key : Evaluated Meaning)
        | .unknown => pure .unknown
        | _ => Evaluated.misfit "format requires a mapping"
      modify fun s => { s with values := [value] }
    let isFlag := fun (c : Char) => ['-', '+', ' ', '#', '0'].contains c
    let flags := rest.takeWhile isFlag
    let (width, rest) ← Supply.number (rest.dropWhile isFlag)
    (withinSize width : Evaluated Unit)
    let (precision, rest) ← match rest with
      | '.' :: rest => do
        let (n, rest) ← Supply.number rest
        (withinSize (n.map fun n => if n ≤ 2147483647 then n else greatestPlace + 1) :
          Evaluated Unit)
        pure (some ((n.getD 0).toNat), rest)
      | rest => pure (none, rest)
    let rest := match rest with
      | c :: more => if ['h', 'l', 'L'].contains c then more else c :: more
      | [] => []
    match rest with
    | [] => Evaluated.invalid "incomplete format"
    | c :: rest =>
      if c = '%' then return '%' :: (← patternText fuel rest)
      else
        let isLeft := flags.contains '-' || (width.getD 0) < 0
        let f : Format :=
          { width := (width.getD 0).natAbs, precision
            sign :=
              if flags.contains '+' then some '+' else if flags.contains ' ' then some ' ' else none
            isAlternate := flags.contains '#'
            fill := if flags.contains '0' then '0' else ' '
            align := if flags.contains '0' then some '=' else none }
        let shown ← patternValue (← get).isBytes f isLeft c (← Supply.next)
        return shown.toList ++ (← patternText fuel rest)
  | fuel + 1, c :: rest => do return c :: (← patternText fuel rest)

/-- A pattern with a value, or the items of a tuple, in its places.  All of them must be used. -/
def ofPattern (isBytes : Bool) (pattern : List Char) (m : Meaning) : Evaluated (List Char) := do
  let start : Supply := { isBytes, values := m.asTuple, named := m }
  let (s, rest) ← (patternText (pattern.length + 1) pattern).run start
  let isOpen := match m with
    | .unknown => true
    | .text _ => false
    | .bytes .. => !isBytes
    | .tuple _ => false
    | .object (.type "collections.deque") _ => false
    | m => m.classOf.hasMember "__getitem__"
  if rest.values.isEmpty || isOpen then return s
  else Evaluated.misfit "not all arguments converted during string formatting"

/-! ## Patterns with braces -/

/-- What fields of a pattern use. -/
structure Offer where
  values : Array Meaning
  named : List (String × Meaning)
  /-- The value that all names are looked up in, if there is one. -/
  mapping : Option Meaning := none
  /-- The number of the next field without a name. -/
  next : Nat := 0
  /-- Whether some field has given a number of its own. -/
  isNumbered : Bool := false

/-- A field of a pattern: where its value is found, and how the value is shown. -/
structure Field where
  path : List Char
  conversion : Option Char := none
  /-- The format, in which fields may stand again. -/
  format : List Char := []

/-- The path at the start of a field, the character that ends it, and the text behind.  Between
square brackets every character belongs to the path; `isItem` tells whether the text starts
there. -/
def pathText : (isItem : Bool) → List Char → Evaluated (List Char × Char × List Char)
  | _, [] => Evaluated.invalid "expected '\x7d' before end of string"
  | true, c :: rest => do
    let (path, stop, after) ← pathText (c != ']') rest
    return (c :: path, stop, after)
  | false, c :: rest =>
    if c = '\x7b' then Evaluated.invalid "unexpected '\x7b' in field name"
    else if c = '\x7d' ∨ c = ':' ∨ c = '!' then return ([], c, rest)
    else do
      let (path, stop, after) ← pathText (c == '[') rest
      return (c :: path, stop, after)

/-- The format of a field up to the brace that closes the field, and the text behind. -/
def formatText? : (depth : Nat) → List Char → Option (List Char × List Char)
  | _, [] => none
  | depth, c :: rest =>
    if c = '\x7d' ∧ depth = 0 then some ([], rest)
    else
      let depth := if c = '\x7b' then depth + 1 else if c = '\x7d' then depth - 1 else depth
      (formatText? depth rest).map fun (s, after) => (c :: s, after)

/-- The field behind an opening brace, and the text behind the brace that closes it. -/
def Field.read (s : List Char) : Evaluated (Field × List Char) := do
  let (path, stop, rest) ← pathText false s
  let withFormat := fun (conversion : Option Char) (rest : List Char) =>
    (match formatText? 0 rest with
      | some (format, after) => .ok ({ path, conversion, format }, after)
      | none => Evaluated.invalid "unmatched '\x7b' in format spec" : Evaluated (Field × List Char))
  match stop, rest with
  | '\x7d', rest => return ({ path }, rest)
  | '!', [] => Evaluated.invalid "end of string while looking for conversion specifier"
  | '!', [c] => withFormat (some c) []
  | '!', c :: '\x7d' :: rest => return ({ path, conversion := some c }, rest)
  | '!', c :: ':' :: rest => withFormat (some c) rest
  | '!', _ => Evaluated.invalid "expected ':' after conversion specifier"
  | _, rest => withFormat none rest

/-- The number that digits of any script spell behind the digits of `n`, if they are digits. -/
def fieldNumber? : (n : Nat) → List Char → Evaluated (Option Nat)
  | n, [] => return some n
  | n, c :: rest =>
    match Number.digitValue? c with
    | some d =>
      if 2 ^ 63 ≤ 10 * n + d then Evaluated.invalid "Too many decimal digits in format string"
      else fieldNumber? (10 * n + d) rest
    | none => return none

/-- The value with a number. -/
def Offer.numbered (offer : Offer) (i : Nat) : Evaluated Meaning :=
  match offer.mapping, offer.values[i]? with
  | some _, _ => Evaluated.invalid "Format string contains positional fields"
  | none, some m => .ok m
  | none, none =>
    Evaluated.outsideOf
      ("Replacement index " ++ toString i ++ " out of range for positional args tuple")

/-- The value that a field's path starts with. -/
def Offer.first (name : List Char) : StateT Offer Evaluated Meaning := do
  let offer ← get
  if name.isEmpty then
    if offer.isNumbered then
      Evaluated.invalid
        "cannot switch from manual field specification to automatic field numbering"
    else
      modify fun o => { o with next := o.next + 1 }
      offer.numbered offer.next
  else
    match ← fieldNumber? 0 name with
    | some i =>
      if offer.next ≠ 0 then
        Evaluated.invalid
          "cannot switch from automatic field numbering to manual field specification"
      else
        modify fun o => { o with isNumbered := true }
        offer.numbered i
    | none =>
      let name := String.ofList name
      match offer.mapping, offer.named.lookup name with
      | some m, _ =>
        match item? m (.text name) <|> applied? m (.text name) with
        | some item => return (← item)
        | none => Evaluated.misfit "not subscriptable"
      | none, some m => return m
      | none, none => Evaluated.noKey (.text name)

/-- A value followed along members and items; `fuel` bounds their number. -/
def followed : (fuel : Nat) → Meaning → List Char → Evaluated Meaning
  | 0, m, _ => .ok m
  | _, m, [] => .ok m
  | fuel + 1, m, '.' :: rest => do
    let name := rest.takeWhile fun c => c != '.' && c != '['
    if name.isEmpty then Evaluated.invalid "Empty attribute in format string"
    else followed fuel (← memberOf m (String.ofList name)) (rest.drop name.length)
  | fuel + 1, m, '[' :: rest => do
    let name := rest.takeWhile (· != ']')
    if rest.length = name.length then Evaluated.invalid "Missing ']' in format string"
    else if name.isEmpty then Evaluated.invalid "Empty attribute in format string"
    else
      let key : Meaning := match ← fieldNumber? 0 name with
        | some i => .integer i
        | none => .text (String.ofList name)
      match item? m key <|> applied? m key with
      | some item => followed fuel (← item) (rest.drop (name.length + 1))
      | none => Evaluated.misfit "not subscriptable"
  | _, _, _ => Evaluated.invalid "Only '.' or '[' may follow ']' in format field specifier"

/-- A pattern with values in its fields.  Patterns may stand as formats up to the given depth; every
step takes a character, so the length of the pattern bounds `fuel`. -/
def fieldsText : (depth fuel : Nat) → List Char → StateT Offer Evaluated (List Char)
  | 0, _, _ => Evaluated.invalid "Max string recursion exceeded"
  | _, 0, _ => return []
  | _, _, [] => return []
  | depth, fuel + 1, '\x7b' :: '\x7b' :: rest => do
    return '\x7b' :: (← fieldsText depth fuel rest)
  | depth, fuel + 1, '\x7d' :: '\x7d' :: rest => do
    return '\x7d' :: (← fieldsText depth fuel rest)
  | _, _, '\x7d' :: _ => Evaluated.invalid "Single '\x7d' encountered in format string"
  | _, _, ['\x7b'] => Evaluated.invalid "Single '\x7b' encountered in format string"
  | depth + 1, fuel + 1, '\x7b' :: rest => do
    let (field, after) ← Field.read rest
    let name := field.path.takeWhile fun c => c != '.' && c != '['
    let first ← Offer.first name
    let m ← followed field.path.length first (field.path.drop name.length)
    let m ← convertedBy field.conversion m
    let format ← if field.format.contains '\x7b' then fieldsText depth fuel field.format
      else pure field.format
    let shown ← formatted m (String.ofList format)
    return shown.toList ++ (← fieldsText (depth + 1) fuel after)
  | depth, fuel + 1, c :: rest => do return c :: (← fieldsText depth fuel rest)

/-- A pattern with values in its fields. -/
def ofFields (pattern : String) (offer : Offer) : Evaluated String := do
  let (s, _) ← (fieldsText 2 (pattern.length + 1) pattern.toList).run offer
  return String.ofList s

end Meaning
end Annotation
end BoundUpdate
