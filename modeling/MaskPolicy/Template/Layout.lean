import MaskPolicy.Number.Decimal
import MaskPolicy.Text.Digit

/-!
# Layouts of fields

A field of a template may ask for a layout: a fill character and an alignment, a sign, a width, a
grouping of the digits, a precision and a kind of presentation. `Layout.read` reads the request, and
`Layout.text` and `Layout.integer` carry it out for texts and integers.
-/

namespace MaskPolicy

/-- Where the fill characters of a field go. -/
inductive Alignment where
  | left
  | right
  | afterSign
  | center
  deriving DecidableEq, Repr

namespace Alignment

/-- The alignment that a character asks for. -/
def ofChar? : Char → Option Alignment
  | '<' => some left
  | '>' => some right
  | '=' => some afterSign
  | '^' => some center
  | _ => none

/-- A head and a body filled up to a width; the head is the sign of a number. -/
def fill (a : Alignment) (c : Char) (width : Nat) (head body : Text) : Text :=
  let missing := width - (head.length + body.length)
  match a with
  | left => head ++ body ++ List.replicate missing c
  | right => List.replicate missing c ++ head ++ body
  | afterSign => head ++ List.replicate missing c ++ body
  | center =>
    List.replicate (missing / 2) c ++ head ++ body ++ List.replicate (missing - missing / 2) c

end Alignment

/-- Why a layout cannot be carried out. -/
inductive LayoutError where
  /-- The request is wrong, or wrong for the value. -/
  | refused (reason : Text)
  /-- The value is too large for the presentation. -/
  | overflow
  /-- The field would be too long to hold. -/
  | tooLong
  /-- The value has more digits than are written. -/
  | tooManyDigits
  deriving DecidableEq, Repr

/-- What a layout needs to know of the kind of a value: its name, and the presentation it has unless
another is asked for. -/
structure Presented where
  name : Text
  standard : Option Char
  deriving DecidableEq, Repr

/-- A requested layout. -/
structure Layout where
  fillChar : Option Char
  alignment : Option Alignment
  sign : Option Char
  /-- Is a zero never negative? -/
  plainZero : Bool
  alternate : Bool
  zero : Bool
  width : Nat
  grouping : Option Char
  precision : Option Nat
  kind : Option Char
  deriving DecidableEq, Repr

namespace Layout

/-- The largest number that a layout may hold. -/
def numberLimit : Nat := Nat.pow 2 63 - 1

/-- The widest field that is made. -/
def widthLimit : Nat := Nat.pow 2 32

/-- The number written at the start of a text, and the rest. -/
def readNumber (t : Text) : Option Nat × Text :=
  let digits := (t.takeWhile fun c => (Text.digitValue? c).isSome).filterMap Text.digitValue?
  let number := if digits.isEmpty then none else some (digits.foldl (fun n d => 10 * n + d) 0)
  (number, t.drop digits.length)

/-- One of some characters, if the text starts with it, and the rest. -/
def readOne (choices : List Char) : Text → Option Char × Text
  | [] => (none, [])
  | c :: cs => if c ∈ choices then (some c, cs) else (none, c :: cs)

/-- The fill character and the alignment at the start of a text, and the rest. -/
def readAlignment : Text → Option Char × Option Alignment × Text
  | c :: d :: rest =>
    match Alignment.ofChar? d, Alignment.ofChar? c with
    | some a, _ => (some c, some a, rest)
    | none, some a => (none, some a, d :: rest)
    | none, none => (none, none, c :: d :: rest)
  | [c] =>
    match Alignment.ofChar? c with
    | some a => (none, some a, [])
    | none => (none, none, [c])
  | [] => (none, none, [])

/-- A character in a message: itself, or its code point if it is no visible character of ASCII. -/
def shownChar (c : Char) : Text :=
  if 32 < c.toNat ∧ c.toNat < 128 then [c] else '\\' :: 'x' :: Nat.toDigits 16 c.toNat

/-- Are digits grouped in a presentation by a separator? -/
def groups (separator : Char) : Option Char → Bool
  | none => true
  | some kind =>
    kind ∈ ['d', 'e', 'f', 'g', 'E', 'G', '%', 'F'] ||
      (separator = '_' && kind ∈ ['b', 'o', 'x', 'X'])

/-- The layout that a text asks for a kind of value. -/
def read (value : Presented) (t : Text) : Except LayoutError Layout :=
  let (fillChar, alignment, rest) := readAlignment t
  let (sign, rest) := readOne [' ', '+', '-'] rest
  let (plainZero, rest) := readOne ['z'] rest
  let (alternate, rest) := readOne ['#'] rest
  let (zero, rest) := if fillChar.isSome then (none, rest) else readOne ['0'] rest
  let (width, rest) := readNumber rest
  let (comma, rest) := readOne [','] rest
  let (underscore, rest) := readOne ['_'] rest
  let (point, afterPoint) := readOne ['.'] rest
  let (precision, afterPrecision) := if point.isSome then readNumber afterPoint else (none, rest)
  let kind := afterPrecision.head? <|> value.standard
  let grouping := comma <|> underscore
  if numberLimit < width.getD 0 then .error numberTooLarge
  else if (comma.isSome && underscore.isSome) || (underscore.isSome && rest.head? = some ',') then
    .error (.refused "Cannot specify both ',' and '_'.".toList)
  else if numberLimit < precision.getD 0 then .error numberTooLarge
  else if point.isSome ∧ precision.isNone then
    .error (.refused "Format specifier missing precision".toList)
  else if 1 < afterPrecision.length then
    .error <| .refused <|
      "Invalid format specifier '".toList ++ t ++ "' for object of type '".toList ++ value.name ++
        ['\'']
  else match grouping.filter fun separator => !groups separator kind with
    | some separator =>
      .error <| .refused <|
        "Cannot specify '".toList ++ separator :: "' with '".toList ++
          (kind.map shownChar).getD [] ++ "'.".toList
    | none => .ok {
        fillChar, alignment, sign, plainZero := plainZero.isSome, alternate := alternate.isSome
        zero := zero.isSome, width := width.getD 0, grouping, precision, kind }
where
  /-- The refusal of a number that is too large. -/
  numberTooLarge : LayoutError := .refused "Too many decimal digits in format string".toList

/-- The refusal of a kind of presentation. -/
def unknownKind (kind : Char) (value : Presented) : LayoutError :=
  .refused ("Unknown format code '".toList ++ shownChar kind ++ "' for object of type '".toList ++
    value.name ++ ['\''])

/-- The fill character: the requested one, a zero, or a space. -/
def filler (l : Layout) : Char := l.fillChar.getD (if l.zero then '0' else ' ')

/-- A head and a body in a field that is not too wide. -/
def field (l : Layout) (a : Alignment) (head body : Text) : Except LayoutError Text :=
  if widthLimit < l.width then .error .tooLong else .ok (a.fill l.filler l.width head body)

/-- Texts, for layouts. -/
def textKind : Presented := ⟨"str".toList, some 's'⟩

/-- A text in its field. -/
def text (l : Layout) (t : Text) : Except LayoutError Text :=
  match l.kind with
  | some 's' =>
    if l.sign = some ' ' then refuse "Space not allowed in string format specifier"
    else if l.sign.isSome then refuse "Sign not allowed in string format specifier"
    else if l.plainZero then
      refuse "Negative zero coercion (z) not allowed in string format specifier"
    else if l.alternate then
      refuse "Alternate form (#) not allowed in string format specifier"
    else if l.alignment = some .afterSign then
      refuse "'=' alignment not allowed in string format specifier"
    else
      let cut := match l.precision with
        | some p => t.take p
        | none => t
      l.field (l.alignment.getD .left) [] cut
  | some k => .error (unknownKind k textKind)
  | none => .ok t
where
  /-- The refusal with a reason. -/
  refuse (reason : String) : Except LayoutError Text := .error (.refused reason.toList)

/-! ## Numbers -/

/-- The digits in groups from the right, separated. -/
def grouped (size : Nat) (separator : Char) (digits : Text) : Text :=
  let marked := digits.reverse.zipIdx.flatMap fun (c, i) =>
    if i ≠ 0 ∧ i % size = 0 then [separator, c] else [c]
  marked.reverse

/-- The least number of digits, from `count` upwards, that fill a width when a separator stands
between groups of a size. -/
def digitsToFill (size width count : Nat) : Nat :=
  ((List.range (width + 1)).find? fun more => width ≤ count + more + (count + more - 1) / size).elim
    count (count + ·)

/-- The digits of a number with zeros in front up to a width, in groups if that is asked for. -/
def groupDigits (size : Nat) (separator : Option Char) (width : Nat) (digits : Text) : Text :=
  match separator with
  | none => Text.padStart width '0' digits
  | some separator =>
    grouped size separator (Text.padStart (digitsToFill size width digits.length) '0' digits)

/-- The sign that a number shows. -/
def signOf (l : Layout) (negative : Bool) : Text :=
  if negative then ['-']
  else match l.sign with
    | some '+' => ['+']
    | some ' ' => [' ']
    | _ => []

/-- A number in its field: a head with its sign, its digits, and what follows them. Zeros that fill
a field between the head and the digits are digits of the number. -/
def number (l : Layout) (size : Nat) (head digits rest : Text) : Except LayoutError Text :=
  let alignment := l.alignment.getD (if l.zero then .afterSign else .right)
  let width :=
    if l.filler = '0' ∧ alignment = .afterSign then l.width - (head.length + rest.length) else 0
  if widthLimit < l.width then .error .tooLong
  else
    let body := if digits.isEmpty then [] else groupDigits size l.grouping width digits
    l.field alignment head (body ++ rest)

/-- The base and the mark of a presentation of integers. -/
def base? : Char → Option (Nat × Text)
  | 'd' => some (10, [])
  | 'n' => some (10, [])
  | 'b' => some (2, "0b".toList)
  | 'o' => some (8, "0o".toList)
  | 'x' => some (16, "0x".toList)
  | 'X' => some (16, "0X".toList)
  | _ => none

/-- An integer as the character with its code point. -/
def character (l : Layout) (n : Int) : Except LayoutError Text :=
  if l.sign.isSome then
    .error (.refused "Sign not allowed with integer format specifier 'c'".toList)
  else if l.alternate then
    .error (.refused "Alternate form (#) not allowed with integer format specifier 'c'".toList)
  else if n < 0 ∨ 0x10ffff < n then .error .overflow
  else l.number 3 [] [] [Char.ofNat n.toNat]

/-- An integer in its field, in digits or as a character. -/
def integer (l : Layout) (value : Presented) (n : Int) : Except LayoutError Text :=
  match l.kind with
  | none => .ok (Decimal.ofInt n)
  | some kind =>
    if kind ≠ 'c' ∧ (base? kind).isNone then .error (unknownKind kind value)
    else if l.precision.isSome then
      .error (.refused "Precision not allowed in integer format specifier".toList)
    else if l.plainZero then
      .error (.refused "Negative zero coercion (z) not allowed in integer format specifier".toList)
    else match base? kind with
      | none => l.character n
      | some (base, mark) =>
        if base = 10 ∧ ¬Decimal.Writable n then .error .tooManyDigits
        else
          let digits := Nat.toDigits base n.natAbs
          let digits := if kind = 'X' then Text.upper digits else digits
          let head := l.signOf (n < 0) ++ if l.alternate then mark else []
          l.number (if base = 10 then 3 else 4) head digits []

end Layout

end MaskPolicy
