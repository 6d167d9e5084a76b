import MaskPolicy.Json.Basic

/-!
# Reading JSON

A reader for the standard grammar. A number without fraction and exponent is an integer of any size;
a pair of escaped surrogates is one code point and a lone one is refused. The reader runs on fuel
that the length of its input supplies, since every step consumes a character.
-/

namespace MaskPolicy.Json

/-- The four characters that may stand between tokens. -/
def isSpace (c : Char) : Bool := c = ' ' || c = '\n' || c = '\r' || c = '\t'

/-- The text from its first token on. -/
def skipSpace (t : Text) : Text := t.dropWhile isSpace

/-- The value of a hexadecimal digit. -/
def hexValue? (c : Char) : Option Nat :=
  if c.isDigit then some (c.toNat - '0'.toNat)
  else if 'a' ≤ c ∧ c ≤ 'f' then some (c.toNat - 'a'.toNat + 10)
  else if 'A' ≤ c ∧ c ≤ 'F' then some (c.toNat - 'A'.toNat + 10)
  else none

/-- The number that hexadecimal digits denote. -/
def hexNumber? (digits : Text) : Option Nat :=
  digits.foldl (fun acc c => acc.bind fun n => (hexValue? c).map (16 * n + ·)) (some 0)

/-- The character that a letter after a backslash stands for. -/
def unescape? : Char → Option Char
  | '"' => some '"'
  | '\\' => some '\\'
  | '/' => some '/'
  | 'b' => some '\x08'
  | 'f' => some '\x0c'
  | 'n' => some '\n'
  | 'r' => some '\r'
  | 't' => some '\t'
  | _ => none

/-- A code unit outside the surrogates, as a character. -/
def unitChar? (n : Nat) : Option Char :=
  if 0xD800 ≤ n ∧ n ≤ 0xDFFF then none else some (Char.ofNat n)

/-- The character of a pair of surrogates. -/
def pairChar? (high low : Nat) : Option Char :=
  if 0xD800 ≤ high ∧ high ≤ 0xDBFF ∧ 0xDC00 ≤ low ∧ low ≤ 0xDFFF then
    some (Char.ofNat (0x10000 + (high - 0xD800) * 0x400 + (low - 0xDC00)))
  else none

/-- A string after its opening quote, and what follows its closing quote. -/
def readString : Text → Option (Text × Text)
  | [] => none
  | '"' :: rest => some ([], rest)
  | '\\' :: 'u' :: a :: b :: c :: d :: '\\' :: 'u' :: e :: f :: g :: h :: rest =>
    match hexNumber? [a, b, c, d] with
    | none => none
    | some high =>
      match unitChar? high with
      | some x =>
      (readString ('\\' :: 'u' :: e :: f :: g :: h :: rest)).map fun (t, r) => (x :: t, r)
      | none => do
        let x ← pairChar? high (← hexNumber? [e, f, g, h])
        let (t, r) ← readString rest
        return (x :: t, r)
  | '\\' :: 'u' :: a :: b :: c :: d :: rest => do
    let x ← unitChar? (← hexNumber? [a, b, c, d])
    let (t, r) ← readString rest
    return (x :: t, r)
  | '\\' :: e :: rest => do
    let x ← unescape? e
    let (t, r) ← readString rest
    return (x :: t, r)
  | c :: rest =>
    if c.toNat < 0x20 then none else (readString rest).map fun (t, r) => (c :: t, r)

/-- The digits at the start of a text, and the rest. -/
def digits (t : Text) : Text × Text := (t.takeWhile Char.isDigit, t.dropWhile Char.isDigit)

/-- The fraction digits of a number, if a decimal point with a digit follows. -/
def readFraction : Text → Option (Option Text × Text)
  | '.' :: rest =>
    let (ds, r) := digits rest
    if ds.isEmpty then none else some (some ds, r)
  | t => some (none, t)

/-- The exponent of a number, if an exponent mark with a digit follows. -/
def readExponent : Text → Option (Option Int × Text)
  | c :: rest =>
    if c = 'e' ∨ c = 'E' then
      let (negative, body) := match rest with
        | '-' :: r => (true, r)
        | '+' :: r => (false, r)
        | r => (false, r)
      let (ds, r) := digits body
      if ds.isEmpty then none
      else
        let n : Int := Nat.ofDigitChars 10 ds 0
        some (some (if negative then -n else n), r)
    else some (none, c :: rest)
  | [] => some (none, [])

/-- Whether a text starts with a minus sign, and what follows the sign. -/
def readSign : Text → Bool × Text
  | '-' :: rest => (true, rest)
  | t => (false, t)

/-- The digits before the point of a number, and the rest. No digit follows a leading zero. -/
def readWhole : Text → Text × Text
  | '0' :: rest => (['0'], rest)
  | t => digits t

/-- A number, and the rest. -/
def readNumber (t : Text) : Option (Json × Text) := do
  let (negative, body) := readSign t
  let (ds, rest) := readWhole body
  if ds.isEmpty then none
  let (fraction, rest) ← readFraction rest
  let (exponent, rest) ← readExponent rest
  match fraction, exponent with
  | none, none =>
    let n : Int := Nat.ofDigitChars 10 ds 0
    return (.int (if negative then -n else n), rest)
  | _, _ =>
    let decimals := fraction.getD []
    let significand := Nat.ofDigitChars 10 (ds ++ decimals) 0
    return (.real (.ofDecimal negative significand (exponent.getD 0 - decimals.length)), rest)

mutual

/-- A value that starts at the first character, and the rest. -/
def readValue : Nat → Text → Option (Json × Text)
  | 0, _ => none
  | fuel + 1, t =>
    match t with
    | '"' :: rest => (readString rest).map fun (s, r) => (.str s, r)
    | '[' :: rest =>
      match skipSpace rest with
      | ']' :: r => some (.arr [], r)
      | r => (readItems fuel r).map fun (items, r) => (.arr items, r)
    | '{' :: rest =>
      match skipSpace rest with
      | '}' :: r => some (.obj [], r)
      | r => (readMembers fuel r).map fun (members, r) => (.obj members, r)
    | 'n' :: 'u' :: 'l' :: 'l' :: rest => some (.null, rest)
    | 't' :: 'r' :: 'u' :: 'e' :: rest => some (.bool true, rest)
    | 'f' :: 'a' :: 'l' :: 's' :: 'e' :: rest => some (.bool false, rest)
    | t => readNumber t

/-- The items of an array from its first item on, through its closing bracket. -/
def readItems : Nat → Text → Option (List Json × Text)
  | 0, _ => none
  | fuel + 1, t => do
    let (item, rest) ← readValue fuel t
    match skipSpace rest with
    | ']' :: r => return ([item], r)
    | ',' :: r =>
      let (items, r) ← readItems fuel (skipSpace r)
      return (item :: items, r)
    | _ => none

/-- The members of an object from its first name on, through its closing brace. -/
def readMembers : Nat → Text → Option (List (Text × Json) × Text)
  | 0, _ => none
  | fuel + 1, t => do
    match t with
    | '"' :: rest =>
      let (name, rest) ← readString rest
      match skipSpace rest with
      | ':' :: r =>
        let (value, rest) ← readValue fuel (skipSpace r)
        match skipSpace rest with
        | '}' :: r => return ([(name, value)], r)
        | ',' :: r =>
          let (members, r) ← readMembers fuel (skipSpace r)
          return ((name, value) :: members, r)
        | _ => none
      | _ => none
    | _ => none

end

/-- The value that a whole text denotes. -/
def read? (t : Text) : Option Json := do
  let (v, rest) ← readValue (t.length + 1) (skipSpace t)
  if (skipSpace rest).isEmpty then some v else none

end MaskPolicy.Json
