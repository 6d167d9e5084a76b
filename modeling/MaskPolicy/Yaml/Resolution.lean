import MaskPolicy.Yaml.Scalar

/-!
# Kinds of plain scalars

A plain scalar is a text, unless its form is that of another kind: a truth value, a number, nothing,
a date, or one of the two words with a meaning in mappings. The forms are tried in a fixed order,
and they differ between the two sets of rules.
-/

namespace MaskPolicy.Yaml

/-- The kinds of scalars. -/
inductive ScalarKind where
  | null
  | bool
  | int
  | real
  | moment
  | binary
  | merge
  | default
  | text
  deriving DecidableEq, Repr

namespace Form

/-- A text without one sign at its start. -/
def unsigned : Text → Text
  | '-' :: rest => rest
  | '+' :: rest => rest
  | t => t

/-- Digits, with underscores anywhere. -/
def isDigitMark (c : Char) : Bool := c.isDigit || c = '_'

/-- Is the text made of at least one character that satisfies `p`? -/
def allOf (p : Char → Bool) (t : Text) : Bool := !t.isEmpty && t.all p

/-- An exponent; its sign may be demanded. -/
def isExponent (signed : Bool) : Text → Bool
  | c :: rest => (c = 'e' || c = 'E') && (match rest with
    | '-' :: digits => allOf Char.isDigit digits
    | '+' :: digits => allOf Char.isDigit digits
    | digits => !signed && allOf Char.isDigit digits)
  | [] => false

/-- The rest after a whole number that starts with a digit. -/
def afterWhole? (t : Text) : Option Text :=
  match t with
  | c :: _ => if c.isDigit then some (t.dropWhile isDigitMark) else none
  | [] => none

/-- Parts of a number in base sixty, each after a colon, and the rest. -/
def sixtieths : Nat → Text → Nat × Text
  | fuel + 1, ':' :: a :: b :: rest =>
    if '0' ≤ a ∧ a ≤ '5' ∧ b.isDigit then
      let (n, r) := sixtieths fuel rest
      (n + 1, r)
    else if a.isDigit then
      let (n, r) := sixtieths fuel (b :: rest)
      (n + 1, r)
    else (0, ':' :: a :: b :: rest)
  | _, [':', a] => if a.isDigit then (1, []) else (0, [':', a])
  | _, t => (0, t)

/-- A number with a point or an exponent, or a special value. -/
def isReal (rules : Rules) (t : Text) : Bool :=
  let u := unsigned t
  match afterWhole? u with
  | some ('.' :: fraction) =>
    let rest := fraction.dropWhile isDigitMark
    rest.isEmpty || isExponent false rest
  | some rest =>
    isExponent false rest || (rules = .classic && (match sixtieths rest.length rest with
      | (_ + 1, '.' :: fraction) => fraction.all isDigitMark
      | _ => false))
  | none =>
    match u with
    | '.' :: fraction =>
      let marks := fraction.takeWhile isDigitMark
      let rest := fraction.dropWhile isDigitMark
      if marks.isEmpty then
        (String.ofList fraction) ∈ ["inf", "Inf", "INF"] ||
          (u = t && (String.ofList fraction) ∈ ["nan", "NaN", "NAN"])
      else (rules = .current || u = t) && (rest.isEmpty || isExponent true rest)
    | _ => false

/-- The digits of a base, with underscores anywhere. -/
def isOctalMark (c : Char) : Bool := ('0' ≤ c && c ≤ '7') || c = '_'

/-- A whole number in one of the bases. -/
def isInt (rules : Rules) (t : Text) : Bool :=
  let u := unsigned t
  let starts := match t with
    | c :: _ => c.isDigit || c = '-' || c = '+'
    | [] => false
  let isHexMark (c : Char) : Bool := (Json.hexValue? c).isSome || c = '_'
  starts && (match u with
    | '0' :: 'b' :: digits => allOf (fun c => c = '0' || c = '1' || c = '_') digits
    | '0' :: 'x' :: digits => allOf isHexMark digits
    | '0' :: 'o' :: digits => rules = .current && allOf isOctalMark digits
    | _ =>
      match rules with
      | .current => allOf isDigitMark u
      | .classic =>
        allOf isOctalMark u || (match u with
          | c :: _ => '1' ≤ c && c ≤ '9' && (match u.dropWhile isDigitMark with
            | [] => true
            | rest => (sixtieths rest.length rest).2.isEmpty)
          | [] => false))

/-- A number of digits within bounds, and the rest. -/
def digits? (least most : Nat) (t : Text) : Option (Nat × Text) :=
  let ds := (t.takeWhile Char.isDigit).take most
  if least ≤ ds.length then some (Nat.ofDigitChars 10 ds 0, t.drop ds.length) else none

/-- The rest after a character. -/
def after? (c : Char) : Text → Option Text
  | x :: rest => if x = c then some rest else none
  | [] => none

/-- A date, and the time of day if there is one: year, month, day, hour, minute and second. -/
structure Moment where
  year : Nat
  month : Nat
  day : Nat
  time : Option (Nat × Nat × Nat)
  deriving DecidableEq, Repr

/-- A zone: a letter or a distance from it. -/
def isZone (t : Text) : Bool :=
  match t.dropWhile fun c => c = ' ' || c = '\t' with
  | [] => t.isEmpty
  | ['Z'] => true
  | sign :: rest => (sign = '-' || sign = '+') && (match digits? 1 2 rest with
    | some (_, []) => true
    | some (_, ':' :: minutes) => minutes.length = 2 && minutes.all Char.isDigit
    | _ => false)

/-- A time of day after a date: a letter or blanks, the time, and maybe a fraction and a zone. -/
def time? (t : Text) : Option (Nat × Nat × Nat) := do
  let rest ← match t with
    | 'T' :: rest => some rest
    | 't' :: rest => some rest
    | _ =>
      let rest := t.dropWhile fun c => c = ' ' || c = '\t'
      if rest.length < t.length then some rest else none
  let (hour, rest) ← digits? 1 2 rest
  let (minute, rest) ← digits? 2 2 (← after? ':' rest)
  let (second, rest) ← digits? 2 2 (← after? ':' rest)
  let rest := match rest with
    | '.' :: fraction => fraction.dropWhile Char.isDigit
    | _ => rest
  if isZone rest then some (hour, minute, second) else none

/-- The date that a text spells. Single digits are allowed when a time follows. -/
def moment? (t : Text) : Option Moment := do
  let (year, rest) ← digits? 4 4 t
  let (month, monthRest) ← digits? 1 2 (← after? '-' rest)
  let (day, dayRest) ← digits? 1 2 (← after? '-' monthRest)
  if dayRest.isEmpty then
    if t.length = 10 then some ⟨year, month, day, none⟩ else none
  else some ⟨year, month, day, some (← time? dayRest)⟩

/-- The words for truth values. -/
def isBool (rules : Rules) (t : Text) : Bool :=
  let word := String.ofList t
  word ∈ ["true", "True", "TRUE", "false", "False", "FALSE"] || (rules = .classic &&
    word ∈ ["y", "Y", "yes", "Yes", "YES", "n", "N", "no", "No", "NO", "on", "On", "ON", "off",
      "Off", "OFF"])

/-- The words for nothing. -/
def isNull (t : Text) : Bool := (String.ofList t) ∈ ["", "~", "null", "Null", "NULL"]

end Form

/-- The kind of a plain scalar. -/
def plainKind (rules : Rules) (t : Text) : ScalarKind :=
  if Form.isBool rules t then .bool
  else if Form.isReal rules t then .real
  else if Form.isInt rules t then .int
  else if t = ['<', '<'] then .merge
  else if Form.isNull t then .null
  else if (Form.moment? t).isSome then .moment
  else if t = ['='] then .default
  else .text

end MaskPolicy.Yaml
