import MaskPolicy.Yaml.Node
import MaskPolicy.Yaml.Resolution

/-!
# The value of a document

The nodes of a document are given values according to their tags, or to their form when they have
none. Aliases take the value of their anchor, the pairs of merged mappings are put in front of a
mapping's own, and no key may occur twice. Keys are compared as values, so that a number is the same
key in any form.
-/

namespace MaskPolicy.Yaml

/-- A value of a document. -/
inductive Value where
  | null
  | bool (b : Bool)
  | int (n : Int)
  | real (x : Binary64)
  | text (t : Text)
  | binary (bytes : List UInt8)
  | moment (m : Form.Moment)
  | sequence (items : List Value)
  | mapping (pairs : List (Value × Value))
  | set (items : List Value)
  deriving Inhabited

/-- Why a document has no value. Texts that have the form of a number or a date, or are said to be
one, may still not be one, or have too many digits. -/
inductive Failure where
  | syntaxError (e : SyntaxError)
  | notInteger (t : Text) (base : Nat)
  | tooManyDigits (count : Nat)
  | notReal (t : Text)
  | notMoment (reason : Text)
  | notBool (word : Text)
  | nestedKey
  deriving Repr

/-- What the evaluation of a node gives. -/
abbrev Evaluated := Except Failure

namespace Value

/-- The number that a value is, where numbers of all kinds are compared. -/
def number? : Value → Option Int
  | bool b => some (if b then 1 else 0)
  | int n => some n
  | real x => x.toInt?
  | _ => none

mutual

/-- Are two values the same key? -/
def sameKey (a b : Value) : Bool :=
  match a, b with
  | null, null => true
  | real x, real y => x = y || (x.toInt?.isSome && x.toInt? = y.toInt?)
  | text s, text t => s = t
  | binary s, binary t => s = t
  | moment s, moment t => s = t
  | sequence xs, sequence ys => sameKeys xs ys
  | a, b => a.number?.isSome && a.number? = b.number?

/-- Are the values of two lists the same keys? -/
def sameKeys : List Value → List Value → Bool
  | [], [] => true
  | x :: xs, y :: ys => sameKey x y && sameKeys xs ys
  | _, _ => false

end

/-- Can the value be a key? Collections cannot, except for sequences of values that can. -/
def checkKey (v : Value) : Evaluated Unit :=
  match v with
  | mapping _ => .error (.syntaxError .unusableKey)
  | set _ => .error (.syntaxError .unusableKey)
  | sequence items =>
    let simple : Value → Bool
      | mapping _ | set _ | sequence _ => false
      | _ => true
    if items.all simple then .ok () else .error .nestedKey
  | _ => .ok ()

/-- Pairs with one more, which takes the place of a pair with the same key. -/
def putPair (pairs : List (Value × Value)) (key value : Value) : List (Value × Value) :=
  if pairs.any fun p => p.1.sameKey key then
    pairs.map fun p => if p.1.sameKey key then (p.1, value) else p
  else pairs ++ [(key, value)]

end Value

/-! ## Scalars -/

/-- The prefix of the tags with a meaning. -/
def coreTag : Text := "tag:yaml.org,2002:".toList

/-- The number that digits of a base denote. -/
def baseNumber? (base : Nat) (t : Text) : Option Nat :=
  if t.isEmpty then none
  else t.foldl (fun acc c => acc.bind fun n =>
    (Json.hexValue? c).bind fun d => if d < base then some (base * n + d) else none) (some 0)

/-- A number in base sixty, its parts separated by colons. -/
def sixtyNumber? (t : Text) : Option Nat :=
  (Text.splitOn ':' t).foldl
    (fun acc part => acc.bind fun n => (baseNumber? 10 part).map (60 * n + ·)) (some 0)

/-- The number that decimal digits denote. Only so many digits are read, whatever comes after them.
-/
def readDecimal (t : Text) : Evaluated Nat :=
  let count := (t.takeWhile Char.isDigit).length
  if Decimal.digitLimit < count then .error (.tooManyDigits count)
  else (baseNumber? 10 t).elim (.error (.notInteger t 10)) .ok

/-- A whole number in base sixty, its parts separated by colons and each in decimal. -/
def readSixty : Nat → List Text → Evaluated Nat
  | n, [] => .ok n
  | n, part :: parts =>
    match readDecimal part with
    | .error e => .error e
    | .ok digit => readSixty (60 * n + digit) parts

/-- The integer that a scalar spells. -/
def readInt (rules : Rules) (t : Text) : Evaluated Int :=
  let marks := t.filter (· ≠ '_')
  let digits := Form.unsigned marks
  let inBase (base : Nat) (ds : Text) : Evaluated Nat :=
    (baseNumber? base ds).elim (.error (.notInteger ds base)) .ok
  let number : Evaluated Nat := match digits with
    | '0' :: 'b' :: ds => inBase 2 ds
    | '0' :: 'x' :: ds => inBase 16 ds
    | '0' :: 'o' :: ds => inBase 8 ds
    | _ =>
      match rules, digits with
      | .classic, '0' :: _ => inBase 8 digits
      | .classic, _ =>
        if digits.contains ':' then readSixty 0 (Text.splitOn ':' digits) else readDecimal digits
      | .current, _ => readDecimal digits
  number.map fun n => if marks.head? = some '-' then -(n : Int) else n

/-- The decimal that digits with a point and an exponent denote: its digits and a power of ten. -/
def decimal? (t : Text) : Option (Nat × Int) :=
  let whole := t.takeWhile Char.isDigit
  let rest := t.dropWhile Char.isDigit
  let (fraction, rest) := match rest with
    | '.' :: r => (r.takeWhile Char.isDigit, r.dropWhile Char.isDigit)
    | r => ([], r)
  let digits := whole ++ fraction
  if digits.isEmpty then none
  else
    let power : Option Int := match rest with
      | [] => some 0
      | 'e' :: '-' :: ds => (Decimal.toNat? ds).map fun n => -(n : Int)
      | 'e' :: '+' :: ds => (Decimal.toNat? ds).map Int.ofNat
      | 'e' :: ds => (Decimal.toNat? ds).map Int.ofNat
      | _ => none
    power.map fun p => (Nat.ofDigitChars 10 digits 0, p - fraction.length)

/-- The number that a scalar spells. -/
def readReal (rules : Rules) (t : Text) : Evaluated Binary64 :=
  let marks := Text.lower (t.filter (· ≠ '_'))
  let body := Form.unsigned marks
  let negative := marks.head? = some '-'
  if body = ".inf".toList then .ok (.infinite negative)
  else if body = ".nan".toList then .ok .nan
  else if rules = .classic ∧ body.contains ':' then
    let parts := Text.splitOn ':' body
    let whole := (sixtyNumber? (Text.joinWith [':'] parts.dropLast)).getD 0
    match decimal? (parts.getLast?.getD []) with
    | some (n, p) => .ok (.ofDecimal negative (60 * whole * Nat.pow 10 (-p).toNat + n) p)
    | none => .error (.notReal body)
  else match decimal? body with
    | some (n, p) => .ok (.ofDecimal negative n p)
    | none => .error (.notReal body)

/-- The truth value that a word names. -/
def readBool (t : Text) : Evaluated Bool :=
  let word := Text.lower t
  if String.ofList word ∈ ["yes", "y", "true", "on"] then .ok true
  else if String.ofList word ∈ ["no", "n", "false", "off"] then .ok false
  else .error (.notBool word)

/-- The number of days of a month. -/
def daysIn (year month : Nat) : Nat :=
  if month = 2 then
    if year % 4 = 0 ∧ (year % 100 ≠ 0 ∨ year % 400 = 0) then 29 else 28
  else if month ∈ [4, 6, 9, 11] then 30 else 31

/-- The date that a scalar spells, if the calendar has it. -/
def readMoment (t : Text) : Evaluated Form.Moment :=
  match Form.moment? t with
  | none => .error (.syntaxError .wrongKind)
  | some m =>
    if m.year = 0 then .error (.notMoment "year 0 is out of range".toList)
    else if m.month = 0 ∨ 12 < m.month then .error (.notMoment "month must be in 1..12".toList)
    else if m.day = 0 ∨ daysIn m.year m.month < m.day then
      .error (.notMoment "day is out of range for month".toList)
    else match m.time with
      | none => .ok m
      | some (hour, minute, second) =>
        if 23 < hour then .error (.notMoment "hour must be in 0..23".toList)
        else if 59 < minute then .error (.notMoment "minute must be in 0..59".toList)
        else if 59 < second then .error (.notMoment "second must be in 0..59".toList)
        else .ok m

/-- The value of a character of binary data. -/
def sixBits? (c : Char) : Option Nat :=
  if c.isUpper then some (c.toNat - 'A'.toNat)
  else if c.isLower then some (c.toNat - 'a'.toNat + 26)
  else if c.isDigit then some (c.toNat - '0'.toNat + 52)
  else if c = '+' then some 62
  else if c = '/' then some 63
  else none

/-- Groups of four characters of binary data as bytes. -/
def bytesOf : List Nat → Option (List UInt8)
  | [] => some []
  | [_] => none
  | [a, b] => some [UInt8.ofNat (a * 4 + b / 16)]
  | [a, b, c] => some [UInt8.ofNat (a * 4 + b / 16), UInt8.ofNat (b % 16 * 16 + c / 4)]
  | a :: b :: c :: d :: rest =>
    (bytesOf rest).map fun bytes =>
      UInt8.ofNat (a * 4 + b / 16) :: UInt8.ofNat (b % 16 * 16 + c / 4) ::
        UInt8.ofNat (c % 4 * 64 + d) :: bytes

/-- The bytes that a scalar spells. -/
def readBinary (t : Text) : Evaluated (List UInt8) :=
  let data := (t.filter fun c => (sixBits? c).isSome).filterMap sixBits?
  let padding := (t.filter (· = '=')).length
  if t.any fun c => 0x7f < c.toNat then .error (.syntaxError .badBinary)
  else if (data.length + padding) % 4 ≠ 0 then .error (.syntaxError .badBinary)
  else (bytesOf data).elim (.error (.syntaxError .badBinary)) .ok

/-- The value of a scalar of a kind. -/
def readScalar (rules : Rules) (t : Text) : ScalarKind → Evaluated Value
  | .null => .ok .null
  | .bool => (readBool t).map .bool
  | .int => (readInt rules t).map .int
  | .real => (readReal rules t).map .real
  | .moment => (readMoment t).map .moment
  | .binary => (readBinary t).map .binary
  | .text => .ok (.text t)
  | .merge => .error (.syntaxError .unknownTag)
  | .default => .error (.syntaxError .unknownTag)

/-- The kind that a tag gives to a scalar. -/
def tagKind? (tag : Text) : Option ScalarKind :=
  (Text.dropStart? coreTag tag).bind fun name =>
    [("null", ScalarKind.null), ("bool", .bool), ("int", .int), ("float", .real),
      ("timestamp", .moment), ("binary", .binary), ("str", .text), ("merge", .merge),
      ("value", .default)].lookup (String.ofList name)

/-- The kind of a scalar, from its tag or from its form. -/
def scalarKind? (rules : Rules) (p : Properties) (isPlain : Bool) (t : Text) : Option ScalarKind :=
  match p.tag with
  | none => some (if isPlain then plainKind rules t else .text)
  | some ['!'] => some (if isPlain then plainKind rules t else .text)
  | some tag => tagKind? tag

/-! ## Collections -/

/-- The values of the anchors that were seen; nothing for a node that is not finished. -/
abbrev Anchors := List (Text × Option Value)

/-- The anchors with one more, if there is a name for it. -/
def bindAnchor (name : Option Text) (v : Option Value) (anchors : Anchors) : Anchors :=
  match name with
  | some n => (n, v) :: anchors
  | none => anchors

/-- Does a tag allow a sequence? -/
def isSequenceTag (tag : Option Text) : Bool :=
  tag.isNone || tag = some ['!'] || tag = some (coreTag ++ "seq".toList) ||
    tag = some (coreTag ++ "pairs".toList) || tag = some (coreTag ++ "omap".toList)

/-- The pairs that a merged value contributes. The first of several mappings has the last word. -/
def mergedPairs : Value → Evaluated (List (Value × Value))
  | .mapping pairs => .ok pairs
  | .sequence items => do
    let parts ← items.mapM fun
      | .mapping pairs => Except.ok pairs
      | _ => .error (.syntaxError .badMerge)
    return parts.reverse.flatten
  | _ => .error (.syntaxError .badMerge)

/-- The pairs of an ordered mapping written as a sequence of single pairs. -/
def orderedPairs : List Value → Evaluated (List (Value × Value))
  | [] => .ok []
  | .mapping [p] :: rest => (orderedPairs rest).map (p :: ·)
  | _ => .error (.syntaxError .wrongKind)

/-- The value of a sequence under its tag. -/
def sequenceValue (tag : Option Text) (items : List Value) : Evaluated Value :=
  if tag = some (coreTag ++ "omap".toList) then do
    let pairs ← orderedPairs items
    return .mapping (pairs.foldl (fun acc p => Value.putPair acc p.1 p.2) [])
  else if tag = some (coreTag ++ "pairs".toList) then do
    let pairs ← orderedPairs items
    return .sequence (pairs.map fun p => .sequence [p.1, p.2])
  else .ok (.sequence items)

/-- A pair of a mapping: merged pairs, or a key with its value. -/
inductive Pair where
  | merge (pairs : List (Value × Value))
  | own (key value : Value)

/-- The pairs of a mapping, merged ones first. Without merged pairs no key may occur twice. -/
def joinPairs (pairs : List Pair) : Evaluated (List (Value × Value)) := do
  let merged ← gather [] pairs
  let own := pairs.filterMap fun
    | .own k v => some (k, v)
    | .merge _ => none
  if merged.isEmpty then distinct [] own
  else return (merged ++ own).foldl (fun acc p => Value.putPair acc p.1 p.2) []
where
  /-- The merged pairs; a second merge is a key that occurs twice. -/
  gather (merged : List (Value × Value)) : List Pair → Evaluated (List (Value × Value))
    | [] => .ok merged
    | .own .. :: rest => gather merged rest
    | .merge more :: rest =>
      if merged.isEmpty then gather more rest else .error (.syntaxError .duplicateKey)
  /-- Pairs with different keys. -/
  distinct (seen : List (Value × Value)) : List (Value × Value) → Evaluated (List (Value × Value))
    | [] => .ok seen
    | (k, v) :: rest =>
      if seen.any fun p => p.1.sameKey k then .error (.syntaxError .duplicateKey)
      else distinct (seen ++ [(k, v)]) rest

/-- The value of a mapping under its tag. -/
def mappingValue (tag : Option Text) (pairs : List (Value × Value)) : Evaluated Value :=
  if tag.isNone ∨ tag = some ['!'] ∨ tag = some (coreTag ++ "map".toList) then .ok (.mapping pairs)
  else if tag = some (coreTag ++ "set".toList) then .ok (.set (pairs.map Prod.fst))
  else if isSequenceTag tag || (tag.bind tagKind?).isSome then .error (.syntaxError .wrongKind)
  else .error (.syntaxError .unknownTag)

/-- A key with its value as a pair. -/
def joinKey (key : Option Value) (value : Value) : Evaluated Pair :=
  match key with
  | none => (mergedPairs value).map .merge
  | some k => (Value.checkKey k).map fun _ => .own k value

mutual

/-- The value of a node, and the anchors seen so far. -/
def evaluate (rules : Rules) (anchors : Anchors) : Node → Evaluated (Value × Anchors)
  | .alias name =>
    match anchors.find? fun a => decide (a.1 = name) with
    | none => .error (.syntaxError .undefinedAlias)
    | some (_, some v) => .ok (v, anchors)
    | some (_, none) => .ok (.sequence [.null], anchors)
  | .scalar p isPlain t =>
    match scalarKind? rules p isPlain t with
    | none => .error (.syntaxError (if isSequenceTag p.tag then .wrongKind else .unknownTag))
    | some kind =>
      match readScalar rules t kind with
      | .error e => .error e
      | .ok v => .ok (v, bindAnchor p.anchor (some v) anchors)
  | .sequence p items =>
    if !isSequenceTag p.tag then .error (.syntaxError .unknownTag)
    else
      match evaluateItems rules (bindAnchor p.anchor none anchors) items with
      | .error e => .error e
      | .ok (items, anchors) =>
        match sequenceValue p.tag items with
        | .error e => .error e
        | .ok v => .ok (v, bindAnchor p.anchor (some v) anchors)
  | .mapping p pairs =>
    match evaluatePairs rules (bindAnchor p.anchor none anchors) pairs with
    | .error e => .error e
    | .ok (pairs, anchors) =>
      match joinPairs pairs >>= mappingValue p.tag with
      | .error e => .error e
      | .ok v => .ok (v, bindAnchor p.anchor (some v) anchors)

/-- The values of some nodes. -/
def evaluateItems (rules : Rules) (anchors : Anchors) : List Node → Evaluated (List Value × Anchors)
  | [] => .ok ([], anchors)
  | n :: rest =>
    match evaluate rules anchors n with
    | .error e => .error e
    | .ok (v, anchors) =>
      match evaluateItems rules anchors rest with
      | .error e => .error e
      | .ok (vs, anchors) => .ok (v :: vs, anchors)

/-- The pairs of a mapping. -/
def evaluatePairs (rules : Rules) (anchors : Anchors) :
    List (Node × Node) → Evaluated (List Pair × Anchors)
  | [] => .ok ([], anchors)
  | (key, value) :: rest =>
    match evaluateKey rules anchors key with
    | .error e => .error e
    | .ok (key, anchors) =>
      match evaluate rules anchors value with
      | .error e => .error e
      | .ok (value, anchors) =>
        match joinKey key value with
        | .error e => .error e
        | .ok pair =>
          match evaluatePairs rules anchors rest with
          | .error e => .error e
          | .ok (pairs, anchors) => .ok (pair :: pairs, anchors)

/-- The value of a key; nothing for the merge key. -/
def evaluateKey (rules : Rules) (anchors : Anchors) : Node → Evaluated (Option Value × Anchors)
  | .scalar p isPlain t =>
    match scalarKind? rules p isPlain t with
    | some .merge => .ok (none, anchors)
    | some .default => .ok (some (.text t), anchors)
    | _ =>
      match evaluate rules anchors (.scalar p isPlain t) with
      | .error e => .error e
      | .ok (v, anchors) => .ok (some v, anchors)
  | n =>
    match evaluate rules anchors n with
    | .error e => .error e
    | .ok (v, anchors) => .ok (some v, anchors)

end

/-! ## Documents -/

/-- The characters that a document may hold. -/
def isAllowed (c : Char) : Bool :=
  Text.inRanges [(0x09, 0x0a), (0x0d, 0x0d), (0x20, 0x7e), (0x85, 0x85), (0xa0, 0xd7ff),
    (0xe000, 0xfffd), (0x10000, 0x10ffff)] c.toNat

/-- Pairs of bytes as code units. -/
def codeUnits (bigEndian : Bool) : List UInt8 → Option (List Nat)
  | [] => some []
  | [_] => none
  | a :: b :: rest =>
    let unit := if bigEndian then a.toNat * 256 + b.toNat else b.toNat * 256 + a.toNat
    (codeUnits bigEndian rest).map (unit :: ·)

/-- Code units as characters. -/
def unitChars : List Nat → Option Text
  | [] => some []
  | [u] => (Json.unitChar? u).map fun c => [c]
  | u :: v :: rest =>
    match Json.unitChar? u with
    | some c => (unitChars (v :: rest)).map (c :: ·)
    | none => do
      let c ← Json.pairChar? u v
      return c :: (← unitChars rest)

/-- The text of a document, whose encoding shows in its first bytes. -/
def decode? : List UInt8 → Option Text
  | 0xff :: 0xfe :: rest => (codeUnits false rest).bind unitChars
  | 0xfe :: 0xff :: rest => (codeUnits true rest).bind unitChars
  | bytes => (String.fromUTF8? (ByteArray.mk bytes.toArray)).map String.toList

/-- The value of a document; nothing has no value. -/
def read (bytes : List UInt8) : Except Failure Value := do
  match decode? bytes with
  | none => throw (.syntaxError .encoding)
  | some t =>
    if !t.all isAllowed then throw (.syntaxError .unprintable)
    let (tokens, rules) ← (tokensOf t).mapError .syntaxError
    match ← (readDocument tokens).mapError .syntaxError with
    | none => return .null
    | some node => return (← evaluate rules [] node).1

end MaskPolicy.Yaml
