import MaskPolicy.Number.Lenient
import MaskPolicy.Record.Checked
import MaskPolicy.Record.Schema

/-!
# Codecs

A codec checks payloads for values of a type and writes the values back as JSON. Checking is
lenient: numbers and truth values are also read from texts, and numbers from other numbers. What a
codec writes it reads back, and its schema describes the payloads that need no leniency.
-/

namespace MaskPolicy

/-- A codec between JSON and a type. -/
structure Codec (α : Type) where
  decode : Json → Checked α
  encode : α → Json
  schema : Schema
  decode_encode : ∀ a, decode (encode a) = .ok a

namespace Codec

/-- The words for the two truth values. -/
def wordTruth? (word : Text) : Option Bool :=
  let word := String.ofList (word.map Char.toLower)
  if word ∈ ["1", "true", "t", "yes", "y", "on"] then some true
  else if word ∈ ["0", "false", "f", "no", "n", "off"] then some false
  else none

/-- Truth values, also as words or as zero and one. -/
def bool : Codec Bool where
  decode
    | .bool b => .ok b
    | .int n => if n = 0 then .ok false else if n = 1 then .ok true else .refuse .unreadableBool
    | .str t => (wordTruth? t).elim (.refuse .unreadableBool) .ok
    | .real x =>
      match x.toInt? with
      | some 0 => .ok false
      | some 1 => .ok true
      | _ => .refuse .notBool
    | _ => .refuse .notBool
  encode := .bool
  schema := .ofType "boolean"
  decode_encode _ := rfl

/-- Integers, also from texts, from truth values and from numbers without a fraction. Numbers with a
point or an exponent are taken only below `2 ^ 63`. -/
def integer : Codec Int where
  decode
    | .int n => .ok n
    | .bool b => .ok (if b then 1 else 0)
    | .str t =>
      match Decimal.read t with
      | .number n => .ok n
      | .tooLong => .refuse .tooLongInteger
      | .unreadable => .refuse .unreadableInteger
    | .real (.finite s m e) =>
      match (Binary64.finite s m e).toInt? with
      | some n => if n.natAbs < Nat.pow 2 63 then .ok n else .refuse .tooLongInteger
      | none => .refuse .fraction
    | .real _ => .refuse .notFinite
    | _ => .refuse .notInteger
  encode := .int
  schema := .ofType "integer"
  decode_encode _ := rfl

/-- Natural numbers between two bounds. -/
def Between (low : Nat) (high : Option Nat) : Type := { n : Nat // low ≤ n ∧ ∀ h ∈ high, n ≤ h }

/-- An integer that is not below the lower bound is a natural number from it on. -/
theorem between_none {low : Nat} {n : Int} (hl : ¬n < low) :
    low ≤ n.toNat ∧ ∀ h ∈ (none : Option Nat), n.toNat ≤ h :=
  ⟨by omega, fun _ => nofun⟩

/-- An integer that is beyond neither bound is a natural number between them. -/
theorem between_some {low top : Nat} {n : Int} (hl : ¬n < low) (hh : ¬top < n) :
    low ≤ n.toNat ∧ ∀ h ∈ some top, n.toNat ≤ h := by
  refine ⟨by omega, ?_⟩
  rintro h ⟨⟩
  omega

/-- An integer within bounds. -/
def checkBetween (low : Nat) (high : Option Nat) (n : Int) : Checked (Between low high) :=
  if hl : n < low then .refuse (.belowMinimum low)
  else match high with
    | none => .ok ⟨n.toNat, between_none hl⟩
    | some top =>
      if hh : top < n then .refuse (.aboveMaximum top)
      else .ok ⟨n.toNat, between_some hl hh⟩

/-- A natural number within bounds passes the check. -/
theorem checkBetween_val {low : Nat} {high : Option Nat} (n : Between low high) :
    checkBetween low high (n.val : Int) = .ok n := by
  obtain ⟨n, hl, hh⟩ := n
  unfold checkBetween
  rw [dif_neg (by simpa using hl)]
  cases high with
  | none => rfl
  | some top =>
    have : n ≤ top := hh top rfl
    simp only
    rw [dif_neg (by simpa using this)]
    rfl

/-- The bounds of a number as keywords. -/
def boundKeywords (low : Nat) (high : Option Nat) : Schema :=
  let s := (Schema.ofType "integer").withKeyword "minimum" (.int low)
  match high with
  | none => s
  | some top => s.withKeyword "maximum" (.int top)

/-- Integers within bounds. -/
def between (low : Nat) (high : Option Nat) : Codec (Between low high) where
  decode v := (integer.decode v).bind (checkBetween low high)
  encode n := .int n.val
  schema := boundKeywords low high
  decode_encode n := checkBetween_val n

/-- Texts. -/
def text : Codec Text where
  decode
    | .str t => .ok t
    | _ => .refuse .notText
  encode := .str
  schema := .ofType "string"
  decode_encode _ := rfl

/-- Texts of at least some length. -/
def textFrom (least : Nat) : Codec { t : Text // least ≤ t.length } where
  decode v := (text.decode v).bind fun t =>
    if h : least ≤ t.length then .ok ⟨t, h⟩ else Checked.refuse (.tooShort least)
  encode t := .str t.val
  schema := (Schema.ofType "string").withKeyword "minLength" (.int least)
  decode_encode t := by
    show (if h : least ≤ t.val.length then _ else _) = _
    rw [dif_pos t.property]

/-- The items of a list, each under its place. -/
def decodeItems {α : Type} (c : Codec α) (place : Nat) : List Json → List (Checked α)
  | [] => []
  | item :: rest => (c.decode item).under (.item place) :: c.decodeItems (place + 1) rest

/-- What a codec writes for some items it reads back. -/
theorem decodeItems_encode {α : Type} (c : Codec α) (place : Nat) (xs : List α) :
    c.decodeItems place (xs.map c.encode) = xs.map .ok := by
  induction xs generalizing place with
  | nil => rfl
  | cons x xs ih =>
    rw [List.map_cons, decodeItems, c.decode_encode, ih]
    rfl

/-- Lists of what another codec reads. A payload that is no list is refused as the given kind. -/
def listOf {α : Type} (c : Codec α) (refusal : IssueKind) : Codec (List α) where
  decode
    | .arr items => .all (c.decodeItems 0 items)
    | _ => .refuse refusal
  encode xs := .arr (xs.map c.encode)
  schema := c.schema.list
  decode_encode xs := by
    show Checked.all (c.decodeItems 0 (xs.map c.encode)) = _
    rw [decodeItems_encode, Checked.all_ok]

/-- Values that may be absent, for codecs that do not write `null`. -/
def optional {α : Type} (c : Codec α) (present : ∀ a, c.encode a ≠ .null) : Codec (Option α) where
  decode
    | .null => .ok none
    | v => (c.decode v).map some
  encode
    | none => .null
    | some a => c.encode a
  schema := c.schema.optional
  decode_encode
    | none => rfl
    | some a => by
      split
      · next h => exact absurd h (present a)
      · rw [c.decode_encode]
        rfl

/-- A codec for another form of the same values. -/
def imap {α β : Type} (c : Codec α) (into : α → β) (back : β → α)
    (into_back : ∀ b, into (back b) = b) : Codec β where
  decode v := (c.decode v).map into
  encode b := c.encode (back b)
  schema := c.schema
  decode_encode b := by
    rw [c.decode_encode]
    exact congrArg Except.ok (into_back b)

end Codec

end MaskPolicy
