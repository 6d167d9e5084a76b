import MaskPolicy.Draw.Source
import MaskPolicy.Draw.Twister
import MaskPolicy.Number.Decimal

/-!
# Where draws come from

Draws come from the operating system or from a twisted generator with a seed. The answers of the
operating system are handed in from outside, as a list; a reproducible generator without a seed
takes its seed from the operating system too, so its draws are handed in the same way.
-/

namespace MaskPolicy

/-- The kinds of generators. -/
inductive Generator where
  | secure
  | seeded (seed : Option Int)
  deriving DecidableEq, Repr

namespace Generator

/-- A seed asks for the reproducible generator, and so does the wish for one that is not secure. -/
def choose (secure : Bool) (seed : Option Int) : Generator :=
  if seed.isSome || !secure then .seeded seed else .secure

/-- The seed of a generator. -/
def seed? : Generator → Option Int
  | .secure => none
  | .seeded seed => seed

/-- How a generator refuses a bound that is not positive. -/
def refusal : Generator → Text
  | .secure => "Upper bound must be positive.".toList
  | .seeded _ => "empty range for randrange()".toList

end Generator

/-- The state of a supply of draws. -/
inductive Supply where
  /-- The answers of the operating system that are left. -/
  | outside (answers : List Nat)
  | twisted (t : Twister)

namespace Supply

/-- The supply with which a generator starts. -/
def start (g : Generator) (answers : List Nat) : Supply :=
  match g with
  | .seeded (some seed) => .twisted (.ofSeed seed)
  | _ => .outside answers

/-- Draws from a supply. -/
def source : Source Supply where
  draw bound h
    | .outside answers =>
      let (i, answers) := Source.ofList.draw bound h answers
      (i, .outside answers)
    | .twisted t =>
      match hd : t.below? bound with
      | some (n, t) => (⟨n, Twister.below?_lt hd⟩, .twisted t)
      -- A search without a result does not end, so that no answer is given here.
      | none => (⟨0, h⟩, .twisted t)

end Supply

/-- Draw below any bound: a bound that is not positive is refused and leaves the state as it was. -/
def Source.request {σ : Type} (s : Source σ) (bound : Int) (state : σ) : Option Nat × σ :=
  if h : 0 < bound then
    let (i, state) := s.draw bound.toNat (by omega) state
    (some i.val, state)
  else (none, state)

end MaskPolicy
