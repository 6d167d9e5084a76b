import MaskPolicy.Draw.Source
import MaskPolicy.Policy.Verdict

/-!
# Generated passwords

A password is generated by taking one occurrence of each required character, adding drawn characters
of the allowed alphabet up to the length, and shuffling. The shuffle settles the positions from the
last one down, exchanging each with a drawn position not after it. Everything that can fail is
tested before the first draw.
-/

namespace MaskPolicy

/-- Why no password can be generated. -/
inductive GenerationError where
  /-- The mask, or the alphabet given with it, cannot be used. -/
  | unusable (e : MaskError)
  /-- The mask allows no class that has characters. -/
  | noAllowedCharacters (mask : Text)
  /-- The requested length is below the minimum length. -/
  | belowMinimum (target : Int) (minimum : Nat)
  /-- The requested length does not leave a place for each required character. -/
  | belowRequired (target : Int) (count : Nat)
  deriving Repr

namespace GenerationError

/-- A field of a template that names a value of the context. -/
def contextField (name : String) : Text := '{' :: "ctx[".toList ++ name.toList ++ [']', '}']

/-- The template of the message. -/
def template : GenerationError → Text
  | unusable e => e.template
  | noAllowedCharacters _ => "No character types are allowed".toList
  | belowMinimum _ _ =>
    "Target length ".toList ++ contextField "target_length" ++
      " is less than minimum required length ".toList ++ contextField "min_length"
  | belowRequired _ _ =>
    "Target length ".toList ++ contextField "target_length" ++
      " is less than number of required characters ".toList ++ contextField "required_count"

/-- The values that the message is about. -/
def context : GenerationError → Option (List (Text × Json))
  | unusable e => e.context
  | noAllowedCharacters mask => some [("mask".toList, .str mask)]
  | belowMinimum target minimum =>
    some [("target_length".toList, .int target), ("min_length".toList, .int minimum)]
  | belowRequired target count =>
    some [("target_length".toList, .int target), ("required_count".toList, .int count)]

/-- The kind of fault that a failed generation is. -/
def kind : GenerationError → FaultKind
  | unusable e => e.kind
  | noAllowedCharacters _ => .noAllowedCharacters
  | belowMinimum _ _ => .lengthBelowMinimum
  | belowRequired _ _ => .lengthBelowRequiredCount

/-- The fault to report. -/
def fault (e : GenerationError) : Fault := ⟨e.kind, e.template, e.context⟩

/-- The message. -/
def message : GenerationError → Text
  | unusable e => e.message
  | noAllowedCharacters _ => "No character types are allowed".toList
  | belowMinimum target minimum =>
    "Target length ".toList ++ Decimal.ofInt target ++
      " is less than minimum required length ".toList ++ Decimal.ofNat minimum
  | belowRequired target count =>
    "Target length ".toList ++ Decimal.ofInt target ++
      " is less than number of required characters ".toList ++ Decimal.ofNat count

end GenerationError

namespace Source

variable {σ α : Type}

/-- Some drawn entries of a list that is not empty, in the order of the draws. -/
def pick (s : Source σ) (entries : List α) (h : 0 < entries.length) : Nat → σ → List α × σ
  | 0, state => ([], state)
  | count + 1, state =>
    let (i, state) := s.draw entries.length h state
    let (rest, state) := s.pick entries h count state
    (entries[i] :: rest, state)

/-- Settle the positions below `count` of a vector, from the last one down: each is exchanged with a
drawn position not after it. The first position is settled when the others are. -/
def settle {n : Nat} (s : Source σ) :
    (count : Nat) → count ≤ n → Vector α n → σ → Vector α n × σ
  | 0, _, xs, state => (xs, state)
  | 1, _, xs, state => (xs, state)
  | count + 2, h, xs, state =>
    let (j, state) := s.draw (count + 2) (by omega) state
    s.settle (count + 1) (by omega) (xs.swap (count + 1) j.val (by omega) (by omega)) state

/-- A drawn arrangement of a list. -/
def shuffle (s : Source σ) (xs : List α) (state : σ) : List α × σ :=
  let (ys, state) := s.settle xs.length (Nat.le_refl _) ⟨xs.toArray, by simp⟩ state
  (ys.toList, state)

end Source

namespace UsablePolicy

/-- The length of a password when none is asked for: room for two characters beside the required
ones, and at least the minimum length. -/
def defaultLength (p : UsablePolicy) : Nat := max p.minLength (p.required.length + 2)

/-- The length to generate, for an optional requested length. -/
def targetLength (p : UsablePolicy) (requested : Option Int) : Int :=
  requested.getD p.defaultLength

/-- What keeps a password from being generated, tested before any draw. -/
def obstacle? (p : UsablePolicy) (mask : Text) (requested : Option Int) : Option GenerationError :=
  let length := p.targetLength requested
  if p.allowed.isEmpty then some (.noAllowedCharacters mask)
  else if length < p.minLength then some (.belowMinimum length p.minLength)
  else if length < p.required.length then some (.belowRequired length p.required.length)
  else none

/-- Nothing stands in the way exactly when there are characters and the length fits. -/
theorem obstacle?_eq_none_iff (p : UsablePolicy) (mask : Text) (requested : Option Int) :
    p.obstacle? mask requested = none ↔
      p.allowed ≠ [] ∧ p.minLength ≤ p.targetLength requested ∧
        p.required.length ≤ p.targetLength requested := by
  simp only [obstacle?, List.isEmpty_iff]
  split
  · next h => simp [h]
  · next h =>
    split
    · next hlt => simp [Int.not_le.mpr hlt]
    · next hle =>
      split
      · next hlt => simp [Int.not_le.mpr hlt]
      · next hle' => simp [h, Int.not_lt.mp hle, Int.not_lt.mp hle']

/-- A policy without obstacle has characters to draw. -/
theorem allowed_length_pos {p : UsablePolicy} {mask : Text} {requested : Option Int}
    (h : p.obstacle? mask requested = none) : 0 < p.allowed.length :=
  List.length_pos_iff.mpr ((p.obstacle?_eq_none_iff mask requested).mp h).1

/-- Generate a password of a policy, if nothing stands in the way. -/
def generate {σ : Type} (p : UsablePolicy) (source : Source σ) (mask : Text)
    (requested : Option Int) (state : σ) : Except GenerationError Text × σ :=
  match h : p.obstacle? mask requested with
  | some e => (.error e, state)
  | none =>
    let length := (p.targetLength requested).toNat
    let (drawn, state) :=
      source.pick p.allowed (allowed_length_pos h) (length - p.required.length) state
    let (password, state) := source.shuffle (p.required ++ drawn) state
    (.ok password, state)

/-- An obstacle is reported, and nothing is drawn. -/
theorem generate_of_obstacle {σ : Type} {p : UsablePolicy} {mask : Text} {requested : Option Int}
    {e : GenerationError} (h : p.obstacle? mask requested = some e) (source : Source σ)
    (state : σ) : p.generate source mask requested state = (.error e, state) := by
  unfold generate
  split
  · next e' he =>
    obtain rfl : e' = e := Option.some.inj (he.symm.trans h)
    rfl
  · next hnone => exact nomatch hnone.symm.trans h

/-- Without an obstacle, characters are picked and then shuffled with the required ones. -/
theorem generate_of_no_obstacle {σ : Type} {p : UsablePolicy} {mask : Text} {requested : Option Int}
    (h : p.obstacle? mask requested = none) (source : Source σ) (state : σ) :
    p.generate source mask requested state =
      let picked := source.pick p.allowed (allowed_length_pos h)
        ((p.targetLength requested).toNat - p.required.length) state
      let shuffled := source.shuffle (p.required ++ picked.1) picked.2
      (.ok shuffled.1, shuffled.2) := by
  unfold generate
  split
  · next e he => exact nomatch he.symm.trans h
  · rfl

/-- A password comes out only when nothing stands in the way. -/
theorem obstacle?_of_generate {σ : Type} {p : UsablePolicy} {source : Source σ} {mask : Text}
    {requested : Option Int} {state : σ} {password : Text}
    (h : (p.generate source mask requested state).1 = .ok password) :
    p.obstacle? mask requested = none := by
  cases ho : p.obstacle? mask requested with
  | none => rfl
  | some e => simp [generate_of_obstacle ho] at h

end UsablePolicy

/-- Generate a password for a mask with an alphabet. -/
def generate {σ : Type} (source : Source σ) (mask : Json) (entries : List Json)
    (requested : Option Int) (state : σ) : Except GenerationError Text × σ :=
  match Policy.parse mask entries with
  | .error e => (.error (.unusable e), state)
  | .ok p => p.generate source mask.plain requested state

/-- Where a policy comes from a mask, generating for the mask is generating of the policy. -/
theorem generate_of_parse {mask : Json} {entries : List Json} {p : UsablePolicy}
    (hp : Policy.parse mask entries = .ok p) {σ : Type} (source : Source σ)
    (requested : Option Int) (state : σ) :
    generate source mask entries requested state =
      p.generate source mask.plain requested state := by
  rw [generate, hp]

/-- A password generated for a mask is generated of the policy that the mask denotes. -/
theorem exists_policy_of_generate {σ : Type} {source : Source σ} {mask : Json}
    {entries : List Json} {requested : Option Int} {state : σ} {password : Text}
    (h : (generate source mask entries requested state).1 = .ok password) :
    ∃ p, Policy.parse mask entries = .ok p ∧
      (p.generate source mask.plain requested state).1 = .ok password := by
  unfold generate at h
  cases hp : Policy.parse mask entries with
  | error e => simp [hp] at h
  | ok p => exact ⟨p, rfl, by simpa [hp] using h⟩

end MaskPolicy
