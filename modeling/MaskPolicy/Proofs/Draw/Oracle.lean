import MaskPolicy.Draw.Generate

/-!
# Answers that nothing bounds

An oracle answers a bound with any integer. Generating from an oracle looks every position up, and
stops at the first one that lies outside its list. An oracle that keeps to the bounds is a source,
and generating from it never stops so: each position that it answers for the fill lies in the
allowed characters, and each for the shuffle among the characters not yet settled.
-/

namespace MaskPolicy

/-- Answers to draws over states `σ`, with no promise. -/
structure Oracle (σ : Type) where
  answer : (bound : Nat) → σ → Int × σ

namespace Oracle

variable {σ α : Type}

/-- Every answer to a positive bound is a position below it. -/
def Bounded (o : Oracle σ) : Prop :=
  ∀ bound, 0 < bound → ∀ state, 0 ≤ (o.answer bound state).1 ∧ (o.answer bound state).1 < bound

/-- An oracle that keeps to the bounds, as a source. -/
def source (o : Oracle σ) (h : o.Bounded) : Source σ where
  draw bound hb state :=
    (⟨(o.answer bound state).1.toNat, by have := h bound hb state; omega⟩,
      (o.answer bound state).2)

/-- The entry of a list at a position, if there is one. -/
def entryAt? (xs : List α) (i : Int) : Option α := if 0 ≤ i then xs[i.toNat]? else none

/-- A list with the entries at two positions exchanged, if there are such entries. -/
def exchange? (xs : List α) (i j : Int) : Option (List α) := do
  let x ← entryAt? xs i
  let y ← entryAt? xs j
  some ((xs.set i.toNat y).set j.toNat x)

/-- Some answered entries of a list, if every answer has one. -/
def pick? (o : Oracle σ) (entries : List α) : Nat → σ → Option (List α × σ)
  | 0, state => some ([], state)
  | count + 1, state => do
    let (i, state) := o.answer entries.length state
    let x ← entryAt? entries i
    let (rest, state) ← o.pick? entries count state
    some (x :: rest, state)

/-- Exchange each position from `last` down to the second one with an answered position, if every
answer is one. -/
def settle? (o : Oracle σ) : (last : Nat) → List α → σ → Option (List α × σ)
  | 0, xs, state => some (xs, state)
  | last + 1, xs, state => do
    let (j, state) := o.answer (last + 2) state
    let xs ← exchange? xs (last + 1) j
    o.settle? last xs state

/-- Generate a password from an oracle, if every position that is looked up exists. -/
def generate? (o : Oracle σ) (mask : Json) (entries : List Json) (requested : Option Int)
    (state : σ) : Option (Except GenerationError Text × σ) :=
  match Policy.parse mask entries with
  | .error e => some (.error (.unusable e), state)
  | .ok p =>
    match p.obstacle? mask.plain requested with
    | some e => some (.error e, state)
    | none => do
      let count := (p.targetLength requested).toNat - p.required.length
      let (picked, state) ← o.pick? p.allowed count state
      let chars := p.required ++ picked
      let (password, state) ← o.settle? (chars.length - 1) chars state
      some (.ok password, state)

private theorem entryAt?_eq_some (xs : List α) {i : Int} (h0 : 0 ≤ i) (h : i.toNat < xs.length) :
    entryAt? xs i = some xs[i.toNat] := by
  rw [entryAt?, if_pos h0, List.getElem?_eq_getElem h]

private theorem exchange?_eq_some {n : Nat} (xs : Vector α n) {i : Nat} {j : Int} (hi : i < n)
    (h0 : 0 ≤ j) (hj : j.toNat < n) :
    exchange? xs.toList i j = some (xs.swap i j.toNat hi hj).toList := by
  have hx : entryAt? xs.toList i = some xs[i] := by
    rw [entryAt?_eq_some _ (Int.natCast_nonneg i) (by simpa using hi)]
    simp
  have hy : entryAt? xs.toList j = some xs[j.toNat] := by
    rw [entryAt?_eq_some _ h0 (by simpa using hj)]
    simp
  simp only [exchange?, hx, hy, Option.bind_eq_bind, Option.bind_some, Int.toNat_natCast,
    Vector.toList_swap]

variable {o : Oracle σ} (h : o.Bounded)

include h

/-- Every answer for the fill has an entry. -/
theorem pick?_eq_some {entries : List α} (hne : 0 < entries.length) (count : Nat) (state : σ) :
    o.pick? entries count state = some ((o.source h).pick entries hne count state) := by
  induction count generalizing state with
  | zero => rfl
  | succ count ih =>
    obtain ⟨h0, hlt⟩ := h entries.length hne state
    have hx := entryAt?_eq_some entries h0 (by omega)
    simp only [pick?, hx, ih, Option.bind_eq_bind, Option.bind_some]
    rfl

/-- Every answer for the shuffle is a position among those not yet settled. -/
theorem settle?_eq_some {n : Nat} (last : Nat) (hl : last + 1 ≤ n) (xs : Vector α n) (state : σ) :
    o.settle? last xs.toList state =
      let settled := (o.source h).settle (last + 1) hl xs state
      some (settled.1.toList, settled.2) := by
  induction last generalizing xs state with
  | zero => rfl
  | succ last ih =>
    obtain ⟨h0, hlt⟩ := h (last + 2) (by omega) state
    have hx := exchange?_eq_some xs (show last + 1 < n from hl) h0 (by omega)
    simp only [Int.natCast_add, Int.natCast_one] at hx
    simp only [settle?, hx, Option.bind_eq_bind, Option.bind_some]
    rw [ih (by omega)]
    rfl

/-- Shuffling looks up no position outside the list. -/
theorem settle?_length_eq_some (xs : List α) (state : σ) :
    o.settle? (xs.length - 1) xs state = some ((o.source h).shuffle xs state) := by
  cases xs with
  | nil => rfl
  | cons x xs =>
    exact settle?_eq_some h xs.length (Nat.le_refl _) ⟨(x :: xs).toArray, by simp⟩ state

/-- Generating from an oracle that keeps to the bounds looks up no position that does not exist,
and gives what the source gives. -/
theorem generate?_eq_some (mask : Json) (entries : List Json) (requested : Option Int)
    (state : σ) :
    o.generate? mask entries requested state =
      some (generate (o.source h) mask entries requested state) := by
  unfold generate? generate
  cases Policy.parse mask entries with
  | error e => rfl
  | ok p =>
    cases ho : p.obstacle? mask.plain requested with
    | some e => simp only [ho, UsablePolicy.generate_of_obstacle ho]
    | none =>
      simp only [ho, UsablePolicy.generate_of_no_obstacle ho,
        pick?_eq_some h (UsablePolicy.allowed_length_pos ho), settle?_length_eq_some h,
        Option.bind_eq_bind, Option.bind_some]

end Oracle

end MaskPolicy
