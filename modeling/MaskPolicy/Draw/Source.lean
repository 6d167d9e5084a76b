/-!
# Sources of draws

A source answers draws: asked for a position below a positive bound it gives one, and moves on to
its next state. A source cannot answer a position that is not below the bound.
-/

namespace MaskPolicy

/-- A source of draws over states `σ`. -/
structure Source (σ : Type) where
  /-- Draw a position below a positive bound. -/
  draw : (bound : Nat) → 0 < bound → σ → Fin bound × σ

namespace Source

variable {σ : Type}

/-- The source that answers the numbers of a list in turn, each reduced below the bound, and zero
after the last of them. -/
def ofList : Source (List Nat) where
  draw bound h
    | [] => (⟨0, h⟩, [])
    | n :: rest => (⟨n % bound, Nat.mod_lt n h⟩, rest)

/-- The source that repeats the numbers of a list for ever, each reduced below the bound. Its state
is the number of draws so far. -/
def cycling (numbers : List Int) : Source Nat where
  draw bound h count :=
    let n := (numbers[count % numbers.length]?).getD 0
    (⟨(n % bound).toNat, by
      have := Int.emod_lt_of_pos n (Int.natCast_pos.mpr h)
      have := Int.emod_nonneg n (Int.natCast_ne_zero.mpr (Nat.ne_of_gt h))
      omega⟩, count + 1)

/-- The source that keeps, beside its state, the bounds it was asked for, the latest first. -/
def recording (s : Source σ) : Source (σ × List Nat) where
  draw bound h state :=
    let (answer, next) := s.draw bound h state.1
    (answer, next, bound :: state.2)

/-- Recording does not change the answers. -/
theorem recording_draw (s : Source σ) (bound : Nat) (h : 0 < bound) (state : σ × List Nat) :
    s.recording.draw bound h state =
      ((s.draw bound h state.1).1, (s.draw bound h state.1).2, bound :: state.2) := rfl

end Source

end MaskPolicy
