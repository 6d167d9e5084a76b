import MaskPolicy.Proofs.Draw.Shuffle

/-!
# Which bounds are drawn below

Every draw of a generation has a bound that is known before the first of them. The fill draws below
the number of allowed characters, once for each character that the required ones leave open. The
shuffle draws below the number of positions not yet settled, from all of them down to two. A source
that records its bounds gives the same answers, and what it has recorded afterwards is this schedule
or, when an obstacle is reported, nothing.
-/

namespace MaskPolicy

namespace Source

variable {σ α : Type} {n : Nat}

/-- Picking draws below the number of entries, once for each entry that is picked. -/
theorem pick_recording (s : Source σ) (entries : List α) (h : 0 < entries.length) (count : Nat)
    (state : σ) (bounds : List Nat) :
    s.recording.pick entries h count (state, bounds) =
      let picked := s.pick entries h count state
      (picked.1, picked.2, List.replicate count entries.length ++ bounds) := by
  induction count generalizing state bounds with
  | zero => rfl
  | succ count ih =>
    have hbounds : List.replicate count entries.length ++ entries.length :: bounds =
        List.replicate (count + 1) entries.length ++ bounds := by
      rw [List.replicate_succ', List.append_assoc, List.singleton_append]
    simp only [pick, recording_draw, ih, hbounds]

/-- Settling draws below the number of positions not yet settled, which goes down to two. -/
theorem settle_recording (s : Source σ) (count : Nat) (h : count ≤ n) (xs : Vector α n) (state : σ)
    (bounds : List Nat) :
    s.recording.settle count h xs (state, bounds) =
      let settled := s.settle count h xs state
      (settled.1, settled.2, List.range' 2 (count - 1) ++ bounds) := by
  fun_induction settle s count h xs state generalizing bounds with
  | case1 => rfl
  | case2 => rfl
  | case3 count h xs state j next hdraw ih =>
    have hbounds : List.range' 2 count ++ (count + 2) :: bounds =
        List.range' 2 (count + 1) ++ bounds := by
      rw [List.range'_concat, Nat.one_mul, Nat.add_comm 2 count, List.append_assoc,
        List.singleton_append]
    simp only [settle, recording_draw, hdraw, ih, Nat.add_sub_cancel, Nat.succ_eq_add_one, hbounds]

/-- Shuffling draws once for each position of the list but the first. -/
theorem shuffle_recording (s : Source σ) (xs : List α) (state : σ) (bounds : List Nat) :
    s.recording.shuffle xs (state, bounds) =
      let shuffled := s.shuffle xs state
      (shuffled.1, shuffled.2, List.range' 2 (xs.length - 1) ++ bounds) := by
  simp only [shuffle, settle_recording]

end Source

namespace UsablePolicy

/-- The bounds of the draws that generate a password of a policy, in order: the number of allowed
characters for each character of the fill, then the length and every number below it down to two. -/
def schedule (p : UsablePolicy) (requested : Option Int) : List Nat :=
  let length := (p.targetLength requested).toNat
  List.replicate (length - p.required.length) p.allowed.length ++
    (List.range' 2 (length - 1)).reverse

private theorem length_required_append_pick {σ : Type} {p : UsablePolicy} {mask : Text}
    {requested : Option Int} (h : p.obstacle? mask requested = none) (source : Source σ)
    (state : σ) :
    (p.required ++ (source.pick p.allowed (allowed_length_pos h)
      ((p.targetLength requested).toNat - p.required.length) state).1).length =
      (p.targetLength requested).toNat := by
  obtain ⟨-, -, hle⟩ := (p.obstacle?_eq_none_iff mask requested).mp h
  rw [List.length_append, Source.length_pick]
  omega

/-- Generating from a recorded source gives the same, and what is recorded is the schedule of the
policy if a password comes out, and nothing otherwise. -/
theorem generate_recording {σ : Type} (p : UsablePolicy) (source : Source σ) (mask : Text)
    (requested : Option Int) (state : σ) (bounds : List Nat) :
    p.generate source.recording mask requested (state, bounds) =
      let generated := p.generate source mask requested state
      (generated.1, generated.2,
        (if generated.1.isOk then (p.schedule requested).reverse else []) ++ bounds) := by
  cases ho : p.obstacle? mask requested with
  | some e =>
    simp only [generate_of_obstacle ho]
    rfl
  | none =>
    have hlength := length_required_append_pick ho source state
    simp only [generate_of_no_obstacle ho, Source.pick_recording, Source.shuffle_recording, hlength]
    simp [schedule, Except.isOk, Except.toBool]

end UsablePolicy

end MaskPolicy
