import MaskPolicy.Draw.Generate

/-!
# What keeps a password from being generated

There are three obstacles, and the first that holds is the one that is met: no class contributes a
character, the requested length is below the minimum length, or it does not leave a place for each
required character. Only a requested length can be too short. When none is requested the default
length is taken, which fits every policy, and a requested zero is a length like any other.
-/

namespace MaskPolicy.UsablePolicy

/-- No class contributes a character: none that is allowed has any. -/
def NothingAllowed (p : UsablePolicy) : Prop :=
  ∀ c, (p.rule c).allowed = true → p.charset c = []

/-- What a request for a password runs into. -/
inductive Obstructed (p : UsablePolicy) (mask : Text) : Option Int → GenerationError → Prop
  | nothingAllowed {requested : Option Int} (h : p.NothingAllowed) :
    p.Obstructed mask requested (.noAllowedCharacters mask)
  | belowMinimum {length : Int} (h : ¬p.NothingAllowed) (hlt : length < p.minLength) :
    p.Obstructed mask (some length) (.belowMinimum length p.minLength)
  | belowRequired {length : Int} (h : ¬p.NothingAllowed) (hle : p.minLength ≤ length)
    (hlt : length < p.required.length) :
    p.Obstructed mask (some length) (.belowRequired length p.required.length)

variable {p : UsablePolicy} {mask : Text} {requested : Option Int}

/-- Nothing is allowed when no class contributes a character. -/
theorem nothingAllowed_iff : p.NothingAllowed ↔ p.allowed = [] := by
  simp only [NothingAllowed, Policy.allowed, List.flatMap_eq_nil_iff, Policy.allowedClasses,
    List.mem_filter, CharClass.mem_all, true_and]

theorem minLength_le_defaultLength (p : UsablePolicy) : p.minLength ≤ p.defaultLength :=
  Nat.le_max_left _ _

theorem length_required_le_defaultLength (p : UsablePolicy) :
    p.required.length ≤ p.defaultLength := by
  have hroom : p.required.length + 2 ≤ p.defaultLength := Nat.le_max_right _ _
  omega

private theorem exists_requested_of_targetLength_lt {least : Nat}
    (hdefault : least ≤ p.defaultLength) (h : p.targetLength requested < least) :
    ∃ length, requested = some length := by
  cases requested with
  | none =>
    have hlt : (p.defaultLength : Int) < least := h
    omega
  | some length => exact ⟨length, rfl⟩

/-- The obstacle that is reported is the one that the request runs into. -/
theorem obstacle?_eq_some_iff {e : GenerationError} :
    p.obstacle? mask requested = some e ↔ p.Obstructed mask requested e := by
  constructor
  · intro h
    simp only [obstacle?] at h
    split at h
    · next hempty =>
      obtain rfl := Option.some.inj h
      exact .nothingAllowed (nothingAllowed_iff.mpr (List.isEmpty_iff.mp hempty))
    · next hempty =>
      have hsome : ¬p.NothingAllowed := by rwa [nothingAllowed_iff, ← List.isEmpty_iff]
      split at h
      · next hlt =>
        obtain rfl := Option.some.inj h
        obtain ⟨length, rfl⟩ :=
          exists_requested_of_targetLength_lt p.minLength_le_defaultLength hlt
        exact .belowMinimum hsome hlt
      · next hle =>
        split at h
        · next hlt =>
          obtain rfl := Option.some.inj h
          obtain ⟨length, rfl⟩ :=
            exists_requested_of_targetLength_lt p.length_required_le_defaultLength hlt
          exact .belowRequired hsome (Int.not_lt.mp hle) hlt
        · cases h
  · intro h
    cases h with
    | nothingAllowed h => simp [obstacle?, nothingAllowed_iff.mp h]
    | belowMinimum h hlt =>
      rw [nothingAllowed_iff] at h
      simp [obstacle?, h, targetLength, hlt]
    | belowRequired h hle hlt =>
      rw [nothingAllowed_iff] at h
      simp [obstacle?, h, targetLength, hlt, Int.not_lt.mpr hle]

/-- A policy fails to generate a password with what stands in the way of it, and only then. -/
theorem generate_eq_error_iff {σ : Type} {source : Source σ} {state : σ} {e : GenerationError} :
    (p.generate source mask requested state).1 = .error e ↔
      p.obstacle? mask requested = some e := by
  constructor
  · intro h
    cases ho : p.obstacle? mask requested with
    | none =>
      rw [generate_of_no_obstacle ho] at h
      cases h
    | some e' =>
      rw [generate_of_obstacle ho] at h
      exact congrArg some (Except.error.inj h)
  · intro ho
    rw [generate_of_obstacle ho]

/-- Nothing stands in the way when some class contributes a character and a requested length leaves
room for what is required. -/
theorem obstacle?_eq_none_iff_fits :
    p.obstacle? mask requested = none ↔ ¬p.NothingAllowed ∧
      ∀ length, requested = some length → p.minLength ≤ length ∧ p.required.length ≤ length := by
  rw [obstacle?_eq_none_iff, nothingAllowed_iff]
  refine and_congr_right fun _ => ?_
  cases requested with
  | none =>
    have hm := p.minLength_le_defaultLength
    have hr := p.length_required_le_defaultLength
    simp [targetLength, hm, hr]
  | some length => simp [targetLength]

end MaskPolicy.UsablePolicy
