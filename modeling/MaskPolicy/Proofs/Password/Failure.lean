import MaskPolicy.Proofs.Fault.Message
import MaskPolicy.Proofs.Password.Feasibility
import MaskPolicy.Proofs.Password.Obstacle

/-!
# When generating fails, and how

A generation fails for the mask and its alphabet, or else for the first of three obstacles, and the
context of the fault holds the numbers that it is about. In every other case it gives a password of
the requested length, or of the default length when none is requested. The conditions exclude each
other and leave nothing open, so a request and a policy alone decide which answer is given: the
source of the draws has no part in it.
-/

namespace MaskPolicy

namespace UsablePolicy

variable {p : UsablePolicy} {mask : Text} {requested : Option Int} {σ : Type} {source : Source σ}
  {state : σ}

/-- A policy fails to generate a password with the fault of what the request runs into. -/
theorem failure?_generate_eq_some_iff {kind : FaultKind}
    {context : Option (List (Text × Json))} :
    failure? GenerationError.fault (p.generate source mask requested state).1 =
        some (kind, context) ↔
      ∃ e, p.Obstructed mask requested e ∧ e.kind = kind ∧ e.context = context := by
  simp only [failure?_eq_some_iff, generate_eq_error_iff, obstacle?_eq_some_iff]
  rfl

/-- A generation fails for want of characters exactly when nothing is allowed. -/
theorem fails_noAllowedCharacters_iff {context : Option (List (Text × Json))} :
    failure? GenerationError.fault (p.generate source mask requested state).1 =
        some (.noAllowedCharacters, context) ↔
      p.NothingAllowed ∧ context = some [("mask".toList, .str mask)] := by
  rw [failure?_generate_eq_some_iff]
  constructor
  · rintro ⟨e, he, hkind, rfl⟩
    cases he with
    | nothingAllowed h => exact ⟨h, rfl⟩
    | belowMinimum => cases hkind
    | belowRequired => cases hkind
  · rintro ⟨h, rfl⟩
    exact ⟨_, .nothingAllowed h, rfl, rfl⟩

/-- A generation fails for the minimum length exactly when a length below it is requested. -/
theorem fails_lengthBelowMinimum_iff {context : Option (List (Text × Json))} :
    failure? GenerationError.fault (p.generate source mask requested state).1 =
        some (.lengthBelowMinimum, context) ↔
      ¬p.NothingAllowed ∧ ∃ length, requested = some length ∧ length < p.minLength ∧
        context = some [("target_length".toList, .int length),
          ("min_length".toList, .int p.minLength)] := by
  rw [failure?_generate_eq_some_iff]
  constructor
  · rintro ⟨e, he, hkind, rfl⟩
    cases he with
    | nothingAllowed => cases hkind
    | belowMinimum h hlt => exact ⟨h, _, rfl, hlt, rfl⟩
    | belowRequired => cases hkind
  · rintro ⟨h, length, rfl, hlt, rfl⟩
    exact ⟨_, .belowMinimum h hlt, rfl, rfl⟩

/-- A generation fails for the required characters exactly when a length is requested that is not
below the minimum length and does not leave a place for each of them. -/
theorem fails_lengthBelowRequiredCount_iff {context : Option (List (Text × Json))} :
    failure? GenerationError.fault (p.generate source mask requested state).1 =
        some (.lengthBelowRequiredCount, context) ↔
      ¬p.NothingAllowed ∧ ∃ length, requested = some length ∧ p.minLength ≤ length ∧
        length < p.required.length ∧
        context = some [("target_length".toList, .int length),
          ("required_count".toList, .int p.required.length)] := by
  rw [failure?_generate_eq_some_iff]
  constructor
  · rintro ⟨e, he, hkind, rfl⟩
    cases he with
    | nothingAllowed => cases hkind
    | belowMinimum => cases hkind
    | belowRequired h hle hlt => exact ⟨h, _, rfl, hle, hlt, rfl⟩
  · rintro ⟨h, length, rfl, hle, hlt, rfl⟩
    exact ⟨_, .belowRequired h hle hlt, rfl, rfl⟩

/-- A password comes out exactly when some class contributes a character and a requested length is
long enough. -/
theorem exists_generate_iff :
    (∃ password, (p.generate source mask requested state).1 = .ok password) ↔
      ¬p.NothingAllowed ∧ ∀ length, requested = some length →
        p.minLength ≤ length ∧ p.required.length ≤ length := by
  rw [← @obstacle?_eq_none_iff_fits p mask requested]
  constructor
  · rintro ⟨password, h⟩
    exact obstacle?_of_generate h
  · intro ho
    exact ⟨_, congrArg Prod.fst (generate_of_no_obstacle ho source state)⟩

/-- A password that comes out has the requested length, or else the default one. -/
theorem length_of_generate {password : Text}
    (h : (p.generate source mask requested state).1 = .ok password) :
    (password.length : Int) =
      requested.getD (max (p.minLength : Int) (p.required.length + 2)) := by
  rw [(composes_of_generate h).length_eq, targetLength, defaultLength]
  cases requested with
  | none =>
    simp only [Option.getD_none]
    omega
  | some length => rfl

end UsablePolicy

/-- Generating answers with the error of parsing if the mask cannot be used. Otherwise it fails with
a fault of the first kind for which the condition holds, and the context of the fault holds the
numbers that were compared: nothing is allowed, a requested length is below the minimum length, or a
requested length is below the number of required characters. In all other cases a password comes
out, of the requested length or else of the default length. So a requested zero, which is below
every minimum length, never gives a password, and without a requested length one always comes out
when anything is allowed. -/
theorem generate_outcomes (mask : Json) (entries : List Json) (requested : Option Int) {σ : Type}
    (source : Source σ) (state : σ) :
    (∀ e, Policy.parse mask entries = .error e →
      (generate source mask entries requested state).1 = .error (.unusable e) ∧
        (GenerationError.unusable e).fault = e.fault) ∧
    ∀ p, Policy.parse mask entries = .ok p →
      p.toPolicy.required? = .ok p.required ∧
      (∀ context,
        failure? GenerationError.fault (generate source mask entries requested state).1 =
            some (.noAllowedCharacters, context) ↔
          p.NothingAllowed ∧ context = some [("mask".toList, .str mask.plain)]) ∧
      (∀ context,
        failure? GenerationError.fault (generate source mask entries requested state).1 =
            some (.lengthBelowMinimum, context) ↔
          ¬p.NothingAllowed ∧ ∃ length, requested = some length ∧ length < p.minLength ∧
            context = some [("target_length".toList, .int length),
              ("min_length".toList, .int p.minLength)]) ∧
      (∀ context,
        failure? GenerationError.fault (generate source mask entries requested state).1 =
            some (.lengthBelowRequiredCount, context) ↔
          ¬p.NothingAllowed ∧ ∃ length, requested = some length ∧ p.minLength ≤ length ∧
            length < p.required.length ∧
            context = some [("target_length".toList, .int length),
              ("required_count".toList, .int p.required.length)]) ∧
      ((∃ password, (generate source mask entries requested state).1 = .ok password) ↔
        ¬p.NothingAllowed ∧ ∀ length, requested = some length →
          p.minLength ≤ length ∧ p.required.length ≤ length) ∧
      (∀ password, (generate source mask entries requested state).1 = .ok password →
        (password.length : Int) =
          requested.getD (max (p.minLength : Int) (p.required.length + 2))) ∧
      (requested = some 0 → ∀ password,
        (generate source mask entries requested state).1 ≠ .ok password) ∧
      (requested = none → ¬p.NothingAllowed →
        ∃ password, (generate source mask entries requested state).1 = .ok password) := by
  constructor
  · intro e hp
    rw [generate, hp]
    exact ⟨rfl, rfl⟩
  · intro p hp
    rw [generate_of_parse hp]
    refine ⟨p.required?_eq, fun _ => UsablePolicy.fails_noAllowedCharacters_iff,
      fun _ => UsablePolicy.fails_lengthBelowMinimum_iff,
      fun _ => UsablePolicy.fails_lengthBelowRequiredCount_iff, UsablePolicy.exists_generate_iff,
      fun _ => UsablePolicy.length_of_generate, ?_, ?_⟩
    · rintro rfl password h
      have hfits := (UsablePolicy.exists_generate_iff.mp ⟨password, h⟩).2 0 rfl
      have hpos := p.one_le_minLength
      omega
    · rintro rfl hsome
      exact UsablePolicy.exists_generate_iff.mpr ⟨hsome, fun _ h => by cases h⟩

/-- Two characters are required, and a length of one is not below the minimum length. -/
theorem generate_outcomes_tight :
    ∃ p, Policy.parse (.str "11110000001".toList) [] = .ok p ∧ ¬p.NothingAllowed ∧
      p.minLength ≤ (1 : Int) ∧ (1 : Int) < p.required.length ∧
      failure? GenerationError.fault
          (generate Source.ofList (.str "11110000001".toList) [] (some 1) []).1 =
        some (.lengthBelowRequiredCount, some [("target_length".toList, .int 1),
          ("required_count".toList, .int p.required.length)]) :=
  have hparse : ∃ p, Policy.parse (.str "11110000001".toList) [] = .ok p ∧
      p.charset .uppercase ≠ [] ∧ (p.rule .uppercase).allowed = true ∧
      p.minLength ≤ (1 : Int) ∧ (1 : Int) < p.required.length :=
    ⟨_, rfl, nofun, rfl, by decide, by decide⟩
  let ⟨p, hp, hne, hallowed, hle, hlt⟩ := hparse
  have hsome : ¬p.NothingAllowed := fun h => hne (h .uppercase hallowed)
  have houtcomes := (generate_outcomes _ [] (some 1) Source.ofList []).2 p hp
  ⟨p, hp, hsome, hle, hlt, (houtcomes.2.2.2.1 _).mpr ⟨hsome, 1, rfl, hle, hlt, rfl⟩⟩

end MaskPolicy
