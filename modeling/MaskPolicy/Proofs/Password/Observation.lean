import MaskPolicy.Proofs.Password.Obstacle

/-!
# What a caller sees of a generation

A caller sees the password, or the kind and the message of the fault, and the source is left in some
state. Of a policy nothing shows but its allowed and required characters and its minimum length, and
of the text of the mask nothing shows at all: it only stands in the context of one fault, whose
message does not name it.
-/

namespace MaskPolicy

/-- What a failed generation reports: the kind of fault and its message. -/
def GenerationError.report (e : GenerationError) : FaultKind × Except TemplateError Text :=
  (e.kind, e.fault.message)

private theorem GenerationError.report_noAllowedCharacters (mask : Text) :
    (noAllowedCharacters mask).report =
      (.noAllowedCharacters, .ok "No character types are allowed".toList) := by
  have hb : "No character types are allowed".toList.all (fun c => c ≠ '{' && c ≠ '}') = true := rfl
  have hm : (noAllowedCharacters mask).fault.message =
      .ok "No character types are allowed".toList := Template.format_of_no_braces hb _
  rw [report, hm]
  rfl

/-- A policy fails to generate a password only with a fault of generation. -/
theorem UsablePolicy.parent_kind_of_generate {σ : Type} {p : UsablePolicy} {source : Source σ}
    {mask : Text} {requested : Option Int} {state : σ} {e : GenerationError}
    (h : (p.generate source mask requested state).1 = .error e) :
    e.kind.parent? = some .generation := by
  cases obstacle?_eq_some_iff.mp (generate_eq_error_iff.mp h) with
  | nothingAllowed => rfl
  | belowMinimum => rfl
  | belowRequired => rfl

/-- A generation as its caller sees it, with the state in which it leaves the source. -/
def observed {σ : Type} (r : Except GenerationError Text × σ) :
    Except (FaultKind × Except TemplateError Text) Text × σ :=
  (r.1.mapError GenerationError.report, r.2)

private theorem Source.pick_congr {σ α : Type} (s : Source σ) {xs ys : List α} (he : xs = ys)
    (hx : 0 < xs.length) (hy : 0 < ys.length) (count : Nat) (state : σ) :
    s.pick xs hx count state = s.pick ys hy count state := by
  subst he
  rfl

namespace UsablePolicy

variable {p q : UsablePolicy} (ha : p.allowed = q.allowed) (hr : p.required = q.required)
  (hm : p.minLength = q.minLength)

include ha hr hm

/-- Policies with the same characters and minimum length have the same obstacles. -/
theorem obstacle?_report_congr (mask mask' : Text) (requested : Option Int) :
    (p.obstacle? mask requested).map GenerationError.report =
      (q.obstacle? mask' requested).map GenerationError.report := by
  simp only [obstacle?, targetLength, defaultLength, ha, hr, hm]
  split
  · simp only [Option.map_some, GenerationError.report_noAllowedCharacters]
  · rfl

/-- Policies with the same characters and minimum length generate the same. -/
theorem generate_observed_congr {σ : Type} (source : Source σ) (mask mask' : Text)
    (requested : Option Int) (state : σ) :
    observed (p.generate source mask requested state) =
      observed (q.generate source mask' requested state) := by
  have ho := obstacle?_report_congr ha hr hm mask mask' requested
  cases hp : p.obstacle? mask requested with
  | some e =>
    rw [hp] at ho
    obtain ⟨e', hq, he⟩ := Option.map_eq_some_iff.mp ho.symm
    rw [generate_of_obstacle hp, generate_of_obstacle hq]
    exact congrArg (fun report => (Except.error report, state)) he.symm
  | none =>
    rw [hp] at ho
    have hq := Option.map_eq_none_iff.mp ho.symm
    have ht : p.targetLength requested = q.targetLength requested := by
      simp only [targetLength, defaultLength, hr, hm]
    rw [generate_of_no_obstacle hp, generate_of_no_obstacle hq]
    simp only [Source.pick_congr source ha _ (allowed_length_pos hq), hr, ht]

end UsablePolicy

/-- Generating for masks that are parsed to the same looks the same. -/
theorem generate_observed_of_parse_eq {σ : Type} {mask mask' : Json} {entries : List Json}
    (h : Policy.parse mask entries = Policy.parse mask' entries) (source : Source σ)
    (requested : Option Int) (state : σ) :
    observed (generate source mask entries requested state) =
      observed (generate source mask' entries requested state) := by
  rw [generate, generate, h]
  cases Policy.parse mask' entries with
  | error e => rfl
  | ok p => exact UsablePolicy.generate_observed_congr rfl rfl rfl source _ _ requested state

end MaskPolicy
