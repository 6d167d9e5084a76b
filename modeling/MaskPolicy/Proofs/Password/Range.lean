import MaskPolicy.Proofs.Password.Composition

/-!
# Which passwords can be generated

The passwords that sources can make a policy generate are exactly the ones it composes: the texts of
the target length over the allowed characters that hold every required character as often as it is
required. Nothing else comes out, and none of them is out of reach.
-/

namespace MaskPolicy

/-- If a password can be generated at all, the passwords that can be are all those of the target
length that the policy of the mask composes. -/
theorem generate_range {mask : Json} {entries : List Json} {requested : Option Int} {σ : Type}
    {source : Source σ} {state : σ} {password : Text}
    (h : (generate source mask entries requested state).1 = .ok password) :
    ∃ p, Policy.parse mask entries = .ok p ∧ ∀ w : Text,
      (∃ (τ : Type) (source : Source τ) (state : τ),
        (generate source mask entries requested state).1 = .ok w) ↔
      (w.length : Int) = p.targetLength requested ∧ (∀ c ∈ w, c ∈ p.allowed) ∧
        ∀ c, p.required.count c ≤ w.count c := by
  obtain ⟨p, hp, hgp⟩ := exists_policy_of_generate h
  have ho := UsablePolicy.obstacle?_of_generate hgp
  refine ⟨p, hp, fun w => ⟨?_, ?_⟩⟩
  · rintro ⟨τ, source, state, hw⟩
    rw [generate_of_parse hp] at hw
    have hc := UsablePolicy.composes_of_generate hw
    exact ⟨hc.length_eq, hc.allowed, hc.required⟩
  · rintro ⟨hlength, hallowed, hrequired⟩
    obtain ⟨draws, hdraws⟩ := UsablePolicy.exists_generate_eq ho ⟨hlength, hallowed, hrequired⟩
    exact ⟨List Nat, Source.ofList, draws, by rw [generate_of_parse hp, hdraws]⟩

/-- Two classes require the character one, and a password of the least length leaves room for
nothing else. -/
theorem generate_range_ones :
    (generate Source.ofList (.str "00001200112".toList) [.str ['1']] (some 2) []).1 =
      .ok ['1', '1'] ∧
    ∃ p, Policy.parse (.str "00001200112".toList) [.str ['1']] = .ok p ∧ ∀ w : Text,
      (∃ (τ : Type) (source : Source τ) (state : τ),
        (generate source (.str "00001200112".toList) [.str ['1']] (some 2) state).1 = .ok w) ↔
      (w.length : Int) = p.targetLength (some 2) ∧ (∀ c ∈ w, c ∈ p.allowed) ∧
        ∀ c, p.required.count c ≤ w.count c :=
  have h : (generate Source.ofList (.str "00001200112".toList) [.str ['1']] (some 2) []).1 =
      .ok ['1', '1'] := rfl
  ⟨h, generate_range h⟩

end MaskPolicy
