import MaskPolicy.Proofs.Draw.Oracle
import MaskPolicy.Proofs.Password.Composition

/-!
# Generated passwords are accepted

A password that is generated for a mask with an alphabet passes the check against the same mask with
the same alphabet: nothing is wrong with it, every required character is found in it, and it has the
length that was asked for or else the default length.
-/

namespace MaskPolicy

namespace UsablePolicy

/-- A composed password that is not too short is accepted. -/
theorem Composes.accepts {p : UsablePolicy} {length : Int} {password : Text}
    (h : p.Composes length password) (hm : p.minLength ≤ length) : p.Accepts password := by
  refine ⟨?_, h.allowed, ?_⟩
  · have := h.length_eq
    omega
  · intro c hc
    have hpos : 0 < p.required.count c := List.count_pos_iff.mpr hc
    exact List.count_pos_iff.mp (Nat.lt_of_lt_of_le hpos (h.required c))

/-- An accepted password holds every required character. -/
theorem Accepts.found_eq {p : UsablePolicy} {password : Text} (h : p.Accepts password) :
    p.found password = p.required :=
  List.filter_eq_self.mpr fun c hc => decide_eq_true (h.2.2 c hc)

end UsablePolicy

/-- The outcome of a check that finds nothing wrong. -/
theorem ValidationResult.ofPolicy_of_accepts {p : UsablePolicy} {password : Text}
    (h : p.Accepts password) :
    ofPolicy p password = ⟨true, [], some {
      length := password.length
      minLength := p.minLength
      allowedChars := Text.singletons p.allowed
      requiredChars := Text.singletons p.required
      foundRequiredChars := Text.singletons p.required }⟩ := by
  rw [ofPolicy, (p.violations_eq_nil_iff password).mpr h, h.found_eq]
  rfl

/-- Whatever a source answers, a generated password passes the check with the same mask and alphabet
and has the length that was asked for, or else the default one. Answers that keep to their bounds
never make generating look up a position that does not exist. -/
theorem validate_generate {σ : Type} (mask : Json) (entries : List Json) (requested : Option Int)
    (state : σ) :
    (∀ (source : Source σ) (password : Text),
      (generate source mask entries requested state).1 = .ok password →
      ∃ details, validate password mask entries = ⟨true, [], some details⟩ ∧
        details.foundRequiredChars = details.requiredChars ∧
        details.length =
          requested.getD (max details.minLength (details.requiredChars.length + 2))) ∧
    ∀ (o : Oracle σ) (h : o.Bounded),
      o.generate? mask entries requested state =
        some (generate (o.source h) mask entries requested state) := by
  refine ⟨?_, fun o h => Oracle.generate?_eq_some h mask entries requested state⟩
  intro source password hg
  obtain ⟨p, hp, hgp⟩ := exists_policy_of_generate hg
  have hc := UsablePolicy.composes_of_generate hgp
  have ho := UsablePolicy.obstacle?_of_generate hgp
  obtain ⟨-, hm, -⟩ := (p.obstacle?_eq_none_iff mask.plain requested).mp ho
  have hv : validate password mask entries = .ofPolicy p password := by rw [validate, hp]
  refine ⟨_, hv.trans (ValidationResult.ofPolicy_of_accepts (hc.accepts hm)), rfl, ?_⟩
  have hdefault : (p.defaultLength : Int) =
      max (p.minLength : Int) ((Text.singletons p.required).length + 2) := by
    simp only [UsablePolicy.defaultLength, Text.singletons, List.length_map]
    omega
  show (password.length : Int) = requested.getD _
  rw [hc.length_eq, UsablePolicy.targetLength, hdefault]

/-- An alphabet that lists a character twice: the index nine wraps around it, and the password has
the default length. -/
theorem validate_generate_repeated_special :
    (generate Source.ofList (.str "00001200193".toList) [.str ['x'], .str ['x']] none
      [0, 7, 2, 0, 1]).1 = .ok ['x', 'x', '1', '0'] ∧
    ∃ details, validate ['x', 'x', '1', '0'] (.str "00001200193".toList)
        [.str ['x'], .str ['x']] = ⟨true, [], some details⟩ ∧
      details.foundRequiredChars = details.requiredChars ∧
      details.length = max details.minLength (details.requiredChars.length + 2) :=
  ⟨rfl, (validate_generate _ _ none [0, 7, 2, 0, 1]).1 Source.ofList _ rfl⟩

end MaskPolicy
