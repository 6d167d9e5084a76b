import MaskPolicy.Proofs.Mask.Grammar
import MaskPolicy.Proofs.Mask.Encoding
import MaskPolicy.Proofs.Record.Check

/-!
# Policies of choices

A policy comes of a choice of rules when its numbers are within the bounds, and the record of
policies, which checks the members that are made of the choice, draws the same bounds.
-/

namespace MaskPolicy

namespace Choice

/-- Each number is within its bounds. -/
structure InRange (choice : Choice) : Prop where
  index : ∀ c, 0 ≤ choice.index c ∧ choice.index c ≤ 9
  minLength : 1 ≤ choice.minLength ∧ choice.minLength ≤ 9

/-- The policy has the flags and the numbers of the choice. -/
structure Chosen {σ : Type} (choice : Choice) (p : Policy σ) : Prop where
  allowed : ∀ c, (p.rule c).allowed = choice.allowed c
  index : ∀ c, (p.rule c).index.val = choice.index c
  minLength : p.minLength = choice.minLength

/-- The choice that a policy stands for. -/
def ofPolicy {σ : Type} (p : Policy σ) : Choice where
  allowed c := (p.rule c).allowed
  index c := (p.rule c).index.val
  minLength := p.minLength

variable {σ : Type} {choice : Choice} {p : Policy σ}

theorem chosen_ofPolicy (p : Policy σ) : (ofPolicy p).Chosen p := ⟨fun _ => rfl, fun _ => rfl, rfl⟩

/-- A choice is known from a policy with its flags and numbers. -/
theorem Chosen.eq_ofPolicy (h : choice.Chosen p) : choice = ofPolicy p :=
  Choice.ext (funext fun c => (h.allowed c).symm) (funext fun c => (h.index c).symm)
    h.minLength.symm

/-- The numbers of a policy are within the bounds. -/
theorem Chosen.inRange (h : choice.Chosen p) : choice.InRange where
  index c := by
    rw [← h.index c]
    omega
  minLength := by
    have hone := p.one_le_minLength
    have hnine := p.minLength_le_nine
    rw [← h.minLength]
    omega

/-- The rule about a class that a choice within the bounds gives. -/
def rule (h : choice.InRange) (c : CharClass) : Rule where
  allowed := choice.allowed c
  index := ⟨(choice.index c).toNat, by have := h.index c; omega⟩

/-- The policy of a choice within the bounds. -/
def policy (h : choice.InRange) (alphabet : List σ) : Policy σ where
  uppercase := rule h .uppercase
  lowercase := rule h .lowercase
  digitsLow := rule h .digitsLow
  digitsHigh := rule h .digitsHigh
  special := rule h .special
  minLength := choice.minLength.toNat
  one_le_minLength := by have := h.minLength; omega
  minLength_le_nine := by have := h.minLength; omega
  alphabet

/-- The policy of a choice has its flags and numbers. -/
theorem chosen_policy (h : choice.InRange) (alphabet : List σ) :
    choice.Chosen (policy h alphabet) where
  allowed c := by cases c <;> rfl
  index c := by cases c <;> exact Int.toNat_of_nonneg (h.index _).1
  minLength := Int.toNat_of_nonneg (by have := h.minLength; omega)

/-- Another alphabet, and characters in place of texts, leave the flags and the numbers. -/
theorem Chosen.of_withTexts {p : Policy Char} {q : Policy Text} {symbols : List Text}
    (hq : choice.Chosen q) (h : p.withTexts = { q with alphabet := symbols }) :
    choice.Chosen p := by
  have hrule : ∀ c, p.rule c = q.rule c := by
    intro c
    have hc := congrArg (Policy.rule · c) h
    cases c <;> exact hc
  have hlength : p.minLength = q.minLength := congrArg Policy.minLength h
  refine ⟨fun c => ?_, fun c => ?_, ?_⟩
  · rw [hrule, hq.allowed]
  · rw [hrule, hq.index]
  · rw [hlength, hq.minLength]

/-- Policies with the flags and the numbers of one choice have the same text. -/
theorem Chosen.encode_eq {τ : Type} {q : Policy τ} (hp : choice.Chosen p) (hq : choice.Chosen q) :
    p.encode = q.encode := by
  have hrule : ∀ c, p.rule c = q.rule c := by
    intro c
    have hallowed := (hp.allowed c).trans (hq.allowed c).symm
    have hindex := (hp.index c).trans (hq.index c).symm
    cases hr : p.rule c
    cases hr' : q.rule c
    rw [hr, hr'] at hallowed hindex
    simp only [Rule.mk.injEq]
    exact ⟨hallowed, Fin.ext (Int.ofNat.inj hindex)⟩
  have hlength : p.minLength = q.minLength :=
    Int.ofNat.inj (hp.minLength.trans hq.minLength.symm)
  simp only [Policy.encode, Policy.numbers, hrule, hlength]

/-- The text of a policy tells its flags and numbers. -/
theorem ofPolicy_eq_of_encode_eq {τ : Type} {q : Policy τ} (h : p.encode = q.encode) :
    ofPolicy p = ofPolicy q := by
  have hmask : p.mask = q.mask := by
    rw [Policy.encode_eq_text, Policy.encode_eq_text] at h
    exact Mask.text_injective h
  have hrule : ∀ c, p.rule c = q.rule c := by
    intro c
    rw [← p.policy_mask, ← q.policy_mask, Mask.rule_policy, Mask.rule_policy, hmask]
  have hlength : p.minLength = q.minLength := by
    have := congrArg Mask.length hmask
    exact Fin.mk.inj this
  simp only [ofPolicy, hrule, hlength]

end Choice

private theorem indexCodec_eq_ok_iff {n : Int} {i : Fin 10} :
    indexCodec.decode (.int n) = .ok i ↔ i.val = n :=
  (Codec.imap_eq_ok_iff fun _ => rfl).trans Codec.between_eq_ok_iff

private theorem Fields.rule_eq_ok_iff {look : Text → Option Json} {allowed index : String}
    {disjoint : ∀ n ∈ [allowed.toList], n ∉ [index.toList]} {b : Bool} {n : Int}
    (hallowed : look allowed.toList = some (.bool b)) (hindex : look index.toList = some (.int n))
    {r : Rule} :
    (Rule.fields allowed index disjoint).decode look = .ok r ↔
      r.allowed = b ∧ r.index.val = n := by
  have hflag : Codec.bool.decode (.bool b) = .ok r.allowed ↔ r.allowed = b := by
    constructor
    · rintro ⟨⟩
      rfl
    · rintro rfl
      rfl
  refine (Fields.imap_eq_ok_iff fun _ => rfl).trans (Fields.pair_eq_ok_iff.trans (and_congr ?_ ?_))
  · exact (Fields.one_eq_ok_iff hallowed).trans hflag
  · exact (Fields.one_eq_ok_iff hindex).trans indexCodec_eq_ok_iff

namespace Choice

variable (choice : Choice)

private theorem member?_members (c : CharClass) :
    Json.member? c.fieldNames.1.toList choice.members = some (.bool (choice.allowed c)) ∧
    Json.member? c.fieldNames.2.toList choice.members = some (.int (choice.index c)) := by
  cases c <;> exact ⟨rfl, rfl⟩

private theorem ruleFields_eq_ok_iff {q : Policy Text} :
    Policy.ruleFields.decode (Json.member? · choice.members) =
        .ok (q.uppercase, q.lowercase, q.digitsLow, q.digitsHigh, q.special) ↔
      ∀ c, (q.rule c).allowed = choice.allowed c ∧ (q.rule c).index.val = choice.index c := by
  have hclasses : ∀ P : CharClass → Prop, (P .uppercase ∧ P .lowercase ∧ P .digitsLow ∧
      P .digitsHigh ∧ P .special) ↔ ∀ c, P c := by
    intro P
    constructor
    · rintro ⟨hu, hl, hdl, hdh, hs⟩ c
      cases c <;> assumption
    · exact fun h => ⟨h _, h _, h _, h _, h _⟩
  rw [← hclasses]
  have hrule := fun c => choice.member?_members c
  exact Fields.pair_eq_ok_iff.trans <|
    and_congr (Fields.rule_eq_ok_iff (hrule .uppercase).1 (hrule .uppercase).2) <|
    Fields.pair_eq_ok_iff.trans <|
    and_congr (Fields.rule_eq_ok_iff (hrule .lowercase).1 (hrule .lowercase).2) <|
    Fields.pair_eq_ok_iff.trans <|
    and_congr (Fields.rule_eq_ok_iff (hrule .digitsLow).1 (hrule .digitsLow).2) <|
    Fields.pair_eq_ok_iff.trans <|
    and_congr (Fields.rule_eq_ok_iff (hrule .digitsHigh).1 (hrule .digitsHigh).2)
      (Fields.rule_eq_ok_iff (hrule .special).1 (hrule .special).2)

/-- The record of policies takes the members of a choice for what they say. -/
theorem decode_members_eq_ok_iff {q : Policy Text} :
    Policy.codec.decode (.obj choice.members) = .ok q ↔
      choice.Chosen q ∧ q.alphabet = Text.singletons defaultAlphabet := by
  let look := (Json.member? · choice.members)
  have hcheck : Policy.codec.decode (.obj choice.members) = Policy.fields.decode look := by
    have hextras : Policy.info.extras Policy.fields.names choice.members = .ok () := rfl
    show Except.map Prod.fst (Checked.both (Policy.fields.decode look) _) = _
    rw [hextras]
    cases Policy.fields.decode look <;> rfl
  have hlength : look "min_length".toList = some (.int choice.minLength) := rfl
  have halphabet : look "special_alphabet".toList = none := rfl
  rw [hcheck]
  refine (Fields.imap_eq_ok_iff fun _ => rfl).trans <| Fields.pair_eq_ok_iff.trans <|
    (and_congr choice.ruleFields_eq_ok_iff <| Fields.pair_eq_ok_iff.trans <|
    and_congr ((Fields.one_eq_ok_iff hlength).trans Codec.between_eq_ok_iff) Iff.rfl).trans ?_
  rw [Fields.one_of_default halphabet rfl]
  constructor
  · rintro ⟨hrules, hmin, hdefault⟩
    exact ⟨⟨fun c => (hrules c).1, fun c => (hrules c).2, hmin⟩, (Except.ok.inj hdefault).symm⟩
  · rintro ⟨hchosen, hdefault⟩
    exact ⟨fun c => ⟨hchosen.allowed c, hchosen.index c⟩, hchosen.minLength,
      congrArg Except.ok hdefault.symm⟩

/-- The record of policies takes the members of a choice when it is within the bounds. -/
theorem exists_decode_members_iff :
    (∃ q, Policy.codec.decode (.obj choice.members) = .ok q) ↔ choice.InRange := by
  simp only [decode_members_eq_ok_iff]
  constructor
  · rintro ⟨q, hchosen, -⟩
    exact hchosen.inRange
  · exact fun h => ⟨policy h _, chosen_policy h _, rfl⟩

end Choice

end MaskPolicy
