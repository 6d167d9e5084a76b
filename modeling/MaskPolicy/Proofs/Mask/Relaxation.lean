import MaskPolicy.Proofs.Mask.Grammar
import MaskPolicy.Proofs.Password.Feasibility
import MaskPolicy.Proofs.Policy.Agreement
import Mathlib.Logic.Relation

/-!
# Relaxed masks

A mask is relaxed by asking for less: a shorter minimum length, no particular character of a class,
or one more class, provided that no character of it is asked for. Any number of such steps leads to
the masks with no higher minimum length in which the digits about a class are the same, or have the
index zero and at most a flag that now allows the class. Every class then allows what it allowed,
and requires a character only if it required the same one, and so a check against the relaxed mask
reports no character and no requirement that a check against the mask does not report, in the same
order.
-/

namespace MaskPolicy

namespace Mask

/-- The mask with another pair of digits about a class. -/
def withPair (m : Mask) (d : MaskPair) : CharClass → Mask
  | .uppercase => { m with uppercase := d }
  | .lowercase => { m with lowercase := d }
  | .digitsLow => { m with digitsLow := d }
  | .digitsHigh => { m with digitsHigh := d }
  | .special => { m with special := d }

private theorem pairOf_withPair (m : Mask) (d : MaskPair) (c c' : CharClass) :
    (m.withPair d c).pairOf c' = if c' = c then d else m.pairOf c' := by
  cases c <;> cases c' <;> rfl

private theorem minLength_withPair (m : Mask) (d : MaskPair) (c : CharClass) :
    (m.withPair d c).minLength = m.minLength := by
  cases c <;> rfl

/-- One way to relax a mask. -/
inductive RelaxStep : Mask → Mask → Prop
  /-- Another last digit does not raise the minimum length. -/
  | shorten (m : Mask) (d : Fin 10) (h : max 1 d.val ≤ m.minLength) :
    RelaxStep m { m with length := d }
  /-- The index of a class is set to zero. -/
  | unrequire (m : Mask) (c : CharClass) : RelaxStep m (m.withPair ⟨(m.pairOf c).flag, 0⟩ c)
  /-- A class without an index that is not allowed is allowed. -/
  | allow (m : Mask) (c : CharClass) (hflag : (m.pairOf c).flag ≠ 1)
    (hindex : (m.pairOf c).index = 0) : RelaxStep m (m.withPair ⟨1, 0⟩ c)

/-- What becomes of the digits about a class. -/
inductive RelaxedPair (d : MaskPair) : MaskPair → Prop
  /-- The digits are left as they are. -/
  | same : RelaxedPair d d
  /-- The index is set to zero. -/
  | unrequired : RelaxedPair d ⟨d.flag, 0⟩
  /-- The class is allowed without an index. -/
  | allowed : RelaxedPair d ⟨1, 0⟩

/-- Digits that are relaxed twice. -/
theorem RelaxedPair.trans {d d' d'' : MaskPair} (h : RelaxedPair d d') (h' : RelaxedPair d' d'') :
    RelaxedPair d d'' := by
  cases h' with
  | same => exact h
  | unrequired =>
    cases h with
    | same => exact .unrequired
    | unrequired => exact .unrequired
    | allowed => exact .allowed
  | allowed => exact .allowed

variable {m m' : Mask} {c : CharClass} {d : MaskPair}

private theorem relaxedPair_withPair (h : RelaxedPair (m.pairOf c) d) (c' : CharClass) :
    RelaxedPair (m.pairOf c') ((m.withPair d c).pairOf c') := by
  rw [pairOf_withPair]
  split
  · next heq => rwa [heq]
  · exact .same

/-- A step does not raise the minimum length and relaxes the digits about each class. -/
theorem relaxed_of_step (h : RelaxStep m m') :
    m'.minLength ≤ m.minLength ∧ ∀ c, RelaxedPair (m.pairOf c) (m'.pairOf c) := by
  cases h with
  | shorten d h => exact ⟨h, fun c => by cases c <;> exact .same⟩
  | unrequire c =>
    exact ⟨Nat.le_of_eq (m.minLength_withPair _ c), relaxedPair_withPair .unrequired⟩
  | allow c =>
    exact ⟨Nat.le_of_eq (m.minLength_withPair _ c), relaxedPair_withPair .allowed⟩

/-- The digits about a class are relaxed in two steps at most. -/
theorem steps_withPair (h : RelaxedPair (m.pairOf c) d) :
    Relation.ReflTransGen RelaxStep m (m.withPair d c) := by
  have hunrequired := RelaxStep.unrequire m c
  cases h with
  | same =>
    have hsame : m.withPair (m.pairOf c) c = m := by cases c <;> rfl
    rw [hsame]
  | unrequired => exact .single hunrequired
  | allowed =>
    by_cases hflag : (m.pairOf c).flag = 1
    · rw [hflag] at hunrequired
      exact .single hunrequired
    · have hpair : (m.withPair ⟨(m.pairOf c).flag, 0⟩ c).pairOf c = ⟨(m.pairOf c).flag, 0⟩ := by
        rw [pairOf_withPair, if_pos rfl]
      have hallowed := RelaxStep.allow (m.withPair ⟨(m.pairOf c).flag, 0⟩ c) c
        (by rwa [hpair]) (by rw [hpair])
      have htwice : ∀ d, (m.withPair d c).withPair ⟨1, 0⟩ c = m.withPair ⟨1, 0⟩ c := by
        cases c <;> exact fun _ => rfl
      rw [htwice] at hallowed
      exact .tail (.single hunrequired) hallowed

/-- Steps lead to the masks with no higher minimum length and with relaxed digits about each class.
-/
theorem relaxSteps_iff : Relation.ReflTransGen RelaxStep m m' ↔
    m'.minLength ≤ m.minLength ∧ ∀ c, RelaxedPair (m.pairOf c) (m'.pairOf c) := by
  constructor
  · intro h
    induction h with
    | refl => exact ⟨Nat.le_refl _, fun _ => .same⟩
    | tail _ hstep ih =>
      obtain ⟨hlength, hpairs⟩ := relaxed_of_step hstep
      exact ⟨Nat.le_trans hlength ih.1, fun c => (ih.2 c).trans (hpairs c)⟩
  · rintro ⟨hlength, hpairs⟩
    -- The classes take their turns, and the digits about a class are left alone until then.
    have huppercase := steps_withPair (hpairs .uppercase)
    have hlowercase := huppercase.trans (steps_withPair (c := .lowercase) (hpairs .lowercase))
    have hdigitsLow := hlowercase.trans (steps_withPair (c := .digitsLow) (hpairs .digitsLow))
    have hdigitsHigh := hdigitsLow.trans (steps_withPair (c := .digitsHigh) (hpairs .digitsHigh))
    have hspecial := hdigitsHigh.trans (steps_withPair (c := .special) (hpairs .special))
    exact hspecial.tail (.shorten _ m'.length hlength)

end Mask

/-- A rule asks for no more than another one: it allows the class if the other one does, and
requires a character only if the other one requires the same. -/
structure Rule.Relaxed (r r' : Rule) : Prop where
  allowed : r.allowed = true → r'.allowed = true
  required : r'.allowed = true → r'.index ≠ 0 → r.allowed = true ∧ r.index = r'.index

/-- Relaxed digits denote a rule that asks for no more. -/
theorem Mask.RelaxedPair.rule {d d' : MaskPair} (h : RelaxedPair d d') :
    d.rule.Relaxed d'.rule := by
  cases h with
  | same => exact ⟨id, fun hallowed _ => ⟨hallowed, rfl⟩⟩
  | unrequired => exact ⟨id, fun _ hne => absurd rfl hne⟩
  | allowed => exact ⟨fun _ => rfl, fun _ hne => absurd rfl hne⟩

/-- A policy asks for no more than another one with the same alphabet. -/
structure Policy.Relaxed {σ : Type} (p p' : Policy σ) : Prop where
  alphabet : p'.alphabet = p.alphabet
  minLength : p'.minLength ≤ p.minLength
  rule : ∀ c, (p.rule c).Relaxed (p'.rule c)

/-- Steps lead to a mask that denotes a policy that asks for no more. -/
theorem Mask.relaxed_of_steps {σ : Type} {m m' : Mask} (h : Relation.ReflTransGen RelaxStep m m')
    (alphabet : List σ) : (m.policy alphabet).Relaxed (m'.policy alphabet) := by
  obtain ⟨hlength, hpairs⟩ := relaxSteps_iff.mp h
  refine ⟨rfl, hlength, fun c => ?_⟩
  rw [rule_policy, rule_policy]
  exact (hpairs c).rule

namespace Policy.Relaxed

variable {σ : Type} {p p' : Policy σ}

/-- The charsets are the same. -/
theorem charset [Symbol σ] (h : p.Relaxed p') (c : CharClass) : p'.charset c = p.charset c := by
  rw [Policy.charset, Policy.charset, h.alphabet]

/-- What is allowed stays allowed. -/
theorem allowed_subset [Symbol σ] (h : p.Relaxed p') : p.allowed ⊆ p'.allowed := by
  intro x hx
  obtain ⟨c, hc, hxc⟩ := List.mem_flatMap.mp hx
  rw [mem_allowedClasses_iff] at hc
  refine List.mem_flatMap.mpr ⟨c, mem_allowedClasses_iff.mpr ((h.rule c).allowed hc), ?_⟩
  rwa [h.charset]

end Policy.Relaxed

namespace UsablePolicy

/-- The classes of which a character is required. -/
def requiringClasses (p : UsablePolicy) : List CharClass :=
  CharClass.all.filter fun c => (p.rule c).allowed = true ∧ (p.rule c).index.val ≠ 0

/-- The character that the index of a class counts off. -/
def counted? (p : UsablePolicy) (c : CharClass) : Option Char :=
  (p.charset c)[((p.rule c).index.val - 1) % (p.charset c).length]?

/-- The required characters are those counted off, class by class. -/
theorem required_eq_filterMap (p : UsablePolicy) :
    p.required = p.requiringClasses.filterMap p.counted? := by
  obtain ⟨choices, hclasses, hcounted, hrequired, -⟩ := p.exists_choices
  have hrequiring : p.requiringClasses = choices.map Prod.fst := by
    rw [hclasses, requiringClasses, Policy.allowedClasses, List.filter_filter]
    exact List.filter_congr fun c _ => by simp [Bool.and_comm]
  rw [hrequired, hrequiring, List.filterMap_map, ← List.filterMap_eq_map]
  exact List.filterMap_congr fun s hs => (hcounted s hs).symm

variable {p p' : UsablePolicy} {w : Text}

/-- A class requires a character exactly when it is allowed and has an index. -/
theorem mem_requiringClasses_iff {c : CharClass} :
    c ∈ p.requiringClasses ↔ (p.rule c).allowed = true ∧ (p.rule c).index.val ≠ 0 := by
  rw [requiringClasses, List.mem_filter, and_iff_right (CharClass.mem_all c), decide_eq_true_iff]

variable (h : p.toPolicy.Relaxed p'.toPolicy)

include h

/-- A class that requires a character did so before, and the same one. -/
theorem required_of_relaxed {c : CharClass} (hc : c ∈ p'.requiringClasses) :
    c ∈ p.requiringClasses ∧ p'.counted? c = p.counted? c := by
  obtain ⟨hallowed, hindex⟩ := mem_requiringClasses_iff.mp hc
  have hne : (p'.rule c).index ≠ 0 := fun hzero => hindex (congrArg Fin.val hzero)
  obtain ⟨hallowed', hindex'⟩ := (h.rule c).required hallowed hne
  refine ⟨mem_requiringClasses_iff.mpr ⟨hallowed', hindex' ▸ hindex⟩, ?_⟩
  rw [counted?, counted?, h.charset, hindex']

/-- The required characters are some of those required before. -/
theorem required_sublist_of_relaxed : p'.required.Sublist p.required := by
  have hclasses : p'.requiringClasses.Sublist p.requiringClasses := by
    refine List.monotone_filter_right _ fun c hc => ?_
    have hrequiring :=
      (required_of_relaxed h (mem_requiringClasses_iff.mpr (of_decide_eq_true hc))).1
    exact decide_eq_true (mem_requiringClasses_iff.mp hrequiring)
  have hsame : p'.required = p'.requiringClasses.filterMap p.counted? := by
    rw [required_eq_filterMap]
    exact List.filterMap_congr fun c hc => (required_of_relaxed h hc).2
  rw [hsame, required_eq_filterMap p]
  exact hclasses.filterMap _

/-- The characters that are not allowed are some of those not allowed before. -/
theorem characterViolations_sublist_of_relaxed :
    (p'.characterViolations w).Sublist (p.characterViolations w) := by
  refine (List.monotone_filter_right _ fun c hc => ?_).map _
  rw [decide_eq_true_iff] at hc ⊢
  exact fun hallowed => hc (h.allowed_subset hallowed)

/-- The required characters that are missing are some of those missing before. -/
theorem requirementViolations_sublist_of_relaxed :
    (p'.requirementViolations w).Sublist (p.requirementViolations w) :=
  ((required_sublist_of_relaxed h).filter _).map _

/-- What is accepted stays accepted. -/
theorem accepts_of_relaxed (ha : p.Accepts w) : p'.Accepts w :=
  ⟨Nat.le_trans h.minLength ha.1, fun c hc => h.allowed_subset (ha.2.1 c hc),
    fun c hc => ha.2.2 c ((required_sublist_of_relaxed h).subset hc)⟩

end UsablePolicy

/-- Relaxing a mask rejects no password that was accepted. Where a mask comes from another one by
any number of steps and both can be used with an alphabet, every password that is valid for the one
is valid for the other. For every password the characters and the requirements that are reported are
some of those reported before, in the same order; beside them there is only the length, whose report
names the minimum. -/
theorem validate_relaxed {m m' : Mask} {entries : List Json} {p p' : UsablePolicy}
    (hp : Policy.parse (.str m.text) entries = .ok p)
    (hp' : Policy.parse (.str m'.text) entries = .ok p')
    (h : Relation.ReflTransGen Mask.RelaxStep m m') (password : Text) :
    ((validate password (.str m.text) entries).isValid = true →
      (validate password (.str m'.text) entries).isValid = true) ∧
    (validate password (.str m.text) entries).errors = (p.lengthViolations password ++
      (p.characterViolations password ++ p.requirementViolations password)).map
        Violation.message ∧
    (validate password (.str m'.text) entries).errors = (p'.lengthViolations password ++
      (p'.characterViolations password ++ p'.requirementViolations password)).map
        Violation.message ∧
    (p'.characterViolations password ++ p'.requirementViolations password).Sublist
      (p.characterViolations password ++ p.requirementViolations password) := by
  have hrelaxed : p.toPolicy.Relaxed p'.toPolicy := by
    obtain ⟨alphabet, halphabet, hpolicy⟩ := Policy.exists_alphabet_of_parse hp
    obtain ⟨alphabet', halphabet', hpolicy'⟩ := Policy.exists_alphabet_of_parse hp'
    obtain rfl : alphabet = alphabet' := Except.ok.inj (halphabet.symm.trans halphabet')
    rw [hpolicy, hpolicy']
    exact Mask.relaxed_of_steps h alphabet
  have herrors : ∀ (mask : Json) (q : UsablePolicy), Policy.parse mask entries = .ok q →
      (validate password mask entries).errors = (q.lengthViolations password ++
        (q.characterViolations password ++ q.requirementViolations password)).map
          Violation.message := by
    intro mask q hq
    rw [validate_of_parse hq, ← List.append_assoc]
    rfl
  refine ⟨?_, herrors _ p hp, herrors _ p' hp', ?_⟩
  · rw [isValid_validate_iff hp, isValid_validate_iff hp']
    exact UsablePolicy.accepts_of_relaxed hrelaxed
  · exact (UsablePolicy.characterViolations_sublist_of_relaxed hrelaxed).append
      (UsablePolicy.requirementViolations_sublist_of_relaxed hrelaxed)

/-- Of a class that is not allowed the index is dropped and the class is then allowed, another class
takes the place of a flag seven, a third loses its requirement, and the last digit becomes zero. One
of the reported characters is still reported. -/
theorem validate_relaxed_steps :
    let m : Mask := ⟨⟨1, 3⟩, ⟨0, 4⟩, ⟨0, 0⟩, ⟨0, 0⟩, ⟨7, 0⟩, 9⟩
    let m' : Mask := ⟨⟨1, 0⟩, ⟨1, 0⟩, ⟨0, 0⟩, ⟨0, 0⟩, ⟨1, 0⟩, 0⟩
    m.text = "13040000709".toList ∧ m'.text = "10100000100".toList ∧
    Relation.ReflTransGen Mask.RelaxStep m m' ∧
    ∃ p p', Policy.parse (.str m.text) [.str ['!']] = .ok p ∧
      Policy.parse (.str m'.text) [.str ['!']] = .ok p' ∧
      p'.characterViolations "Ab!7".toList = [.notAllowed '7'] ∧
      (p'.characterViolations "Ab!7".toList ++ p'.requirementViolations "Ab!7".toList).Sublist
        (p.characterViolations "Ab!7".toList ++ p.requirementViolations "Ab!7".toList) := by
  intro m m'
  have hsteps : Relation.ReflTransGen Mask.RelaxStep m m' :=
    .head (.unrequire _ .uppercase) <| .head (.unrequire _ .lowercase) <|
      .head (.allow _ .lowercase (by decide) rfl) <|
      .head (.allow _ .special (by decide) rfl) <| .single (.shorten _ 0 (by decide))
  have hp : ∃ p, Policy.parse (.str m.text) [.str ['!']] = .ok p := ⟨_, rfl⟩
  have hp' : ∃ p', Policy.parse (.str m'.text) [.str ['!']] = .ok p' ∧
      p'.characterViolations "Ab!7".toList = [.notAllowed '7'] := ⟨_, rfl, rfl⟩
  obtain ⟨p, hp⟩ := hp
  obtain ⟨p', hp', hcharacters⟩ := hp'
  exact ⟨rfl, rfl, hsteps, p, p', hp, hp', hcharacters,
    (validate_relaxed hp hp' hsteps "Ab!7".toList).2.2.2⟩

end MaskPolicy
