import Mathlib.Algebra.Group.Int.Defs
import MaskPolicy.Policy.Choice
import MaskPolicy.Proofs.Calls

/-!
# What is parsed, and what is refused

A mask is a text of eleven ASCII digits and no other value. Anything else is refused for itself, and
then no alphabet is looked at. A mask is refused for its alphabet when an entry is no character, the
first such entry being named, and after that when there are no entries although the digit for
special characters is one. Everything else is parsed, and each number of the policy stands at its
own position of the text. Parsing breaks off at an integer in place of a mask that cannot be
written, and, for a mask, at an alphabet without elements.
-/

namespace MaskPolicy

namespace Mask

/-- The value is a text of eleven ASCII digits. -/
def SpelledBy (v : Json) : Prop := ∃ t, v = .str t ∧ Spelled t

/-- The value of the digit at a position of a text. -/
def digitAt (t : Text) (i : Nat) : Nat := (t[i]?).elim 0 fun c => c.toNat - '0'.toNat

/-- The position of the flag of a class; that of its index is the next one. -/
def place (c : CharClass) : Nat := 2 * CharClass.all.idxOf c

/-- The members from which the record of a policy is made, as the digits of a text give them. -/
def members (t : Text) (entries : List Json) : List (Text × Json) :=
  (CharClass.all.flatMap fun c => [
    (c.fieldNames.1.toList, .bool (digitAt t (place c) = 1)),
    (c.fieldNames.2.toList, .int (digitAt t (place c + 1)))]) ++ [
  ("min_length".toList, .int (if digitAt t 10 = 0 then 1 else digitAt t 10)),
  ("special_alphabet".toList, .arr entries)]

private theorem digitAt_text (m : Mask) (i : Nat) :
    digitAt m.text i = (m.digits[i]?).elim 0 Fin.val := by
  have hdigit : ∀ d : Fin 10, (digitChar d).toNat - '0'.toNat = d.val := by decide
  rw [digitAt, text, List.getElem?_map]
  cases m.digits[i]? with
  | none => rfl
  | some d => exact hdigit d

private theorem ofValue_of_not_spelledBy {v : Json} (h : ¬SpelledBy v) :
    ofValue v = .error (.malformed v.plain) := by
  have hnone : v.text?.bind ofText? = none := by
    cases hm : v.text?.bind ofText? with
    | none => rfl
    | some m =>
      obtain ⟨t, ht, hspelled⟩ := Option.bind_eq_some_iff.mp hm
      obtain rfl := ofText?_eq_some_iff.mp hspelled
      cases v with
      | str t =>
        obtain rfl := Option.some.inj ht
        exact absurd ⟨_, rfl, m.spelled_text⟩ h
      | _ => cases ht
  rw [ofValue, hnone]

/-- A text of a mask can be written. -/
theorem writable_of_spelledBy {v : Json} (h : SpelledBy v) : v.writable = true := by
  obtain ⟨t, rfl, -⟩ := h
  exact Json.writable_str t

/-- The pair of digits about a class. -/
def pairOf (m : Mask) : CharClass → MaskPair
  | .uppercase => m.uppercase
  | .lowercase => m.lowercase
  | .digitsLow => m.digitsLow
  | .digitsHigh => m.digitsHigh
  | .special => m.special

private theorem getElem?_digits (m : Mask) (c : CharClass) :
    m.digits[place c]? = some (m.pairOf c).flag ∧
      m.digits[place c + 1]? = some (m.pairOf c).index := by
  cases c <;> exact ⟨rfl, rfl⟩

/-- The rule for a class is the one that its pair of digits denotes. -/
theorem rule_policy (m : Mask) {σ : Type} (alphabet : List σ) (c : CharClass) :
    (m.policy alphabet).rule c = (m.pairOf c).rule := by
  cases c <;> rfl

/-- A class is allowed when the digit at its first position is one. -/
theorem allowed_policy (m : Mask) {σ : Type} (alphabet : List σ) (c : CharClass) :
    ((m.policy alphabet).rule c).allowed = decide (digitAt m.text (place c) = 1) := by
  have hone : ∀ d : Fin 10, decide (d = 1) = decide (d.val = 1) := by decide
  rw [digitAt_text, (m.getElem?_digits c).1, rule_policy]
  exact hone _

/-- The index of a class is the digit at its second position. -/
theorem index_policy (m : Mask) {σ : Type} (alphabet : List σ) (c : CharClass) :
    ((m.policy alphabet).rule c).index.val = digitAt m.text (place c + 1) := by
  rw [digitAt_text, (m.getElem?_digits c).2, rule_policy]
  rfl

/-- The minimum length is the last digit, where zero is read as one. -/
theorem minLength_eq (m : Mask) : m.minLength = max 1 (digitAt m.text 10) := by
  rw [digitAt_text]
  rfl

private theorem decode_members (m : Mask) (alphabet : Text) :
    Policy.codec.decode (.obj (members m.text (Alphabet.entriesOf alphabet))) =
      .ok (m.policy alphabet).withTexts := by
  let p := m.policy alphabet
  have hencode : Policy.codec.encode p.withTexts = .obj
      ((CharClass.all.flatMap fun c => [
        (c.fieldNames.1.toList, .bool (p.rule c).allowed),
        (c.fieldNames.2.toList, .int (p.rule c).index.val)]) ++ [
      ("min_length".toList, .int p.minLength),
      ("special_alphabet".toList, .arr ((Text.singletons alphabet).map .str))]) := rfl
  have hlength : (if digitAt m.text 10 = 0 then 1 else (digitAt m.text 10 : Int)) =
      p.minLength := by
    have hmin : p.minLength = max 1 (digitAt m.text 10) := m.minLength_eq
    rw [hmin]
    split <;> omega
  have hentries : (Text.singletons alphabet).map .str = Alphabet.entriesOf alphabet := by
    rw [Text.singletons, List.map_map]
    rfl
  have hmembers : Json.obj (members m.text (Alphabet.entriesOf alphabet)) =
      Policy.codec.encode p.withTexts := by
    rw [hencode, members, hentries, hlength]
    simp only [p, allowed_policy, index_policy]
  rw [hmembers, Policy.codec.decode_encode]

end Mask

namespace Policy

variable {mask alphabet : Json} {entries : List Json}

/-- Why a value and the entries of an alphabet are not parsed, the first reason that holds. -/
inductive Flawed (mask : Json) (entries : List Json) : MaskError → Prop
  | malformed (h : ¬Mask.SpelledBy mask) : Flawed mask entries (.malformed mask.plain)
  | notCharacter {entry : Json} (h : Mask.SpelledBy mask)
    (hentry : Alphabet.FirstOther entries entry) : Flawed mask entries (.notCharacter entry)
  | emptyAlphabet {t : Text} (ht : mask = .str t) (h : Mask.Spelled t)
    (hflag : Mask.digitAt t 8 = 1) (hnil : entries = []) : Flawed mask entries .emptyAlphabet

/-- The digit about special characters is the flag of their class. -/
theorem special_flag_iff (m : Mask) : m.special.flag = 1 ↔ Mask.digitAt m.text 8 = 1 := by
  have hallowed := m.allowed_policy ([] : Text) .special
  rw [Bool.eq_iff_iff, decide_eq_true_iff] at hallowed
  exact decide_eq_true_iff.symm.trans hallowed

/-- What is no text of a mask is refused for itself, whatever the entries are. -/
theorem parse_of_not_spelledBy (h : ¬Mask.SpelledBy mask) (entries : List Json) :
    parse mask entries = .error (.malformed mask.plain) := by
  rw [parse, Mask.ofValue_of_not_spelledBy h]
  rfl

/-- What is no text of a mask is refused for itself, if it can be written, whatever the alphabet is.
-/
theorem parse?_of_not_spelledBy (h : ¬Mask.SpelledBy mask) : parse? mask alphabet =
    if mask.writable then .ok (.error (.malformed mask.plain)) else .error .tooManyDigits := by
  rw [parse?, Mask.ofValue_of_not_spelledBy h]

/-- A text of a mask is parsed with the elements of the alphabet, if it has any. -/
theorem parse?_of_spelledBy (h : Mask.SpelledBy mask) : parse? mask alphabet =
    alphabet.elements?.elim (.error .noElements) fun entries => .ok (parse mask entries) := by
  cases halphabet : alphabet.elements? with
  | none =>
    obtain ⟨t, rfl, ht⟩ := h
    obtain ⟨m, rfl⟩ := Mask.exists_text_of_spelled ht
    simp [parse?, Mask.ofValue, Json.text?, Mask.ofText?_text, halphabet]
  | some entries => exact parse?_eq_ok (Mask.writable_of_spelledBy h) halphabet

/-- With the elements of an alphabet, parsing comes to an end when the value can be written. -/
theorem parse?_eq_ok_iff (halphabet : alphabet.elements? = some entries)
    {r : Except MaskError UsablePolicy} :
    parse? mask alphabet = .ok r ↔ mask.writable = true ∧ parse mask entries = r := by
  by_cases hw : mask.writable = true
  · rw [parse?_eq_ok hw halphabet, Except.ok.injEq, and_iff_right hw]
  · rw [parse?_of_not_spelledBy (mt Mask.writable_of_spelledBy hw), if_neg hw]
    exact ⟨nofun, fun h => absurd h.1 hw⟩

/-- Parsing fails with the first reason that holds. -/
theorem parse_eq_error_iff {e : MaskError} :
    parse mask entries = .error e ↔ Flawed mask entries e := by
  by_cases hmask : Mask.SpelledBy mask
  · obtain ⟨t, rfl, ht⟩ := hmask
    obtain ⟨m, rfl⟩ := Mask.exists_text_of_spelled ht
    rw [parse_text_eq_error_iff, special_flag_iff]
    constructor
    · rintro (⟨entry, hentry, rfl⟩ | ⟨hflag, hnil, rfl⟩)
      · exact .notCharacter ⟨_, rfl, ht⟩ hentry
      · exact .emptyAlphabet rfl ht hflag hnil
    · intro h
      cases h with
      | malformed h => exact absurd ⟨_, rfl, ht⟩ h
      | notCharacter _ hentry => exact .inl ⟨_, hentry, rfl⟩
      | emptyAlphabet htext _ hflag hnil =>
        obtain rfl := Json.str.inj htext
        exact .inr ⟨hflag, hnil, rfl⟩
  · rw [parse_of_not_spelledBy hmask]
    constructor
    · intro he
      obtain rfl := Except.error.inj he
      exact .malformed hmask
    · intro h
      cases h with
      | malformed => rfl
      | notCharacter h => exact absurd h hmask
      | emptyAlphabet ht h => exact absurd ⟨_, ht, h⟩ hmask

/-- Only texts of masks are parsed, with entries that are characters. -/
theorem exists_text_of_parse {p : UsablePolicy} (h : parse mask entries = .ok p) :
    ∃ m : Mask, mask = .str m.text ∧ entries = Alphabet.entriesOf p.alphabet ∧
      p.toPolicy = m.policy p.alphabet := by
  by_cases hmask : Mask.SpelledBy mask
  · obtain ⟨t, rfl, ht⟩ := hmask
    obtain ⟨m, rfl⟩ := Mask.exists_text_of_spelled ht
    obtain ⟨alphabet, halphabet, hp⟩ := exists_alphabet_of_parse h
    have hsame : p.alphabet = alphabet := congrArg Policy.alphabet hp
    have hentries := Alphabet.normalize_eq_ok_iff.mp halphabet
    exact ⟨m, rfl, by rw [hsame, hentries], by rw [hsame, hp]⟩
  · rw [parse_of_not_spelledBy hmask] at h
    cases h

/-- A policy comes out exactly when there is no reason against it. -/
theorem exists_parse_iff :
    (∃ p, parse mask entries = .ok p) ↔ ∃ t, mask = .str t ∧ Mask.Spelled t ∧
      (∀ x ∈ entries, ∃ c, x = .str [c]) ∧ (Mask.digitAt t 8 = 1 → entries ≠ []) := by
  constructor
  · rintro ⟨p, hp⟩
    obtain ⟨m, rfl, hentries, -⟩ := exists_text_of_parse hp
    refine ⟨m.text, rfl, m.spelled_text, ?_, ?_⟩
    · intro x hx
      rw [hentries] at hx
      obtain ⟨c, -, rfl⟩ := List.mem_map.mp hx
      exact ⟨c, rfl⟩
    · intro hflag hnil
      have hempty : parse (.str m.text) entries = .error .emptyAlphabet :=
        parse_eq_error_iff.mpr (.emptyAlphabet rfl m.spelled_text hflag hnil)
      exact nomatch hp.symm.trans hempty
  · rintro ⟨t, rfl, ht, hcharacters, hne⟩
    cases hp : parse (.str t) entries with
    | ok p => exact ⟨p, rfl⟩
    | error e =>
      exfalso
      cases parse_eq_error_iff.mp hp with
      | malformed h => exact h ⟨t, rfl, ht⟩
      | notCharacter _ hentry =>
        obtain ⟨before, after, rfl, -, hother⟩ := hentry
        exact hother (hcharacters _ (List.mem_append_right before List.mem_cons_self))
      | emptyAlphabet htext _ hflag hnil =>
        obtain rfl := Json.str.inj htext
        exact hne hflag hnil

/-- Each number of a policy that comes out stands at its own position of the text, the entries are
the characters of its alphabet, and the digits make its record. -/
theorem digits_of_parse {p : UsablePolicy} (h : parse mask entries = .ok p) :
    ∃ t, mask = .str t ∧
      (∀ c, ((p.rule c).allowed = true ↔ Mask.digitAt t (Mask.place c) = 1) ∧
        (p.rule c).index.val = Mask.digitAt t (Mask.place c + 1)) ∧
      p.minLength = max 1 (Mask.digitAt t 10) ∧
      entries = p.alphabet.map (fun c => .str [c]) ∧
      codec.decode (.obj (Mask.members t entries)) = .ok p.withTexts := by
  obtain ⟨m, rfl, hentries, hp⟩ := exists_text_of_parse h
  refine ⟨m.text, rfl, fun c => ⟨?_, ?_⟩, ?_, hentries, ?_⟩
  · rw [hp, m.allowed_policy, decide_eq_true_iff]
  · rw [hp, m.index_policy]
  · rw [hp]
    exact m.minLength_eq
  · rw [hentries, hp]
    exact m.decode_members p.alphabet

/-- The kind and the context of the fault for which a value is refused, if parsing comes to an end.
-/
def refusal? (mask alphabet : Json) : Option (FaultKind × Option (List (Text × Json))) :=
  match parse? mask alphabet with
  | .ok parsed => failure? MaskError.fault parsed
  | .error _ => none

/-- What is shown is of the error with which parsing fails. -/
theorem refusal?_eq_some_iff {kind : FaultKind} {context : Option (List (Text × Json))} :
    refusal? mask alphabet = some (kind, context) ↔
      ∃ e, parse? mask alphabet = .ok (.error e) ∧ e.fault.kind = kind ∧
        e.fault.context = context := by
  rw [refusal?]
  cases parse? mask alphabet with
  | ok parsed => simp [failure?_eq_some_iff]
  | error b => simp

/-- A value is refused for itself exactly when it is no text of a mask, if it can be written. -/
theorem fails_malformedMask_iff {context : Option (List (Text × Json))} :
    refusal? mask alphabet = some (.malformedMask, context) ↔
      ¬Mask.SpelledBy mask ∧ mask.writable = true ∧
        context = some [("mask".toList, .str mask.plain)] := by
  rw [refusal?_eq_some_iff]
  constructor
  · rintro ⟨e, he, hkind, rfl⟩
    by_cases hmask : Mask.SpelledBy mask
    · cases halphabet : alphabet.elements? with
      | none =>
        rw [parse?_of_spelledBy hmask, halphabet] at he
        cases he
      | some entries =>
        cases parse_eq_error_iff.mp ((parse?_eq_ok_iff halphabet).mp he).2 with
        | malformed h => exact absurd hmask h
        | notCharacter => cases hkind
        | emptyAlphabet => cases hkind
    · rw [parse?_of_not_spelledBy hmask] at he
      split at he
      · next hw =>
        obtain rfl := Except.error.inj (Except.ok.inj he)
        exact ⟨hmask, hw, rfl⟩
      · cases he
  · rintro ⟨h, hw, rfl⟩
    exact ⟨_, (parse?_of_not_spelledBy h).trans (if_pos hw), rfl, rfl⟩

/-- Parsing breaks off for one of two reasons. -/
theorem parse?_eq_error_iff {b : Breakdown} : parse? mask alphabet = .error b ↔
    b = .tooManyDigits ∧ ¬Mask.SpelledBy mask ∧ mask.writable = false ∨
      b = .noElements ∧ Mask.SpelledBy mask ∧ alphabet.elements? = none := by
  by_cases hmask : Mask.SpelledBy mask
  · rw [parse?_of_spelledBy hmask]
    cases alphabet.elements? <;> simp [hmask, eq_comm (a := b)]
  · rw [parse?_of_not_spelledBy hmask]
    cases mask.writable <;> simp [hmask, eq_comm (a := b)]

/-- An alphabet is refused with an entry exactly when that is the first one that is no character. -/
theorem fails_entry_iff (halphabet : alphabet.elements? = some entries)
    {context : List (Text × Json)} :
    refusal? mask alphabet =
        some (.invalidSpecialAlphabet, some context) ↔
      Mask.SpelledBy mask ∧ ∃ entry, Alphabet.FirstOther entries entry ∧
        context = [("entry".toList, entry)] := by
  simp only [refusal?_eq_some_iff, parse?_eq_ok_iff halphabet, parse_eq_error_iff]
  constructor
  · rintro ⟨e, ⟨-, he⟩, hkind, hcontext⟩
    cases he with
    | malformed => cases hkind
    | notCharacter h hentry => exact ⟨h, _, hentry, (Option.some.inj hcontext).symm⟩
    | emptyAlphabet => cases hcontext
  · rintro ⟨h, entry, hentry, rfl⟩
    exact ⟨_, ⟨Mask.writable_of_spelledBy h, .notCharacter h hentry⟩, rfl, rfl⟩

/-- An alphabet is refused without an entry exactly when it has none and the mask asks for some. -/
theorem fails_emptyAlphabet_iff (halphabet : alphabet.elements? = some entries) :
    refusal? mask alphabet = some (.invalidSpecialAlphabet, none) ↔
      ∃ t, mask = .str t ∧ Mask.Spelled t ∧ Mask.digitAt t 8 = 1 ∧ entries = [] := by
  simp only [refusal?_eq_some_iff, parse?_eq_ok_iff halphabet, parse_eq_error_iff]
  constructor
  · rintro ⟨e, ⟨-, he⟩, hkind, hcontext⟩
    cases he with
    | malformed => cases hkind
    | notCharacter => cases hcontext
    | emptyAlphabet ht h hflag hnil => exact ⟨_, ht, h, hflag, hnil⟩
  · rintro ⟨t, rfl, h, hflag, hnil⟩
    exact ⟨_, ⟨Json.writable_str t, .emptyAlphabet rfl h hflag hnil⟩, rfl, rfl⟩

end Policy

/-- Any value and any alphabet are either parsed or refused for one of three reasons, the first that
holds. The value is no text of eleven ASCII digits; then the alphabet is not looked at, and need not
even have elements. An entry is not a text of one character, and the first such entry is named.
There are no entries, and the digit about special characters is one. A policy that comes out has for
each class the flag and the index that stand at its two positions, the minimum length that the last
digit says and the entries for its alphabet, and making its record from these numbers succeeds. What
breaks off is the parsing of a value that is no such text and cannot be written either, and that of
a text with what has no elements for an alphabet. -/
theorem parse_classified (mask alphabet : Json) :
    (∀ context,
      Policy.refusal? mask alphabet = some (.malformedMask, context) ↔
        ¬Mask.SpelledBy mask ∧ mask.writable = true ∧
          context = some [("mask".toList, .str mask.plain)]) ∧
    (∀ b, Policy.parse? mask alphabet = .error b ↔
      b = .tooManyDigits ∧ ¬Mask.SpelledBy mask ∧ mask.writable = false ∨
        b = .noElements ∧ Mask.SpelledBy mask ∧ alphabet.elements? = none) ∧
    ∀ entries, alphabet.elements? = some entries →
      (∀ context,
        Policy.refusal? mask alphabet =
            some (.invalidSpecialAlphabet, some context) ↔
          Mask.SpelledBy mask ∧ ∃ entry, Alphabet.FirstOther entries entry ∧
            context = [("entry".toList, entry)]) ∧
      (Policy.refusal? mask alphabet =
          some (.invalidSpecialAlphabet, none) ↔
        ∃ t, mask = .str t ∧ Mask.Spelled t ∧ Mask.digitAt t 8 = 1 ∧ entries = []) ∧
      ((∃ p, Policy.parse? mask alphabet = .ok (.ok p)) ↔ ∃ t, mask = .str t ∧ Mask.Spelled t ∧
        (∀ x ∈ entries, ∃ c, x = .str [c]) ∧ (Mask.digitAt t 8 = 1 → entries ≠ [])) ∧
      ∀ p, Policy.parse? mask alphabet = .ok (.ok p) → ∃ t, mask = .str t ∧
        (∀ c, ((p.rule c).allowed = true ↔ Mask.digitAt t (Mask.place c) = 1) ∧
          (p.rule c).index.val = Mask.digitAt t (Mask.place c + 1)) ∧
        p.minLength = max 1 (Mask.digitAt t 10) ∧
        entries = p.alphabet.map (fun c => .str [c]) ∧
        Policy.codec.decode (.obj (Mask.members t entries)) = .ok p.withTexts := by
  refine ⟨fun _ => Policy.fails_malformedMask_iff, fun _ => Policy.parse?_eq_error_iff,
    fun entries halphabet => ⟨fun _ => Policy.fails_entry_iff halphabet,
      Policy.fails_emptyAlphabet_iff halphabet, ?_, fun p hp => ?_⟩⟩
  · simp only [Policy.parse?_eq_ok_iff halphabet, exists_and_left, Policy.exists_parse_iff]
    refine and_iff_right_of_imp ?_
    rintro ⟨t, rfl, -⟩
    exact Json.writable_str t
  · exact Policy.digits_of_parse ((Policy.parse?_eq_ok_iff halphabet).mp hp).2

/-- The second of three entries is refused although the mask allows no special characters. -/
theorem parse_classified_entry :
    Policy.refusal? (.str "11000000005".toList) (.arr [.str ['!'], .str ['a', 'b'], .null]) =
      some (.invalidSpecialAlphabet, some [("entry".toList, .str ['a', 'b'])]) :=
  have hmask : Mask.SpelledBy (.str "11000000005".toList) := ⟨_, rfl, rfl, rfl⟩
  have hother : Alphabet.FirstOther [.str ['!'], .str ['a', 'b'], .null] (.str ['a', 'b']) :=
    ⟨[.str ['!']], [.null], rfl, fun _ hx => ⟨'!', List.mem_singleton.mp hx⟩, nofun⟩
  (((parse_classified _ _).2.2 _ rfl).1 _).mpr ⟨hmask, _, hother, rfl⟩

/-- An integer of 4301 digits is no text of a mask, and is not refused either; and a mask is not
parsed without an alphabet, though it allows no special characters. -/
theorem parse_breaks_off :
    ¬Mask.SpelledBy (.int (10 ^ 4300)) ∧
    Policy.parse? (.int (10 ^ 4300)) (.str defaultAlphabet) = .error .tooManyDigits ∧
    Mask.SpelledBy (.str "10000000001".toList) ∧
    Policy.parse? (.str "10000000001".toList) .null = .error .noElements := by
  have hmask : ¬Mask.SpelledBy (.int (10 ^ 4300)) := by
    rintro ⟨t, ⟨⟩, -⟩
  have hlong : (Json.int (10 ^ 4300)).writable = false := by decide +kernel
  exact ⟨hmask, Policy.parse?_eq_error_iff.mpr (.inl ⟨rfl, hmask, hlong⟩), ⟨_, rfl, rfl, rfl⟩, rfl⟩

end MaskPolicy
