import MaskPolicy.Policy.Description
import MaskPolicy.Proofs.Mask.Parsing
import MaskPolicy.Proofs.Password.Observation

/-!
# Canonical masks

Many masks denote the same policy: a flag other than one means what zero means, and a last digit of
zero means what one means. The canonical form settles these digits and leaves the others, the
indexes of classes that are not allowed among them. It is the text that encoding the policy gives
back, so a mask and its canonical form cannot be told apart by any use of them, and two masks in
canonical form never denote the same policy.
-/

namespace MaskPolicy

namespace Mask

/-- The positions of the flags in a mask. -/
def flagPositions : List Nat := [0, 2, 4, 6, 8]

/-- The canonical character for a character at a position of a mask. -/
def canonicalChar (i : Nat) (c : Char) : Char :=
  if i ∈ flagPositions then if c = '1' then '1' else '0'
  else if i = 10 ∧ c = '0' then '1' else c

/-- The canonical form of the text of a mask. -/
def canonicalText (t : Text) : Text := t.mapIdx canonicalChar

private theorem ne_ten_of_mem_flagPositions {i : Nat} (hi : i ∈ flagPositions) : i ≠ 10 := by
  rintro rfl
  exact absurd hi (by decide)

/-- Only flags other than zero and one, and a last zero, are changed. -/
theorem canonicalChar_eq_self_iff {i : Nat} {c : Char} :
    canonicalChar i c = c ↔ (i ∈ flagPositions → c = '0' ∨ c = '1') ∧ ¬(i = 10 ∧ c = '0') := by
  unfold canonicalChar
  by_cases hi : i ∈ flagPositions
  · have h10 := ne_ten_of_mem_flagPositions hi
    by_cases hc : c = '1'
    · simp [hi, h10, hc]
    · simp [hi, h10, hc, eq_comm]
  · by_cases h : i = 10 ∧ c = '0'
    · simp [h.1, h.2, flagPositions]
    · simp [hi, h]

/-- A canonical character is changed no more. -/
theorem canonicalChar_canonicalChar (i : Nat) (c : Char) :
    canonicalChar i (canonicalChar i c) = canonicalChar i c := by
  rw [canonicalChar_eq_self_iff]
  unfold canonicalChar
  by_cases hi : i ∈ flagPositions
  · have h10 := ne_ten_of_mem_flagPositions hi
    by_cases hc : c = '1' <;> simp [hi, h10, hc]
  · by_cases h : i = 10 ∧ c = '0'
    · simp [h.1, h.2, flagPositions]
    · simp [hi, h]

/-- The canonical form of a canonical form is itself. -/
theorem canonicalText_idem (t : Text) : canonicalText (canonicalText t) = canonicalText t := by
  unfold canonicalText
  rw [List.mapIdx_mapIdx]
  congr
  funext i c
  exact canonicalChar_canonicalChar i c

/-- A text of eleven characters is in canonical form when its flags are zeros and ones and its last
character is not zero. -/
theorem canonicalText_eq_self_iff {t : Text} (ht : t.length = 11) :
    canonicalText t = t ↔
      (∀ i ∈ flagPositions, t[i]? = some '0' ∨ t[i]? = some '1') ∧ t[10]? ≠ some '0' := by
  have hpointwise : canonicalText t = t ↔
      ∀ i (hi : i < t.length), canonicalChar i t[i] = t[i] := by
    simp only [canonicalText, List.ext_getElem_iff, List.length_mapIdx, List.getElem_mapIdx,
      true_and]
    exact ⟨fun h i hi => h i hi hi, fun h i hi _ => h i hi⟩
  have hflag : ∀ i ∈ flagPositions, i < t.length := by
    rw [ht]
    decide
  rw [hpointwise]
  simp only [canonicalChar_eq_self_iff]
  constructor
  · intro h
    constructor
    · intro i hi
      rw [List.getElem?_eq_getElem (hflag i hi)]
      simpa using (h i (hflag i hi)).1 hi
    · rw [List.getElem?_eq_getElem (by omega)]
      simpa using (h 10 (by omega)).2
  · rintro ⟨hflags, hlast⟩ i hi
    constructor
    · intro hf
      simpa [List.getElem?_eq_getElem hi] using hflags i hf
    · rintro ⟨rfl, hc⟩
      exact hlast (by rw [List.getElem?_eq_getElem hi, hc])

/-- The canonical form of a mask is the text of the policy that it denotes. -/
theorem canonicalText_text {σ : Type} (m : Mask) (alphabet : List σ) :
    canonicalText m.text = (m.policy alphabet).encode := by
  have hflag : ∀ i ∈ flagPositions, ∀ d : Fin 10,
      canonicalChar i (digitChar d) = digitChar (if d = 1 then 1 else 0) := by decide
  have hindex : ∀ i ∈ [1, 3, 5, 7, 9], ∀ d : Fin 10,
      canonicalChar i (digitChar d) = digitChar d := by decide
  have hlast : ∀ d : Fin 10, canonicalChar 10 (digitChar d) =
      digitChar ⟨max 1 d.val, by omega⟩ := by decide
  have hchars : canonicalText m.text =
      [canonicalChar 0 (digitChar m.uppercase.flag), canonicalChar 1 (digitChar m.uppercase.index),
        canonicalChar 2 (digitChar m.lowercase.flag), canonicalChar 3 (digitChar m.lowercase.index),
        canonicalChar 4 (digitChar m.digitsLow.flag), canonicalChar 5 (digitChar m.digitsLow.index),
        canonicalChar 6 (digitChar m.digitsHigh.flag),
        canonicalChar 7 (digitChar m.digitsHigh.index), canonicalChar 8 (digitChar m.special.flag),
        canonicalChar 9 (digitChar m.special.index), canonicalChar 10 (digitChar m.length)] := by
    simp [canonicalText, text, digits]
  rw [hchars, Policy.encode_eq_text]
  simp only [hflag 0 (by decide), hflag 2 (by decide), hflag 4 (by decide), hflag 6 (by decide),
    hflag 8 (by decide), hindex 1 (by decide), hindex 3 (by decide), hindex 5 (by decide),
    hindex 7 (by decide), hindex 9 (by decide), hlast]
  simp [text, digits, Policy.mask, policy, Rule.pair, MaskPair.rule, minLength]

end Mask

open Mask

/-- A mask and its canonical form are parsed to the same. -/
theorem Policy.parse_canonicalText (m : Mask) (entries : List Json) :
    parse (.str (canonicalText m.text)) entries = parse (.str m.text) entries := by
  rw [canonicalText_text m ([] : Text), encode_eq_text, parse_text, parse_text]
  refine congrArg (Except.bind (Alphabet.normalize entries)) (funext fun alphabet => ?_)
  exact usablePolicy_congr (m.policy alphabet).policy_mask

/-- Encoding what a mask is parsed to gives its canonical form. -/
theorem Policy.encode_of_parse {m : Mask} {entries : List Json} {p : UsablePolicy}
    (h : parse (.str m.text) entries = .ok p) : p.encode = canonicalText m.text := by
  obtain ⟨alphabet, -, hp⟩ := exists_alphabet_of_parse h
  rw [hp, canonicalText_text m alphabet]

/-- A text of eleven digits and its canonical form are interchangeable: both are parsed to the same
policy, whose text is the canonical form, or are refused for the same fault of the alphabet, and no
check, description or generation tells them apart. The canonical form of a text is in canonical
form, and texts in canonical form that are parsed to the same policy are the same. -/
theorem canonicalText_interchangeable {t : Text} (ht : Spelled t) :
    (∀ entries : List Json,
      Policy.parse (.str (canonicalText t)) entries = Policy.parse (.str t) entries ∧
      (∀ e, Policy.parse (.str t) entries = .error e → e.kind = .invalidSpecialAlphabet) ∧
      (∀ p, Policy.parse (.str t) entries = .ok p → p.encode = canonicalText t) ∧
      (∀ password, validate password (.str (canonicalText t)) entries =
        validate password (.str t) entries) ∧
      describe (.str (canonicalText t)) entries = describe (.str t) entries ∧
      ∀ (σ : Type) (source : Source σ) (requested : Option Int) (state : σ),
        observed (generate source (.str (canonicalText t)) entries requested state) =
          observed (generate source (.str t) entries requested state)) ∧
    canonicalText (canonicalText t) = canonicalText t ∧
    (canonicalText t = t ↔
      (∀ i ∈ flagPositions, t[i]? = some '0' ∨ t[i]? = some '1') ∧ t[10]? ≠ some '0') ∧
    ∀ t', Spelled t' → canonicalText t = t → canonicalText t' = t' → t ≠ t' →
      ∀ entries entries' p p', Policy.parse (.str t) entries = .ok p →
        Policy.parse (.str t') entries' = .ok p' → p.toPolicy ≠ p'.toPolicy := by
  obtain ⟨m, rfl⟩ := exists_text_of_spelled ht
  refine ⟨fun entries => ?_, canonicalText_idem _, canonicalText_eq_self_iff rfl, ?_⟩
  · have hparse := Policy.parse_canonicalText m entries
    refine ⟨hparse, fun e => Policy.kind_of_parse_text, fun p => Policy.encode_of_parse, ?_, ?_, ?_⟩
    · intro password
      rw [validate, validate, hparse]
    · rw [describe, describe, hparse]
    · intro σ source requested state
      exact generate_observed_of_parse_eq hparse source requested state
  · intro t' ht' hcanonical hcanonical' hne entries entries' p p' hp hp' he
    obtain ⟨m', rfl⟩ := exists_text_of_spelled ht'
    have hencode : p.encode = m.text := (Policy.encode_of_parse hp).trans hcanonical
    have hencode' : p'.encode = m'.text := (Policy.encode_of_parse hp').trans hcanonical'
    exact hne (by rw [← hencode, ← hencode', he])

/-- Flags above one allow nothing, as zeros do, and the generator gives up on both masks alike. -/
theorem canonicalText_interchangeable_flags :
    Spelled "21212121210".toList ∧
    canonicalText "21212121210".toList = "01010101011".toList ∧
    observed (generate Source.ofList (.str (canonicalText "21212121210".toList)) [] none []) =
      observed (generate Source.ofList (.str "21212121210".toList) [] none []) :=
  have h : Spelled "21212121210".toList := ⟨rfl, rfl⟩
  have hgenerate := ((canonicalText_interchangeable h).1 []).2.2.2.2.2
  ⟨h, by decide, hgenerate _ Source.ofList none []⟩

end MaskPolicy
