import MaskPolicy.Policy.Record
import MaskPolicy.Proofs.Mask.Parsing

/-!
# Policies written and read back

The text of a policy holds everything about it but the alphabet. Read back with an alphabet of
single characters it gives the policy with that alphabet. A policy built by hand may have an
alphabet that no mask can be read with: symbols that are no characters, or no symbols although they
are allowed. Its text is then well formed all the same, and what is refused is the alphabet.
-/

namespace MaskPolicy

private theorem Text.exists_singletons {symbols : List Text} (h : ∀ s ∈ symbols, s.length = 1) :
    ∃ alphabet : Text, symbols = Text.singletons alphabet := by
  induction symbols with
  | nil => exact ⟨[], rfl⟩
  | cons s rest ih =>
    obtain ⟨c, rfl⟩ := List.length_eq_one_iff.mp (h s List.mem_cons_self)
    obtain ⟨cs, rfl⟩ := ih fun r hr => h r (List.mem_cons_of_mem _ hr)
    exact ⟨c :: cs, rfl⟩

private theorem Text.length_of_mem_singletons {t s : Text} (h : s ∈ Text.singletons t) :
    s.length = 1 := by
  obtain ⟨c, -, rfl⟩ := List.mem_map.mp h
  rfl

/-- Symbols are entries of an alphabet exactly when they are its characters. -/
theorem Alphabet.map_str_eq_entriesOf_iff {symbols : List Text} {alphabet : Text} :
    symbols.map .str = entriesOf alphabet ↔ symbols = Text.singletons alphabet := by
  have he : entriesOf alphabet = (Text.singletons alphabet).map .str := by
    rw [entriesOf, Text.singletons, List.map_map]
    rfl
  rw [he]
  exact List.map_inj_right fun s t h => Json.str.inj h

namespace Policy

/-- A policy whose alphabet a mask can be read with: every symbol is a character, and there are
symbols if they are allowed. -/
def Readable (c : Policy Text) : Prop :=
  (∀ s ∈ c.alphabet, s.length = 1) ∧ (c.alphabet ≠ [] ∨ c.special.allowed = false)

private theorem withTexts_policy_mask (c : Policy Text) (alphabet : Text) :
    (c.mask.policy alphabet).withTexts = { c with alphabet := Text.singletons alphabet } := by
  have h : { c.mask.policy c.alphabet with alphabet := Text.singletons alphabet } =
      { c with alphabet := Text.singletons alphabet } := by rw [c.policy_mask]
  exact h

private theorem special_policy_mask (c : Policy Text) (alphabet : Text) :
    (c.mask.policy alphabet).special = c.special := c.special.rule_pair

/-- The text of a policy is read with characters, if there are any or none are allowed. -/
theorem exists_parse_encode (c : Policy Text) {symbols : List Text}
    (hs : ∀ s ∈ symbols, s.length = 1) (hne : symbols ≠ [] ∨ c.special.allowed = false) :
    ∃ p, parse (.str c.encode) (symbols.map .str) = .ok p ∧
      p.withTexts = { c with alphabet := symbols } := by
  obtain ⟨alphabet, rfl⟩ := Text.exists_singletons hs
  have hu : (c.mask.policy alphabet).Usable := by
    intro hallowed
    rw [special_policy_mask] at hallowed
    rcases hne with hne | hforbidden
    · intro hnil
      exact hne (congrArg Text.singletons hnil)
    · exact absurd hallowed (by simp [hforbidden])
  refine ⟨⟨c.mask.policy alphabet, hu⟩, ?_, c.withTexts_policy_mask alphabet⟩
  rw [encode_eq_text, parse_text, Alphabet.map_str_eq_entriesOf_iff.mpr rfl,
    Alphabet.normalize_entriesOf]
  exact dif_pos hu

/-- Only a readable policy comes out when its text is read with its own alphabet. -/
theorem readable_of_parse_encode {c : Policy Text} {p : UsablePolicy}
    (h : parse (.str c.encode) (c.alphabet.map .str) = .ok p) : c.Readable := by
  rw [encode_eq_text] at h
  obtain ⟨alphabet, ha, hp⟩ := exists_alphabet_of_parse h
  have hsymbols := Alphabet.map_str_eq_entriesOf_iff.mp (Alphabet.normalize_eq_ok_iff.mp ha)
  constructor
  · intro s hs
    rw [hsymbols] at hs
    exact Text.length_of_mem_singletons hs
  · cases hallowed : c.special.allowed with
    | false => exact .inr rfl
    | true =>
      refine .inl fun hnil => ?_
      have hne : alphabet ≠ [] := by
        have hu := p.usable
        rw [hp] at hu
        exact hu (by rw [special_policy_mask, hallowed])
      rw [hnil] at hsymbols
      exact hne (List.map_eq_nil_iff.mp hsymbols.symm)

/-- The text of any policy is eleven digits and is never refused for itself. Read with some single
characters it gives the policy with these for its alphabet. Read with the alphabet of the policy it
gives the policy back if every symbol is a character and there are symbols or none are allowed, and
otherwise that alphabet is refused. -/
theorem parse_encode (c : Policy Text) :
    Mask.Spelled c.encode ∧
    (∀ entries e, parse (.str c.encode) entries = .error e → e.kind = .invalidSpecialAlphabet) ∧
    (∀ symbols : List Text, symbols ≠ [] → (∀ s ∈ symbols, s.length = 1) →
      ∃ p, parse (.str c.encode) (symbols.map .str) = .ok p ∧
        p.withTexts = { c with alphabet := symbols }) ∧
    (c.Readable →
      ∃ p, parse (.str c.encode) (c.alphabet.map .str) = .ok p ∧ p.withTexts = c) ∧
    (¬c.Readable →
      ∃ e, parse (.str c.encode) (c.alphabet.map .str) = .error e ∧
        e.kind = .invalidSpecialAlphabet) := by
  have hkind : ∀ entries e, parse (.str c.encode) entries = .error e →
      e.kind = .invalidSpecialAlphabet := by
    intro entries e h
    rw [encode_eq_text] at h
    exact kind_of_parse_text h
  refine ⟨?_, hkind, ?_, ?_, ?_⟩
  · rw [encode_eq_text]
    exact c.mask.spelled_text
  · intro symbols hne hs
    exact c.exists_parse_encode hs (.inl hne)
  · rintro ⟨hs, hne⟩
    exact c.exists_parse_encode hs hne
  · intro hr
    cases hp : parse (.str c.encode) (c.alphabet.map .str) with
    | error e => exact ⟨e, rfl, hkind _ e hp⟩
    | ok p => exact absurd (readable_of_parse_encode hp) hr

/-- A policy that asks for the ninth character of every class, with one symbol that is no character.
-/
def ofPairs : Policy Text where
  uppercase := ⟨true, Fin.last 9⟩
  lowercase := ⟨true, Fin.last 9⟩
  digitsLow := ⟨true, Fin.last 9⟩
  digitsHigh := ⟨true, Fin.last 9⟩
  special := ⟨true, Fin.last 9⟩
  minLength := 9
  alphabet := [['<', '>']]

/-- The text is well formed and the alphabet is refused. -/
theorem parse_encode_ofPairs :
    ¬ofPairs.Readable ∧
    ∃ e, parse (.str ofPairs.encode) (ofPairs.alphabet.map .str) = .error e ∧
      e.kind = .invalidSpecialAlphabet :=
  have h : ¬ofPairs.Readable := fun hr => absurd (hr.1 _ List.mem_cons_self) (by decide)
  ⟨h, (parse_encode ofPairs).2.2.2.2 h⟩

end Policy

end MaskPolicy
