import MaskPolicy.Number.AnyScript

/-!
# Decimal notation on the command line

Decimal notation is one of the many ways in which the command line spells an integer: it has no
blanks and no underscores, and its digits are those of one script. Every integer is read back from
its notation unless that has more digits than are read.
-/

namespace MaskPolicy

namespace Text

private theorem trim_eq_self {p : Char → Bool} {t : Text} (h : ∀ c ∈ t, p c = false) :
    trim p t = t := by
  have hstart : ∀ s : Text, (∀ c ∈ s, p c = false) → s.dropWhile p = s := by
    intro s hs
    cases s with
    | nil => rfl
    | cons c cs => exact List.dropWhile_cons_of_neg (by simp [hs c List.mem_cons_self])
  have hend : ∀ c ∈ t.reverse, p c = false := fun c hc => h c (List.mem_reverse.mp hc)
  rw [trim, hstart t h, trimEnd, hstart _ hend, List.reverse_reverse]

private theorem splitOn_of_not_mem {sep : Char} {t : Text} (h : sep ∉ t) : splitOn sep t = [t] := by
  induction t with
  | nil => rfl
  | cons c cs ih =>
    obtain ⟨hne, hcs⟩ := not_or.mp (mt List.mem_cons.mpr h)
    rw [splitOn, if_neg (Ne.symm hne), ih hcs]

private theorem digitValue?_of_isDigit {c : Char} (h : c.isDigit = true) :
    digitValue? c = some (c.toNat - '0'.toNat) := by
  have hzero : zeroDigits.find? (fun z => decide (z ≤ c.toNat ∧ c.toNat < z + 10)) = some 48 := by
    simp only [Char.isDigit, Bool.and_eq_true, decide_eq_true_eq, UInt32.le_iff_toNat_le] at h
    exact List.find?_cons_of_pos (decide_eq_true ⟨h.1, Nat.lt_succ_of_le h.2⟩)
  rw [digitValue?, hzero]
  rfl

private theorem isBlank_of_isDigit {c : Char} (h : c.isDigit = true) : isBlank c = false :=
  of_toNat_lt (fun c => c.isDigit = true → isBlank c = false) (by decide) (toNat_lt_of_isDigit h) h

end Text

namespace Decimal

private theorem isDigit_of_mem_ofNat {n : Nat} {c : Char} (h : c ∈ ofNat n) : c.isDigit = true :=
  Nat.isDigit_of_mem_toDigits (by decide) (by decide) h

private theorem not_mem_ofNat {n : Nat} {c : Char} (h : c.isDigit = false) : c ∉ ofNat n := by
  intro hc
  rw [isDigit_of_mem_ofNat hc] at h
  cases h

private theorem mapM_digitValue? {t : Text} (h : ∀ c ∈ t, c.isDigit = true) :
    t.mapM Text.digitValue? = some (t.map fun c => c.toNat - '0'.toNat) := by
  induction t with
  | nil => rfl
  | cons c cs ih =>
    obtain ⟨hc, hcs⟩ := List.forall_mem_cons.mp h
    rw [List.mapM_cons, Text.digitValue?_of_isDigit hc, ih hcs]
    rfl

private theorem digitValues?_ofNat (n : Nat) :
    digitValues? (ofNat n) = some ((ofNat n).map fun c => c.toNat - '0'.toNat) := by
  have hpiece : Text.splitOn '_' (ofNat n) = [ofNat n] :=
    Text.splitOn_of_not_mem (not_mem_ofNat (by decide))
  have hne : (ofNat n).isEmpty = false := List.isEmpty_eq_false_iff.mpr Nat.toDigits_ne_nil
  rw [digitValues?, hpiece, List.mapM_cons, List.mapM_nil, hne,
    mapM_digitValue? fun _ => isDigit_of_mem_ofNat]
  simp

/-- A number is read back from its notation, if that is not too long. -/
theorem unsigned?_ofNat (n : Nat) :
    unsigned? (ofNat n) = if digitLimit < (ofNat n).length then none else some n := by
  have hvalue : ofDigits ((ofNat n).map fun c => c.toNat - '0'.toNat) = n := by
    rw [ofDigits, List.foldl_map]
    exact Nat.ofDigitChars_toDigits (by decide) (by decide)
  rw [unsigned?, digitValues?_ofNat]
  simp only [List.length_map, hvalue]

/-- An integer is read back from its notation, if that does not have too many digits. -/
theorem readAnyScript?_ofInt (n : Int) :
    readAnyScript? (ofInt n) = if digitLimit < (ofNat n.natAbs).length then none else some n := by
  have hblank : ∀ k, ∀ c ∈ ofNat k, Text.isBlank c = false :=
    fun _ _ hc => Text.isBlank_of_isDigit (isDigit_of_mem_ofNat hc)
  cases n with
  | ofNat k =>
    have hread : readAnyScript? (ofNat k) = (unsigned? (ofNat k)).map Int.ofNat := by
      rw [readAnyScript?, Text.trim_eq_self (hblank k)]
      split
      · next hk => exact absurd (hk ▸ List.mem_cons_self) (not_mem_ofNat (c := '-') (by decide))
      · next hk => exact absurd (hk ▸ List.mem_cons_self) (not_mem_ofNat (c := '+') (by decide))
      · rfl
    rw [ofInt, hread, unsigned?_ofNat, Int.natAbs_ofNat']
    split <;> rfl
  | negSucc k =>
    have htrim : Text.trim Text.isBlank ('-' :: ofNat (k + 1)) = '-' :: ofNat (k + 1) :=
      Text.trim_eq_self (List.forall_mem_cons.mpr ⟨by decide, hblank (k + 1)⟩)
    rw [ofInt, readAnyScript?, htrim, Int.natAbs_negSucc]
    simp only [unsigned?_ofNat]
    split <;> rfl

end Decimal

end MaskPolicy
