import MaskPolicy.Json.Printer
import MaskPolicy.Json.Reader

/-!
# Integers and strings read back from JSON

What the printer writes for an integer or a string is read back, whatever follows it. A string ends
with its own quote, so that anything may follow. An integer ends where the number cannot go on, and
what may follow it is a text that starts with no part of a number.
-/

namespace MaskPolicy

namespace Decimal

private theorem eq_zero_of_ofNat_eq_cons {n : Nat} {t : Text} (h : ofNat n = '0' :: t) : n = 0 := by
  induction n using Nat.strongRecOn generalizing t with
  | ind n ih =>
    by_cases hn : n < 10
    · rw [ofNat, Nat.toDigits_of_lt_base hn] at h
      have hchar : Nat.digitChar n = '0' := (List.cons.inj h).1
      clear ih h
      revert n
      decide
    · rw [ofNat, Nat.toDigits_of_base_le (by decide) (by omega)] at h
      obtain ⟨c, ds, hds, -⟩ := ofNat_head (n / 10)
      rw [ofNat] at hds
      rw [hds, List.cons_append] at h
      obtain rfl := (List.cons.inj h).1
      have := ih (n / 10) (by omega) hds
      omega

end Decimal

namespace Json

/-- Can a character go on a number? -/
def continuesNumber (c : Char) : Bool := c.isDigit || c = '.' || c = 'e' || c = 'E'

/-- The text does not go on a number that stands in front of it. -/
def EndsNumber (rest : Text) : Prop := ∀ c ∈ rest.head?, continuesNumber c = false

/-- A text that starts with no part of a number ends a number. -/
theorem endsNumber_cons {c : Char} (h : continuesNumber c = false) (rest : Text) :
    EndsNumber (c :: rest) := by
  rintro _ ⟨⟩
  exact h

/-- Blanks in front of a text that ends a number end it too. -/
theorem EndsNumber.append {blank rest : Text} (h : EndsNumber rest)
    (hblank : ∀ c ∈ blank, isSpace c = true) : EndsNumber (blank ++ rest) := by
  cases blank with
  | nil => exact h
  | cons c blank =>
    have hc := hblank c List.mem_cons_self
    simp only [isSpace, Bool.or_eq_true, decide_eq_true_eq] at hc
    apply endsNumber_cons
    rcases hc with ((rfl | rfl) | rfl) | rfl <;> rfl

private theorem EndsNumber.isDigit_head {rest : Text} (h : EndsNumber rest) :
    ∀ c ∈ rest.head?, c.isDigit = false := by
  intro c hc
  have hcont := h c hc
  simp only [continuesNumber, Bool.or_eq_false_iff] at hcont
  exact hcont.1.1.1

private theorem digits_append {ds rest : Text} (hds : ∀ c ∈ ds, c.isDigit = true)
    (hrest : ∀ c ∈ rest.head?, c.isDigit = false) : digits (ds ++ rest) = (ds, rest) := by
  have hstop : rest.takeWhile Char.isDigit = [] ∧ rest.dropWhile Char.isDigit = rest := by
    cases rest with
    | nil => exact ⟨rfl, rfl⟩
    | cons c rest => simp [hrest c rfl]
  rw [digits, List.takeWhile_append_of_pos hds, List.dropWhile_append_of_pos hds, hstop.1, hstop.2,
    List.append_nil]

private theorem readWhole_ofNat (n : Nat) {rest : Text} (h : EndsNumber rest) :
    readWhole (Decimal.ofNat n ++ rest) = (Decimal.ofNat n, rest) := by
  unfold readWhole
  split
  · next t ht =>
    obtain ⟨c, ds, hds, -⟩ := Decimal.ofNat_head n
    rw [hds, List.cons_append] at ht
    obtain ⟨rfl, rfl⟩ := List.cons.inj ht
    obtain rfl := Decimal.eq_zero_of_ofNat_eq_cons hds
    obtain rfl : [] = ds := (List.cons.inj hds).2
    rfl
  · exact digits_append
      (fun c hc => Nat.isDigit_of_mem_toDigits (by decide) (by decide) hc) h.isDigit_head

private theorem readFraction_of_endsNumber {rest : Text} (h : EndsNumber rest) :
    readFraction rest = some (none, rest) := by
  unfold readFraction
  split
  · exact nomatch h '.' rfl
  · rfl

private theorem readExponent_of_endsNumber {rest : Text} (h : EndsNumber rest) :
    readExponent rest = some (none, rest) := by
  cases rest with
  | nil => rfl
  | cons c rest =>
    have hc : ¬(c = 'e' ∨ c = 'E') := by
      rintro (rfl | rfl) <;> exact nomatch h _ rfl
    rw [readExponent.eq_def]
    simp only [hc, if_false]

private theorem exists_readSign_ofInt (n : Int) (rest : Text) : ∃ negative m,
    readSign (Decimal.ofInt n ++ rest) = (negative, Decimal.ofNat m ++ rest) ∧
      (if negative then -(m : Int) else m) = n := by
  cases n with
  | ofNat m =>
    obtain ⟨c, ds, hds, hc⟩ := Decimal.ofNat_head m
    refine ⟨false, m, ?_, rfl⟩
    rw [Decimal.ofInt, hds, List.cons_append, readSign]
    intro t ht
    obtain rfl := (List.cons.inj ht).1
    cases hc
  | negSucc m => exact ⟨true, m + 1, rfl, rfl⟩

/-- The notation of an integer is read back as a number. -/
theorem readNumber_ofInt (n : Int) {rest : Text} (h : EndsNumber rest) :
    readNumber (Decimal.ofInt n ++ rest) = some (.int n, rest) := by
  obtain ⟨negative, m, hsign, hn⟩ := exists_readSign_ofInt n rest
  have hne : (Decimal.ofNat m).isEmpty = false := by
    obtain ⟨c, ds, hds, -⟩ := Decimal.ofNat_head m
    rw [hds]
    rfl
  have hm : Nat.ofDigitChars 10 (Decimal.ofNat m) 0 = m := Nat.ofDigitChars_ten_toDigits
  simp only [readNumber, hsign, readWhole_ofNat m h, hne, readFraction_of_endsNumber h,
    readExponent_of_endsNumber h, bind, Option.bind_some, Bool.false_eq_true, if_false, hm, hn]
  rfl

/-- The notation of an integer starts with a minus sign or a digit. -/
theorem exists_ofInt_eq_cons (n : Int) :
    ∃ c t, Decimal.ofInt n = c :: t ∧ (c = '-' ∨ c.isDigit = true) := by
  cases n with
  | ofNat n =>
    obtain ⟨c, t, hct, hc⟩ := Decimal.ofNat_head n
    exact ⟨c, t, hct, .inr hc⟩
  | negSucc n => exact ⟨'-', _, rfl, .inl rfl⟩

/-- The notation of an integer is read back as a value. -/
theorem readValue_ofInt (n : Int) (fuel : Nat) {rest : Text} (h : EndsNumber rest) :
    readValue (fuel + 1) (Decimal.ofInt n ++ rest) = some (.int n, rest) := by
  rw [← readNumber_ofInt n h]
  obtain ⟨c, t, hct, hc⟩ := exists_ofInt_eq_cons n
  rw [hct, List.cons_append, readValue]
  -- No other kind of value starts like a number.
  all_goals
    intro after hafter
    obtain rfl := (List.cons.inj hafter).1
    revert hc
    decide

private theorem readString_unit {a b c d x : Char} {n : Nat} (hn : hexNumber? [a, b, c, d] = some n)
    (hx : unitChar? n = some x) (rest : Text) :
    readString ('\\' :: 'u' :: a :: b :: c :: d :: rest) =
      (readString rest).map (Prod.map (x :: ·) id) := by
  rw [readString.eq_def]
  split
  · simp_all
  · simp_all
  -- The two forms differ in what follows: another such escape, or anything else.
  · next h =>
    simp only [List.cons.injEq] at h
    obtain ⟨-, -, rfl, rfl, rfl, rfl, rfl⟩ := h
    rw [hn]
    simp only [hx]
    rfl
  · next h =>
    simp only [List.cons.injEq] at h
    obtain ⟨-, -, rfl, rfl, rfl, rfl, rfl⟩ := h
    rw [hn]
    simp only [bind, Option.bind_some, hx]
    cases readString rest <;> rfl
  · next hne h =>
    simp only [List.cons.injEq] at h
    exact absurd h.2.2.symm (hne _ _ _ _ _ h.2.1.symm)
  · next hne h =>
    simp only [List.cons.injEq] at h
    exact absurd h.2.symm (hne _ _ h.1.symm)

private theorem readString_letter {e x : Char} (he : e ≠ 'u') (hx : unescape? e = some x)
    (rest : Text) :
    readString ('\\' :: e :: rest) = (readString rest).map (Prod.map (x :: ·) id) := by
  rw [readString]
  · simp only [hx, bind, Option.bind_some]
    cases readString rest <;> rfl
  all_goals
    intros
    contradiction

private theorem readString_plain {c : Char} (hq : c ≠ '"') (hb : c ≠ '\\') (hc : ¬c.toNat < 0x20)
    (rest : Text) : readString (c :: rest) = (readString rest).map (Prod.map (c :: ·) id) := by
  rw [readString, if_neg hc]
  · rfl
  all_goals
    intros
    contradiction

private theorem exists_digits_of_control : ∀ n < 32, ∃ a b c d,
    Text.padStart 4 '0' (Nat.toDigits 16 n) = [a, b, c, d] ∧
      hexNumber? [a, b, c, d] = some n ∧ unitChar? n = some (Char.ofNat n) := by
  intro n hn
  refine ⟨'0', '0', Nat.digitChar (n / 16), Nat.digitChar (n % 16), ?_⟩
  revert n
  decide

/-- A written character is read back. -/
theorem readString_escapeChar (c : Char) (rest : Text) :
    readString (escapeChar c ++ rest) = (readString rest).map (Prod.map (c :: ·) id) := by
  unfold escapeChar
  -- Seven characters have an escape of one letter.
  iterate 7
    split
    · next h =>
      subst h
      exact readString_letter (by decide) rfl rest
  split
  · next h =>
    obtain ⟨a, b, d, e, hpad, hn, hx⟩ := exists_digits_of_control c.toNat h
    rw [Char.ofNat_toNat] at hx
    rw [hpad]
    exact readString_unit hn hx rest
  · next hq hb _ _ _ _ _ hc => exact readString_plain hq hb hc rest

/-- A written string is read back after its opening quote. -/
theorem readString_flatMap_escapeChar (t rest : Text) :
    readString (t.flatMap escapeChar ++ '"' :: rest) = some (t, rest) := by
  induction t with
  | nil => rfl
  | cons c t ih =>
    rw [List.flatMap_cons, List.append_assoc, readString_escapeChar, ih]
    rfl

end Json

end MaskPolicy
