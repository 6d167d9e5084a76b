import MaskPolicy.Proofs.Json.RoundTrip

/-!
# Compact JSON on one line

The compact form of a value has no control characters: the printer escapes those of strings and puts
no break between items. So it stands on one line. Numbers with a fraction or an exponent are left
out.
-/

namespace MaskPolicy.Json

/-- A text without control characters. -/
def Inline (t : Text) : Prop := ∀ c ∈ t, 0x20 ≤ c.toNat

instance (t : Text) : Decidable (Inline t) :=
  List.decidableBAll (fun c : Char => 0x20 ≤ c.toNat) t

theorem Inline.not_mem {t : Text} (h : Inline t) : '\n' ∉ t ∧ '\r' ∉ t :=
  ⟨fun hc => absurd (h _ hc) (by decide), fun hc => absurd (h _ hc) (by decide)⟩

@[simp] theorem inline_append {s t : Text} : Inline (s ++ t) ↔ Inline s ∧ Inline t :=
  List.forall_mem_append

@[simp] theorem inline_cons {c : Char} {t : Text} : Inline (c :: t) ↔ 0x20 ≤ c.toNat ∧ Inline t :=
  List.forall_mem_cons

@[simp] theorem inline_nil : Inline [] := List.forall_mem_nil _

private theorem inline_ofInt (n : Int) : Inline (Decimal.ofInt n) := by
  have hdigits : ∀ m, Inline (Decimal.ofNat m) := by
    intro m c hc
    have hdigit := Nat.isDigit_of_mem_toDigits (by decide) (by decide) hc
    rw [Char.isDigit_iff_toNat] at hdigit
    exact Nat.le_trans (by decide) hdigit.1
  cases n with
  | ofNat m => exact hdigits m
  | negSucc m => exact inline_cons.mpr ⟨by decide, hdigits (m + 1)⟩

private theorem inline_escapeControl : ∀ n < 32,
    Inline ("\\u".toList ++ Text.padStart 4 '0' (Nat.toDigits 16 n)) := by
  decide

private theorem inline_escapeChar (c : Char) : Inline (escapeChar c) := by
  unfold escapeChar
  -- Seven characters have an escape of one letter.
  iterate 7
    split
    · decide
  split
  · next h => exact inline_escapeControl c.toNat h
  · next h => exact inline_cons.mpr ⟨Nat.not_lt.mp h, inline_nil⟩

/-- A written string has no control characters. -/
theorem inline_string (t : Text) : Inline (string t) := by
  have hbody : Inline (t.flatMap escapeChar) := by
    intro x hx
    obtain ⟨c, -, hc⟩ := List.mem_flatMap.mp hx
    exact inline_escapeChar c x hc
  exact inline_append.mpr
    ⟨inline_cons.mpr ⟨by decide, hbody⟩, inline_cons.mpr ⟨by decide, inline_nil⟩⟩

/-- The spacing of the compact form. -/
def Spacing.compact : Spacing := ⟨none⟩

@[simp] theorem newline_compact (depth : Nat) : Spacing.compact.newline depth = [] := rfl

@[simp] theorem colon_compact : Spacing.compact.colon = [':'] := rfl

/-- Items in compact form have no control characters if none of them has. -/
theorem inline_writeItems {items : List Json} {depth : Nat}
    (h : ∀ v ∈ items, Inline (write .compact depth v)) :
    Inline (writeItems .compact depth items) := by
  induction items with
  | nil => exact inline_nil
  | cons item items ih =>
    have hitem := h item List.mem_cons_self
    have hitems := ih fun v hv => h v (List.mem_cons_of_mem _ hv)
    simp [writeItems, hitem, hitems]

/-- Members in compact form have no control characters if none of their values has. -/
theorem inline_writeMembers {members : List (Text × Json)} {depth : Nat}
    (h : ∀ m ∈ members, Inline (write .compact depth m.2)) :
    Inline (writeMembers .compact depth members) := by
  induction members with
  | nil => exact inline_nil
  | cons member members ih =>
    have hvalue := h member List.mem_cons_self
    have hmembers := ih fun m hm => h m (List.mem_cons_of_mem _ hm)
    simp [writeMembers, inline_string, hvalue, hmembers]

/-- The compact form of an exact value has no control characters. -/
theorem Exact.inline_write {v : Json} (h : v.Exact) (depth : Nat) :
    Inline (write .compact depth v) := by
  induction h generalizing depth with
  | null =>
    show Inline "null".toList
    decide
  | bool b =>
    cases b with
    | true =>
      show Inline "true".toList
      decide
    | false =>
      show Inline "false".toList
      decide
  | int n => exact inline_ofInt n
  | str t => exact inline_string t
  | @arr items _ ih =>
    cases items with
    | nil =>
      show Inline "[]".toList
      decide
    | cons item items =>
      have hitem := ih item List.mem_cons_self (depth + 1)
      have hitems : Inline (writeItems .compact (depth + 1) items) :=
        inline_writeItems fun v hv => ih v (List.mem_cons_of_mem _ hv) (depth + 1)
      simp [write, hitem, hitems]
  | @obj members _ ih =>
    cases members with
    | nil =>
      show Inline "\x7b\x7d".toList
      decide
    | cons member members =>
      have hvalue := ih member List.mem_cons_self (depth + 1)
      have hmembers : Inline (writeMembers .compact (depth + 1) members) :=
        inline_writeMembers fun m hm => ih m (List.mem_cons_of_mem _ hm) (depth + 1)
      simp [write, inline_string, hvalue, hmembers]

/-- The compact form of an exact value stands on one line. -/
theorem Exact.not_mem_render {v : Json} (h : v.Exact) :
    '\n' ∉ v.render none ∧ '\r' ∉ v.render none :=
  (h.inline_write 0).not_mem

end MaskPolicy.Json
