import MaskPolicy.Number.Decimal
import MaskPolicy.Policy.CharClass

/-!
# Policies

A policy says for each class whether its characters may occur and which one of them must occur, and
how long a password must be. The required character is given by an index that counts from one and
wraps around the end of the class; zero requires none. The symbols of the special alphabet are
characters in a policy read from a mask, and may be any texts in a policy built by hand.
-/

namespace MaskPolicy

/-- Symbols an alphabet may be made of: every character is one, and each has a text. -/
class Symbol (σ : Type) where
  ofChar : Char → σ
  text : σ → Text

instance : Symbol Char := ⟨id, fun c => [c]⟩

instance : Symbol Text := ⟨fun c => [c], id⟩

/-- What a policy says about one class. -/
structure Rule where
  /-- May characters of the class occur? -/
  allowed : Bool := false
  /-- The cyclic index of the character that must occur, or zero. -/
  index : Fin 10 := 0
  deriving DecidableEq, Repr

/-- A password policy. -/
structure Policy (σ : Type) where
  uppercase : Rule
  lowercase : Rule
  digitsLow : Rule
  digitsHigh : Rule
  special : Rule
  /-- The least length of a password. -/
  minLength : Nat
  one_le_minLength : 1 ≤ minLength := by decide
  minLength_le_nine : minLength ≤ 9 := by decide
  /-- The symbols of the special class, in index order. -/
  alphabet : List σ
  deriving DecidableEq, Repr

/-- A cyclic selection that cannot be made. -/
inductive SelectionError where
  | negativeIndex (index : Int)
  | emptyCharset
  deriving DecidableEq, Repr

/-- The wording of a failed selection, if its index can be written. -/
def SelectionError.message? : SelectionError → Option Text
  | .negativeIndex i =>
    if Decimal.Writable i then
      some ("Cyclic index must not be negative, got ".toList ++ Decimal.ofInt i)
    else none
  | .emptyCharset => some "Cannot select a character from an empty charset".toList

/-- The entry that a cyclic index selects: none for zero, and the first again after the last. -/
def cyclic (charset : List α) (index : Int) : Except SelectionError (Option α) :=
  if index = 0 then .ok none
  else if index < 0 then .error (.negativeIndex index)
  else match charset[(index - 1).toNat % charset.length]? with
    | none => .error .emptyCharset
    | some x => .ok (some x)

/-- A selection from a charset that is not empty, by an index that is not negative, succeeds. -/
theorem cyclic_isOk {charset : List α} {index : Int} (hne : charset ≠ []) (hi : 0 ≤ index) :
    ∃ x, cyclic charset index = .ok x := by
  unfold cyclic
  by_cases h0 : index = 0
  · exact ⟨none, by rw [if_pos h0]⟩
  · have hlt : (index - 1).toNat % charset.length < charset.length :=
      Nat.mod_lt _ (List.length_pos_iff.mpr hne)
    refine ⟨some charset[(index - 1).toNat % charset.length], ?_⟩
    rw [if_neg h0, if_neg (by omega), List.getElem?_eq_getElem hlt]

namespace Policy

variable {σ : Type}

/-- The rule for a class. -/
def rule (p : Policy σ) : CharClass → Rule
  | .uppercase => p.uppercase
  | .lowercase => p.lowercase
  | .digitsLow => p.digitsLow
  | .digitsHigh => p.digitsHigh
  | .special => p.special

/-- The classes whose characters may occur, in mask order. -/
def allowedClasses (p : Policy σ) : List CharClass :=
  CharClass.all.filter fun c => (p.rule c).allowed

/-- The symbols of a class, in index order. -/
def charset [Symbol σ] (p : Policy σ) (c : CharClass) : List σ :=
  if c = .special then p.alphabet else c.letters.map Symbol.ofChar

/-- Every symbol that may occur: the charsets of the allowed classes one after another. -/
def allowed [Symbol σ] (p : Policy σ) : List σ :=
  p.allowedClasses.flatMap p.charset

/-- The symbol of a class that must occur, if its index asks for one. -/
def selected [Symbol σ] (p : Policy σ) (c : CharClass) : Except SelectionError (Option σ) :=
  cyclic (p.charset c) (p.rule c).index.val

/-- The selected symbols of some classes, in order. -/
def selections [Symbol σ] (p : Policy σ) : List CharClass → Except SelectionError (List σ)
  | [] => .ok []
  | c :: cs =>
    match p.selected c with
    | .error e => .error e
    | .ok x => (p.selections cs).map (x.toList ++ ·)

/-- The symbols that must occur, one for each allowed class with an index. -/
def required? [Symbol σ] (p : Policy σ) : Except SelectionError (List σ) :=
  p.selections p.allowedClasses

/-- A policy can be applied when the special class, if allowed, has characters. -/
def Usable (p : Policy σ) : Prop := p.special.allowed = true → p.alphabet ≠ []

instance (p : Policy σ) [DecidableEq σ] : Decidable p.Usable :=
  inferInstanceAs (Decidable (_ → _))

/-- The charset of an allowed class of a usable policy is not empty. -/
theorem Usable.charset_ne_nil [Symbol σ] {p : Policy σ} (h : p.Usable) {c : CharClass}
    (hc : (p.rule c).allowed = true) : p.charset c ≠ [] := by
  by_cases hs : c = .special
  · subst hs
    exact h hc
  · rw [charset, if_neg hs, Ne, List.map_eq_nil_iff, CharClass.letters_eq_nil_iff]
    exact hs

/-- A usable policy selects from every list of its allowed classes. -/
theorem Usable.selections_isOk [Symbol σ] {p : Policy σ} (h : p.Usable) :
    ∀ cs : List CharClass, (∀ c ∈ cs, (p.rule c).allowed = true) →
      ∃ xs, p.selections cs = .ok xs
  | [], _ => ⟨[], rfl⟩
  | c :: cs, hcs => by
    obtain ⟨x, hx⟩ := cyclic_isOk (h.charset_ne_nil (hcs c List.mem_cons_self))
      (Int.natCast_nonneg (p.rule c).index.val)
    obtain ⟨xs, hxs⟩ := h.selections_isOk cs fun d hd => hcs d (List.mem_cons_of_mem _ hd)
    refine ⟨x.toList ++ xs, ?_⟩
    rw [selections, selected, hx, hxs]
    rfl

/-- A usable policy has its required symbols. -/
theorem Usable.required?_isOk [Symbol σ] {p : Policy σ} (h : p.Usable) :
    ∃ xs, p.required? = .ok xs :=
  h.selections_isOk _ fun _ hc => (List.mem_filter.mp hc).2

end Policy

/-- A policy over characters whose allowed classes all have characters. -/
structure UsablePolicy extends Policy Char where
  usable : toPolicy.Usable

/-- The characters that must occur, in mask order. -/
def UsablePolicy.required (p : UsablePolicy) : Text :=
  match h : p.toPolicy.required? with
  | .ok xs => xs
  | .error e => absurd p.usable.required?_isOk (by simp [h])

/-- The required characters are the ones the policy selects. -/
theorem UsablePolicy.required?_eq (p : UsablePolicy) : p.toPolicy.required? = .ok p.required := by
  unfold required
  split
  · assumption
  · next e h => exact absurd p.usable.required?_isOk (by simp [h])

end MaskPolicy
