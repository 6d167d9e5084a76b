import Mathlib.Data.List.Rotate
import MaskPolicy.Proofs.Policy.Required

/-!
# Turns of a charset

Consecutive indexes go around a charset. As many of them as it has entries make a turn, and a turn
selects every place exactly once: what it selects is the charset, rotated to the place of the first
index. So an index selects the same as one that is whole turns later. Only the selection itself can
fail, for a negative index and, when the index asks for an entry, for a charset without any.
-/

namespace MaskPolicy

variable {α : Type}

/-- The selections of a turn, which starts at an index and has one index for each entry. -/
def turn (charset : List α) (start : Int) : List (Except SelectionError (Option α)) :=
  (List.range charset.length).map fun (k : Nat) => cyclic charset (start + k)

/-- An index selects a place when it selects what stands there in every charset of the size. -/
def SelectsPlace (size : Nat) (index : Int) (place : Fin size) : Prop :=
  ∀ (α : Type) (charset : Vector α size),
    cyclic charset.toList index = .ok (some charset[place])

/-- An index that asks for an entry counts places from one and wraps around the end. -/
theorem cyclic_of_pos {charset : List α} {index : Int} (hindex : 1 ≤ index)
    (hplace : (index - 1).toNat % charset.length < charset.length) :
    cyclic charset index = .ok (some charset[(index - 1).toNat % charset.length]) :=
  cyclic_eq_some_iff.mpr ⟨hindex, List.getElem?_eq_getElem hplace⟩

private theorem natCast_place {index : Int} (hindex : 1 ≤ index) (size : Nat) :
    (((index - 1).toNat % size : Nat) : Int) = (index - 1) % size := by
  rw [Int.natCast_emod, Int.toNat_of_nonneg (by omega)]

private theorem selectsPlace_iff {size : Nat} {index : Int} {place : Fin size} :
    SelectsPlace size index place ↔ 1 ≤ index ∧ (index - 1) % size = place.val := by
  constructor
  · intro h
    -- The charset whose entries are its places tells them apart.
    obtain ⟨hindex, hentry⟩ := cyclic_eq_some_iff.mp (h (Fin size) (.ofFn id))
    have hplace : (index - 1).toNat % size = place.val := by
      rw [Vector.length_toList, List.getElem?_eq_some_iff] at hentry
      obtain ⟨hlt, hentry⟩ := hentry
      simpa [Fin.ext_iff] using hentry
    exact ⟨hindex, by rw [← natCast_place hindex, hplace]⟩
  · rintro ⟨hindex, hplace⟩ α charset
    have hnat : (index - 1).toNat % charset.toList.length = place.val := by
      rw [Vector.length_toList]
      exact Int.ofNat.inj ((natCast_place hindex size).trans hplace)
    refine cyclic_eq_some_iff.mpr ⟨hindex, ?_⟩
    rw [hnat]
    simp

/-- Within a turn, the index that selects a place is as far from the first one as their places are
apart. -/
theorem selectsPlace_iff_eq {size : Nat} {start index : Int} {place : Fin size}
    (hstart : 1 ≤ start) (hfirst : start ≤ index) (hlast : index < start + size) :
    SelectsPlace size index place ↔ index = start + (place.val + 1 - start) % size := by
  have hplace := place.isLt
  rw [selectsPlace_iff, and_iff_right (by omega)]
  constructor
  · intro h
    have hapart : index - start = (place.val + 1 - start) % size :=
      calc index - start
        _ = (index - start) % size := (Int.emod_eq_of_lt (by omega) (by omega)).symm
        _ = (index - 1 - (start - 1)) % size := by congr 1; omega
        _ = ((index - 1) % size - (start - 1)) % size := (Int.emod_sub_emod ..).symm
        _ = (place.val + 1 - start) % size := by rw [h]; congr 1; omega
    omega
  · rintro rfl
    calc (start + (place.val + 1 - start) % size - 1) % (size : Int)
      _ = ((place.val + 1 - start) % size + (start - 1)) % size := by congr 1; omega
      _ = (place.val + 1 - start + (start - 1)) % size := Int.emod_add_emod ..
      _ = place.val % size := by congr 1; omega
      _ = place.val := Int.emod_eq_of_lt (by omega) (by omega)

/-- In every turn exactly one index selects a given place. -/
theorem existsUnique_selectsPlace {size : Nat} {start : Int} (hstart : 1 ≤ start)
    (place : Fin size) :
    ∃! index : Int, start ≤ index ∧ index < start + size ∧ SelectsPlace size index place := by
  have hsize : (0 : Int) < size := by
    have := place.isLt
    omega
  have hnonneg := Int.emod_nonneg (place.val + 1 - start) (Int.ne_of_gt hsize)
  have hlt := Int.emod_lt_of_pos (place.val + 1 - start) hsize
  refine ⟨start + (place.val + 1 - start) % size, ⟨by omega, by omega, ?_⟩, ?_⟩
  · exact (selectsPlace_iff_eq hstart (by omega) (by omega)).mpr rfl
  · rintro index ⟨hfirst, hlast, hselects⟩
    exact (selectsPlace_iff_eq hstart hfirst hlast).mp hselects

/-- A turn is the charset rotated to the place of its first index. -/
theorem turn_eq_rotate (charset : List α) {start : Int} (hstart : 1 ≤ start) :
    turn charset start = (charset.rotate (start - 1).toNat).map fun x => .ok (some x) := by
  apply List.ext_getElem
  · simp [turn]
  · intro k hk _
    have hlt : k < charset.length := by simpa [turn] using hk
    have hplace : (start + k - 1).toNat = k + (start - 1).toNat := by omega
    simp only [turn, List.getElem_map, List.getElem_range, List.getElem_rotate]
    rw [cyclic_of_pos (by omega) (Nat.mod_lt _ (by omega))]
    simp only [hplace]

/-- The first turn selects the entries in order. -/
theorem turn_one (charset : List α) : turn charset 1 = charset.map fun x => .ok (some x) := by
  rw [turn_eq_rotate charset (Int.le_refl 1)]
  simp

/-- Whole turns later an index selects the same. -/
theorem cyclic_add_turns (charset : List α) {index : Int} (hindex : 1 ≤ index) (turns : Nat) :
    cyclic charset (index + turns * charset.length) = cyclic charset index := by
  have hnonneg : (0 : Int) ≤ turns * charset.length :=
    Int.mul_nonneg (Int.natCast_nonneg _) (Int.natCast_nonneg _)
  have hplace : (index + turns * charset.length - 1).toNat % charset.length =
      (index - 1).toNat % charset.length := by
    have hshift : (index + turns * charset.length - 1).toNat =
        (index - 1).toNat + turns * charset.length := by
      omega
    rw [hshift, Nat.add_mul_mod_self_right]
  rw [cyclic, cyclic, hplace, if_neg (by omega), if_neg (by omega), if_neg (by omega),
    if_neg (by omega)]

/-- An index that asks for an entry fails when there is none, and only then. -/
theorem exists_cyclic_eq_error_iff (charset : List α) {index : Int} (hindex : 1 ≤ index) :
    (∃ e, cyclic charset index = .error e) ↔ charset = [] := by
  constructor
  · rintro ⟨e, he⟩
    by_contra hne
    obtain ⟨x, hx⟩ := cyclic_isOk hne (show 0 ≤ index by omega)
    exact nomatch hx.symm.trans he
  · rintro rfl
    exact ⟨.emptyCharset, by rw [cyclic, if_neg (by omega), if_neg (by omega)]; rfl⟩

/-- Selecting is a fair rotation. In a turn, which may start at any index from one on, every place
of the charset is selected by exactly one index; what the turn selects is the charset rotated, and
in the first turn the charset itself. Whole turns change no selection. The index zero selects
nothing, a negative one fails, and any other one fails exactly when there are no entries. -/
theorem cyclic_rotates (charset : List α) :
    (∀ start : Int, 1 ≤ start →
      (∀ place : Fin charset.length, ∃! index : Int, start ≤ index ∧
        index < start + charset.length ∧ SelectsPlace charset.length index place) ∧
      turn charset start = (charset.rotate (start - 1).toNat).map fun x => .ok (some x)) ∧
    turn charset 1 = charset.map (fun x => .ok (some x)) ∧
    (∀ (index : Int) (turns : Nat), 1 ≤ index →
      cyclic charset (index + turns * charset.length) = cyclic charset index) ∧
    cyclic charset 0 = .ok none ∧
    (∀ index < 0, cyclic charset index = .error (.negativeIndex index)) ∧
    (∀ index : Int, 1 ≤ index → ((∃ e, cyclic charset index = .error e) ↔ charset = [])) := by
  refine ⟨?_, turn_one charset, ?_, rfl, ?_, ?_⟩
  · intro start hstart
    exact ⟨existsUnique_selectsPlace hstart, turn_eq_rotate charset hstart⟩
  · intro index turns hindex
    exact cyclic_add_turns charset hindex turns
  · intro index hindex
    rw [cyclic, if_neg (by omega), if_pos hindex]
  · intro index hindex
    exact exists_cyclic_eq_error_iff charset hindex

end MaskPolicy
