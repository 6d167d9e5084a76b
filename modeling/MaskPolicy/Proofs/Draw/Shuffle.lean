import MaskPolicy.Draw.Generate

/-!
# What draws can give

Picked entries are entries of the list picked from, and a shuffled list is an arrangement of the
list, whatever the source answers. Conversely every list of entries is picked by some draws and
every arrangement is left by some draws. The draws that leave an arrangement are found from the last
position down: at each step the positions above are settled, so the entry wanted next still stands
at or below its place.
-/

namespace MaskPolicy.Source

variable {σ α : Type} {n : Nat}

/-- As many entries are picked as are asked for. -/
theorem length_pick (s : Source σ) (entries : List α) (h : 0 < entries.length) (count : Nat)
    (state : σ) : (s.pick entries h count state).1.length = count := by
  induction count generalizing state with
  | zero => rfl
  | succ count ih => exact congrArg Nat.succ (ih _)

/-- Nothing is picked but entries. -/
theorem mem_of_mem_pick (s : Source σ) {entries : List α} (h : 0 < entries.length) {count : Nat}
    {state : σ} {x : α} (hx : x ∈ (s.pick entries h count state).1) : x ∈ entries := by
  induction count generalizing state with
  | zero => exact absurd hx List.not_mem_nil
  | succ count ih =>
    rcases List.mem_cons.mp hx with rfl | hrest
    · exact List.getElem_mem _
    · exact ih hrest

/-- Any entries are picked by some draws, and no further draw is used. -/
theorem exists_pick_eq {entries : List α} (h : 0 < entries.length) (xs : List α)
    (hx : ∀ x ∈ xs, x ∈ entries) :
    ∃ draws, ∀ rest, ofList.pick entries h xs.length (draws ++ rest) = (xs, rest) := by
  induction xs with
  | nil => exact ⟨[], fun _ => rfl⟩
  | cons x xs ih =>
    obtain ⟨draws, hdraws⟩ := ih fun y hy => hx y (List.mem_cons_of_mem _ hy)
    obtain ⟨i, hi, rfl⟩ := List.getElem_of_mem (hx x List.mem_cons_self)
    refine ⟨i :: draws, fun rest => ?_⟩
    have hmod : i % entries.length = i := Nat.mod_eq_of_lt hi
    have hrest := hdraws rest
    simp only [ofList] at hrest
    simp only [pick, ofList, List.length_cons, List.cons_append, hmod, hrest, Fin.getElem_fin]

/-- One exchange after another leaves the entries the same, each as often as before. -/
theorem settle_perm (s : Source σ) (count : Nat) (h : count ≤ n) (xs : Vector α n) (state : σ) :
    (s.settle count h xs state).1.Perm xs := by
  fun_induction settle s count h xs state with
  | case1 => exact .refl _
  | case2 => exact .refl _
  | case3 xs state count h j next hdraw ih => exact ih.trans (Vector.swap_perm _ _)

/-- A shuffled list is an arrangement of the list. -/
theorem shuffle_perm (s : Source σ) (xs : List α) (state : σ) :
    (s.shuffle xs state).1.Perm xs :=
  Vector.perm_iff_toList_perm.mp
    (s.settle_perm xs.length (Nat.le_refl _) ⟨xs.toArray, by simp⟩ state)

/-- Arrangements that agree from a position on have the same entries before it. -/
private theorem take_perm_of_agree {xs ys : Vector α n} (hp : xs.Perm ys) {count : Nat}
    (hs : ∀ i (hi : i < n), count ≤ i → xs[i] = ys[i]) :
    (xs.toList.take count).Perm (ys.toList.take count) := by
  have htail : xs.toList.drop count = ys.toList.drop count := by
    apply List.ext_getElem (by simp)
    intro i hx hy
    simp only [List.getElem_drop, Vector.getElem_toList]
    exact hs (count + i) _ (Nat.le_add_right count i)
  have hlist := Vector.perm_iff_toList_perm.mp hp
  rw [← List.take_append_drop count xs.toList, ← List.take_append_drop count ys.toList,
    htail] at hlist
  exact (List.perm_append_right_iff _).mp hlist

private theorem exists_entry_of_agree {xs ys : Vector α n} (hp : xs.Perm ys) {last : Nat}
    (hl : last < n) (hs : ∀ i (hi : i < n), last < i → xs[i] = ys[i]) :
    ∃ j, ∃ hj : j ≤ last, xs[j] = ys[last] := by
  have hmem : ys[last] ∈ xs.toList.take (last + 1) := by
    rw [(take_perm_of_agree hp hs).mem_iff, ← Vector.getElem_toList (by simpa using hl)]
    refine List.mem_take_iff_getElem.mpr ⟨last, ?_, rfl⟩
    rw [Vector.length_toList]
    omega
  obtain ⟨j, hj, he⟩ := List.getElem_of_mem hmem
  have hlast : j ≤ last := by
    rw [List.length_take] at hj
    omega
  exact ⟨j, hlast, by simpa using he⟩

private theorem swap_agree {xs ys : Vector α n} {last j : Nat} (hl : last < n) (hj : j ≤ last)
    (he : xs[j] = ys[last]) (hs : ∀ i (hi : i < n), last < i → xs[i] = ys[i]) :
    ∀ i (hi : i < n), last ≤ i → (xs.swap last j)[i] = ys[i] := by
  intro i hi hli
  rcases Nat.eq_or_lt_of_le hli with rfl | hlt
  · rw [Vector.getElem_swap_left, he]
  · rw [Vector.getElem_swap_of_ne (by omega) (by omega), hs i hi hlt]

private theorem exists_settle_eq {ys : Vector α n} (count : Nat) (h : count ≤ n) (xs : Vector α n)
    (hp : xs.Perm ys) (hs : ∀ i (hi : i < n), count ≤ i → xs[i] = ys[i]) :
    ∃ draws, ∀ rest, ofList.settle count h xs (draws ++ rest) = (ys, rest) := by
  induction count generalizing xs with
  | zero =>
    have hxs : xs = ys := Vector.ext fun i hi => hs i hi (Nat.zero_le i)
    exact ⟨[], fun rest => by rw [hxs]; rfl⟩
  | succ last ih =>
    obtain ⟨j, hj, he⟩ := exists_entry_of_agree hp h hs
    cases last with
    | zero =>
      -- One position is left and nothing is drawn for it: its entry is the only one that remains.
      obtain rfl : j = 0 := Nat.le_zero.mp hj
      have hxs : xs = ys := by
        apply Vector.ext
        intro i hi
        rcases Nat.eq_zero_or_pos i with rfl | hpos
        · exact he
        · exact hs i hi hpos
      exact ⟨[], fun rest => by rw [hxs]; rfl⟩
    | succ last =>
      obtain ⟨draws, hdraws⟩ := ih (by omega) (xs.swap (last + 1) j)
        ((Vector.swap_perm _ _).trans hp) (swap_agree h hj he hs)
      refine ⟨j :: draws, fun rest => ?_⟩
      have hmod : j % (last + 2) = j := Nat.mod_eq_of_lt (by omega)
      simp only [settle, ofList, List.cons_append, hmod]
      exact hdraws rest

/-- Every arrangement of a list is left by some draws, and no further draw is used. -/
theorem exists_shuffle_eq {xs ys : List α} (hp : xs.Perm ys) :
    ∃ draws, ∀ rest, ofList.shuffle xs (draws ++ rest) = (ys, rest) := by
  have hlen : ys.toArray.size = xs.length := by simpa using hp.length_eq.symm
  have hvec : Vector.Perm (⟨xs.toArray, by simp⟩ : Vector α xs.length) ⟨ys.toArray, hlen⟩ :=
    Vector.perm_iff_toList_perm.mpr hp
  obtain ⟨draws, hdraws⟩ := exists_settle_eq xs.length (Nat.le_refl _) _ hvec
    fun i hi hle => absurd hi (Nat.not_lt.mpr hle)
  refine ⟨draws, fun rest => ?_⟩
  rw [shuffle, hdraws rest]
  rfl

end MaskPolicy.Source
