import MaskPolicy.Proofs.Draw.Shuffle
import Mathlib.Data.List.Permutation
import Mathlib.Probability.ProbabilityMassFunction.Constructions
import Mathlib.Probability.Distributions.Uniform

/-!
# Shuffles without bias

A shuffle asks for one position in each of its steps, and its answers determine the arrangement that
it leaves. On a list without repeated entries the arrangement also determines the answers: no step
after the first touches the last entry, so that entry tells the first answer, and so on down. There
are as many ways to answer as there are arrangements, so each arrangement is left by exactly one of
them, and answers drawn uniformly and one after another leave all arrangements with the same
probability.
-/

open scoped Nat

namespace MaskPolicy

/-- Answers for settling `count` positions: a position below each number from `count` down to two,
in this order. -/
def Draws : Nat → Type
  | 0 => Unit
  | 1 => Unit
  | count + 2 => Fin (count + 2) × Draws (count + 1)

namespace Draws

/-- A first answer and those that follow it. -/
def cons {count : Nat} (j : Fin (count + 2)) (js : Draws (count + 1)) : Draws (count + 2) := (j, js)

private theorem cons_inj {count : Nat} {j k : Fin (count + 2)} {js ks : Draws (count + 1)}
    (h : cons j js = cons k ks) : j = k ∧ js = ks := Prod.mk.inj h

/-- The answers as numbers. -/
def toList : (count : Nat) → Draws count → List Nat
  | 0, _ => []
  | 1, _ => []
  | count + 2, js => js.1.val :: toList (count + 1) js.2

/-- The law of answers that are drawn uniformly, each without regard to those before it. -/
noncomputable def law : (count : Nat) → PMF (Draws count)
  | 0 => PMF.pure ()
  | 1 => PMF.pure ()
  | count + 2 => (PMF.uniformOfFintype (Fin (count + 2))).bind fun j =>
    (law (count + 1)).map (cons j)

private theorem card_eq_factorial : (count : Nat) → Nat.card (Draws count) = count !
  | 0 => Nat.card_eq_one_iff_unique.mpr ⟨inferInstanceAs (Subsingleton Unit), ⟨()⟩⟩
  | 1 => Nat.card_eq_one_iff_unique.mpr ⟨inferInstanceAs (Subsingleton Unit), ⟨()⟩⟩
  | count + 2 => by
    rw [Draws, Nat.card_prod, Nat.card_eq_fintype_card, Fintype.card_fin,
      card_eq_factorial (count + 1), ← Nat.factorial_succ]

end Draws

private theorem map_apply_of_injective {α β : Type*} (p : PMF α) {f : α → β}
    (hf : Function.Injective f) (a : α) : p.map f (f a) = p a := by
  rw [PMF.map_apply, tsum_eq_single a, if_pos rfl]
  intro b hb
  exact if_neg fun he => hb (hf he.symm)

/-- All ways to answer have the same probability. -/
theorem Draws.law_apply : (count : Nat) → (js : Draws count) →
    law count js = (count ! : ENNReal)⁻¹
  | 0, js => by
    have h : law 0 js = 1 := (PMF.pure_apply _ _).trans (if_pos rfl)
    rw [h, Nat.factorial_zero, Nat.cast_one, inv_one]
  | 1, js => by
    have h : law 1 js = 1 := (PMF.pure_apply _ _).trans (if_pos rfl)
    rw [h, Nat.factorial_one, Nat.cast_one, inv_one]
  | count + 2, (j, js) => by
    have hfirst : law (count + 2) (cons j js) =
        PMF.uniformOfFintype (Fin (count + 2)) j * law (count + 1) js := by
      rw [law, PMF.bind_apply, tsum_eq_single j]
      · rw [map_apply_of_injective _ fun ks ls he => (cons_inj he).2]
      · intro i hi
        rw [PMF.map_apply, ENNReal.tsum_eq_zero.mpr, mul_zero]
        exact fun ks => if_neg fun he => hi (cons_inj he).1.symm
    rw [show (j, js) = cons j js from rfl, hfirst, law_apply (count + 1) js,
          PMF.uniformOfFintype_apply, Fintype.card_fin,
      ← ENNReal.mul_inv (.inr (ENNReal.natCast_ne_top _)) (.inl (ENNReal.natCast_ne_top _)),
      ← Nat.cast_mul, ← Nat.factorial_succ]

namespace Source

variable {σ α : Type} {n : Nat}

/-- The answers of a source to the questions of a shuffle, and its next state. -/
def answers (s : Source σ) : (count : Nat) → σ → Draws count × σ
  | 0, state => ((), state)
  | 1, state => ((), state)
  | count + 2, state =>
    let (j, state) := s.draw (count + 2) (by omega) state
    let (js, state) := s.answers (count + 1) state
    ((j, js), state)

private theorem settle_answers (s : Source σ) (count : Nat) (h : count ≤ n) (xs : Vector α n)
    (state : σ) :
    s.settle count h xs state =
      ((ofList.settle count h xs (Draws.toList count (s.answers count state).1)).1,
        (s.answers count state).2) := by
  fun_induction settle s count h xs state with
  | case1 => rfl
  | case2 => rfl
  | case3 count h xs state j next hdraw ih =>
    have hmod : j.val % (count + 2) = j.val := Nat.mod_eq_of_lt j.isLt
    simp only [ih, answers, hdraw, Draws.toList, settle, ofList, hmod]

private theorem getElem_settle (s : Source σ) (count : Nat) (h : count ≤ n) (xs : Vector α n)
    (state : σ) {i : Nat} (hi : i < n) (hc : count ≤ i) :
    (s.settle count h xs state).1[i] = xs[i] := by
  fun_induction settle s count h xs state with
  | case1 => rfl
  | case2 => rfl
  | case3 count h xs state j next hdraw ih =>
    rw [ih (by omega), Vector.getElem_swap_of_ne (by omega) (by omega)]

private theorem getElem_settle_last {count : Nat} (h : count + 2 ≤ n) (xs : Vector α n)
    (js : Draws (count + 2)) :
    (ofList.settle (count + 2) h xs (Draws.toList (count + 2) js)).1[count + 1] =
      xs[js.1.val] := by
  have hmod : js.1.val % (count + 2) = js.1.val := Nat.mod_eq_of_lt js.1.isLt
  simp only [Draws.toList, settle, ofList, hmod]
  rw [getElem_settle _ _ _ _ _ _ (Nat.le_refl _), Vector.getElem_swap_left]

/-- Different answers leave different arrangements of entries that do not repeat. -/
theorem settle_injective : (count : Nat) → (h : count ≤ n) → (xs : Vector α n) →
    xs.toList.Nodup → (js ks : Draws count) →
    (ofList.settle count h xs (Draws.toList count js)).1 =
      (ofList.settle count h xs (Draws.toList count ks)).1 → js = ks
  | 0, _, _, _, _, _, _ => rfl
  | 1, _, _, _, _, _, _ => rfl
  | count + 2, h, xs, hn, (j, js), (k, ks), he => by
    have hlast := getElem_settle_last h xs (j, js)
    rw [he, getElem_settle_last h xs (k, ks)] at hlast
    have hj : j.val < xs.toList.length := by simp; omega
    have hk : k.val < xs.toList.length := by simp; omega
    have hentry : xs.toList[k.val] = xs.toList[j.val] := by
      simpa only [Vector.getElem_toList] using hlast
    have hval : k.val = j.val := hn.getElem_inj_iff.mp hentry
    obtain rfl : k = j := Fin.ext hval
    -- The first exchange is the same on both sides, so the rest settles the same entries.
    have hmod : k.val % (count + 2) = k.val := Nat.mod_eq_of_lt k.isLt
    simp only [Draws.toList, settle, ofList, hmod] at he
    have hswap : (xs.swap (count + 1) k.val).toList.Nodup :=
      (Vector.perm_iff_toList_perm.mp (Vector.swap_perm _ _)).nodup_iff.mpr hn
    rw [settle_injective (count + 1) _ _ hswap js ks he]

/-- The arrangement of a list that answers leave. -/
def arrange (xs : List α) (js : Draws xs.length) : { ys : List α // ys.Perm xs } :=
  ⟨(ofList.shuffle xs (Draws.toList xs.length js)).1, ofList.shuffle_perm xs _⟩

private theorem card_arrangements {xs : List α} (h : xs.Nodup) :
    Nat.card { ys : List α // ys.Perm xs } = xs.length ! := by
  let arrangements : Finset (List α) := ⟨xs.permutations, List.nodup_permutations xs h⟩
  have hmem : ∀ ys, ys ∈ arrangements ↔ ys.Perm xs := fun ys => List.mem_permutations
  rw [Nat.subtype_card arrangements hmem]
  exact List.length_permutations xs

/-- Different answers leave different arrangements. -/
theorem arrange_injective {xs : List α} (h : xs.Nodup) : Function.Injective (arrange xs) := by
  intro js ks he
  have hlist : (ofList.shuffle xs (Draws.toList xs.length js)).1 =
      (ofList.shuffle xs (Draws.toList xs.length ks)).1 := congrArg Subtype.val he
  exact settle_injective xs.length (Nat.le_refl _) ⟨xs.toArray, by simp⟩ (by simpa using h) js ks
    (Vector.toList_inj.mp hlist)

/-- Every arrangement is left by exactly one way to answer. -/
theorem arrange_bijective {xs : List α} (h : xs.Nodup) : Function.Bijective (arrange xs) := by
  have hcard := card_arrangements h
  have : Finite { ys : List α // ys.Perm xs } :=
    Nat.finite_of_card_ne_zero (hcard ▸ Nat.factorial_ne_zero _)
  exact (Nat.bijective_iff_injective_and_card _).mpr
    ⟨arrange_injective h, (Draws.card_eq_factorial xs.length).trans hcard.symm⟩

/-- A shuffle of a list without repeated entries is unbiased. Whatever the source, it leaves the
arrangement that the answers of the source leave. Each of the arrangements, whose number is the
factorial of the length, is left by exactly one way to answer. So answers drawn uniformly and
independently leave each of them with the same probability. -/
theorem shuffle_unbiased {xs : List α} (h : xs.Nodup) :
    (∀ {σ : Type} (s : Source σ) (state : σ), s.shuffle xs state =
      ((arrange xs (s.answers xs.length state).1).val, (s.answers xs.length state).2)) ∧
    Function.Bijective (arrange xs) ∧
    Nat.card { ys : List α // ys.Perm xs } = xs.length ! ∧
    ∀ ys, (Draws.law xs.length).map (arrange xs) ys = (xs.length ! : ENNReal)⁻¹ := by
  refine ⟨?_, arrange_bijective h, card_arrangements h, ?_⟩
  · intro σ s state
    rw [shuffle, settle_answers]
    rfl
  · intro ys
    obtain ⟨js, rfl⟩ := (arrange_bijective h).surjective ys
    rw [map_apply_of_injective _ (arrange_injective h), Draws.law_apply]

/-- The three letters have six arrangements. -/
theorem shuffle_unbiased_abc :
    ['a', 'b', 'c'].Nodup ∧ Function.Bijective (arrange ['a', 'b', 'c']) ∧
      (arrange ['a', 'b', 'c'] (0, 1, ())).val = ['c', 'b', 'a'] ∧
      ∀ ys, (Draws.law 3).map (arrange ['a', 'b', 'c']) ys = (3 ! : ENNReal)⁻¹ :=
  have h : ['a', 'b', 'c'].Nodup := by decide
  ⟨h, (shuffle_unbiased h).2.1, rfl, (shuffle_unbiased h).2.2.2⟩

end Source

end MaskPolicy
