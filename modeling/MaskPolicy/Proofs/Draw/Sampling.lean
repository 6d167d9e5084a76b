import Mathlib.Data.Fintype.BigOperators
import Mathlib.Data.List.Forall2
import Mathlib.Data.Nat.Find
import MaskPolicy.Draw.Supply
import MaskPolicy.Proofs.Draw.Stream

/-!
# Draws by rejection

A draw from a twisted generator goes through the numbers of the stream that have as many bits as its
bound, and ends with the first of them that is below the bound; while there is none it does not end.
A draw that ends is never twice in one state, so that the search has enough fuel for it.

Requests are served one after another. One with a bound that is not positive is refused and leaves
the generator as it was, so that the others get what they would get without it.
-/

namespace MaskPolicy

namespace Twister

/-- A number that a draw below a bound goes through, counted from zero. -/
def candidate (t : Twister) (bound k : Nat) : Nat :=
  t.numberAt (bound.log2 + 1) (k * wordCount (bound.log2 + 1))

/-- The generator after the first numbers that a draw below a bound goes through. -/
def past (t : Twister) (bound k : Nat) : Twister := t.skip (k * wordCount (bound.log2 + 1))

/-- A draw ends with one of its numbers: the first that is below the bound. -/
structure EndsAt (t : Twister) (bound k : Nat) : Prop where
  le_of_lt : ∀ j < k, bound ≤ t.candidate bound j
  candidate_lt : t.candidate bound k < bound

variable {t : Twister} {bound : Nat}

private theorem candidate_past (j k : Nat) :
    (t.past bound j).candidate bound k = t.candidate bound (j + k) := by
  rw [past, candidate, numberAt_skip, candidate, Nat.add_mul]

private theorem past_past (j k : Nat) : (t.past bound j).past bound k = t.past bound (j + k) := by
  rw [past, past, past, ← skip_add, Nat.add_mul]

private theorem bits_bound (t : Twister) (bound : Nat) :
    t.bits (bound.log2 + 1) = (t.candidate bound 0, t.past bound 1) := by
  rw [bits_eq t (Nat.succ_pos _), candidate, past, Nat.zero_mul, Nat.one_mul]

/-- A first number below the bound is found. -/
theorem search_of_lt (h : t.candidate bound 0 < bound) (fuel : Nat) :
    t.search bound (fuel + 1) = some (t.candidate bound 0, t.past bound 1) := by
  rw [search]
  simp only [bits_bound, if_pos h]

/-- A first number that is not below the bound is passed over. -/
theorem search_of_le (h : bound ≤ t.candidate bound 0) (fuel : Nat) :
    t.search bound (fuel + 1) = (t.past bound 1).search bound fuel := by
  rw [search]
  simp only [bits_bound, if_neg (Nat.not_lt.mpr h)]

/-- A draw ends with a later number when the first one is passed over and the rest ends there. -/
theorem endsAt_succ_iff {k : Nat} :
    t.EndsAt bound (k + 1) ↔ bound ≤ t.candidate bound 0 ∧ (t.past bound 1).EndsAt bound k := by
  constructor
  · intro h
    refine ⟨h.le_of_lt 0 (Nat.succ_pos k), fun j hj => ?_, ?_⟩
    · rw [candidate_past]
      exact h.le_of_lt (1 + j) (by omega)
    · rw [candidate_past, Nat.add_comm]
      exact h.candidate_lt
  · rintro ⟨hfirst, hrest⟩
    refine ⟨fun j hj => ?_, ?_⟩
    · cases j with
      | zero => exact hfirst
      | succ j =>
        rw [Nat.add_comm, ← candidate_past]
        exact hrest.le_of_lt j (Nat.lt_of_succ_lt_succ hj)
    · rw [Nat.add_comm, ← candidate_past]
      exact hrest.candidate_lt

/-- A search with enough fuel gives the number that the draw ends with, and leaves what follows it.
-/
theorem EndsAt.search_eq {k fuel : Nat} (h : t.EndsAt bound k) (hfuel : k < fuel) :
    t.search bound fuel = some (t.candidate bound k, t.past bound (k + 1)) := by
  induction fuel generalizing t k with
  | zero => exact absurd hfuel (Nat.not_lt_zero k)
  | succ fuel ih =>
    cases k with
    | zero => exact search_of_lt h.candidate_lt fuel
    | succ k =>
      obtain ⟨hfirst, hrest⟩ := endsAt_succ_iff.mp h
      rw [search_of_le hfirst, ih hrest (Nat.lt_of_succ_lt_succ hfuel), candidate_past, past_past,
        Nat.add_comm 1 k, Nat.add_comm 1 (k + 1)]

/-- What a search gives is the number that the draw ends with. -/
theorem exists_endsAt_of_search {fuel : Nat} {drawn : Nat × Twister}
    (h : t.search bound fuel = some drawn) :
    ∃ k, t.EndsAt bound k ∧ drawn = (t.candidate bound k, t.past bound (k + 1)) := by
  induction fuel generalizing t with
  | zero => cases h
  | succ fuel ih =>
    rcases Nat.lt_or_ge (t.candidate bound 0) bound with hlt | hle
    · rw [search_of_lt hlt] at h
      exact ⟨0, ⟨fun _ => nofun, hlt⟩, (Option.some.inj h).symm⟩
    · rw [search_of_le hle] at h
      obtain ⟨k, hends, rfl⟩ := ih h
      refine ⟨k + 1, endsAt_succ_iff.mpr ⟨hle, hends⟩, ?_⟩
      rw [candidate_past, past_past, Nat.add_comm 1 k, Nat.add_comm 1 (k + 1)]

/-! ### Enough fuel

While a draw goes on, the generator does not come back to a state that it has been in, or the draw
would repeat itself and not end. There are only so many states.
-/

/-- A draw that ends is never twice in one state. -/
theorem EndsAt.past_ne {i j k : Nat} (h : t.EndsAt bound k) (hij : i < j) (hj : j ≤ k) :
    t.past bound i ≠ t.past bound j := by
  intro hsame
  have hcandidate : t.candidate bound (i + (k - j)) = t.candidate bound (j + (k - j)) := by
    rw [← candidate_past, hsame, candidate_past]
  have hle := h.le_of_lt (i + (k - j)) (by omega)
  rw [hcandidate, Nat.add_sub_cancel' hj] at hle
  exact absurd h.candidate_lt (Nat.not_lt.mpr hle)

/-- The words of a generator and its place among them. -/
def key (t : Twister) : (Fin 624 → Fin UInt32.size) × Fin 625 :=
  (fun i => t.words[i].toFin, Fin.ofNat 625 t.next)

private theorem card_keys (values words places : Nat) :
    Fintype.card ((Fin words → Fin values) × Fin places) = countStates values words places := by
  rw [Fintype.card_prod, Fintype.card_fun, Fintype.card_fin, Fintype.card_fin, Fintype.card_fin,
    countStates]
  rfl

private theorem eq_of_key_eq {t t' : Twister} (ht : t.next ≤ 624) (ht' : t'.next ≤ 624)
    (h : t.key = t'.key) : t = t' := by
  obtain ⟨words, next⟩ := t
  obtain ⟨words', next'⟩ := t'
  obtain ⟨hwords, hnext⟩ := Prod.mk.inj h
  have hplace : next % 625 = next' % 625 := congrArg Fin.val hnext
  have hsame : words = words' := Vector.ext fun i hi =>
    UInt32.toFin_inj.mp (congrFun hwords ⟨i, hi⟩)
  simp only at ht ht'
  rw [hsame, ← Nat.mod_eq_of_lt (Nat.lt_succ_of_le ht), hplace,
    Nat.mod_eq_of_lt (Nat.lt_succ_of_le ht')]

private theorem next_output_le (t : Twister) : t.output.2.next ≤ 624 := by
  unfold output
  split
  · next h => exact h
  · show 1 ≤ 624
    decide

private theorem next_past_le (t : Twister) (bound k : Nat) : (t.past bound (k + 1)).next ≤ 624 := by
  obtain ⟨n, hn⟩ : ∃ n, (k + 1) * wordCount (bound.log2 + 1) = n + 1 := by
    refine Nat.exists_eq_succ_of_ne_zero (Nat.mul_ne_zero (Nat.succ_ne_zero k) ?_)
    unfold wordCount
    omega
  rw [past, hn, skip_add]
  exact next_output_le _

/-- A draw that ends goes through no more numbers than there are states. -/
theorem EndsAt.le_stateCount {k : Nat} (h : t.EndsAt bound k) : k ≤ stateCount := by
  have hne : ∀ i j : Fin k, i < j → (t.past bound (i + 1)).key ≠ (t.past bound (j + 1)).key :=
    fun i j hij hkey => h.past_ne (Nat.succ_lt_succ hij) j.isLt
      (eq_of_key_eq (next_past_le t bound i) (next_past_le t bound j) hkey)
  have hinj : Function.Injective fun i : Fin k => (t.past bound (i + 1)).key := by
    intro i j hkey
    rcases lt_trichotomy i j with hlt | heq | hgt
    · exact absurd hkey (hne i j hlt)
    · exact heq
    · exact absurd hkey.symm (hne j i hgt)
  have hcard := Fintype.card_le_of_injective _ hinj
  rwa [Fintype.card_fin, card_keys] at hcard

/-- A draw that ends with a number gives the number and leaves what follows it. -/
theorem EndsAt.below?_eq {k : Nat} (h : t.EndsAt bound k) :
    t.below? bound = some (t.candidate bound k, t.past bound (k + 1)) :=
  h.search_eq (Nat.lt_add_one_of_le h.le_stateCount)

/-- A draw does not end exactly when no number that it goes through is below the bound. -/
theorem below?_eq_none_iff : t.below? bound = none ↔ ∀ k, bound ≤ t.candidate bound k := by
  constructor
  · intro h k
    by_contra hlt
    have hex : ∃ k, t.candidate bound k < bound := ⟨k, Nat.not_le.mp hlt⟩
    have hends : t.EndsAt bound (Nat.find hex) :=
      ⟨fun j hj => Nat.not_lt.mp (Nat.find_min hex hj), Nat.find_spec hex⟩
    exact nomatch h.symm.trans hends.below?_eq
  · intro h
    cases hdrawn : t.below? bound with
    | none => rfl
    | some drawn =>
      obtain ⟨k, hends, -⟩ := exists_endsAt_of_search hdrawn
      exact absurd hends.candidate_lt (Nat.not_lt.mpr (h k))

end Twister

namespace Source

variable {σ : Type}

/-- Serve requests for draws one after another, and give all their answers. -/
def requests (s : Source σ) : List Int → σ → List (Option Nat) × σ
  | [], state => ([], state)
  | bound :: bounds, state =>
    let (answer, state) := s.request bound state
    let (answers, state) := s.requests bounds state
    (answer :: answers, state)

/-- The answer to a request: a number from zero to below a positive bound, and none if the bound is
not positive. -/
def Answers (bound : Int) (answer : Option Nat) : Prop :=
  if 0 < bound then ∃ n : Nat, answer = some n ∧ (n : Int) < bound else answer = none

private theorem request_of_nonpos (s : Source σ) {bound : Int} (h : ¬0 < bound) (state : σ) :
    s.request bound state = (none, state) := by
  rw [request, dif_neg h]

private theorem request_of_pos (s : Source σ) {bound : Int} (h : 0 < bound) (hpos : 0 < bound.toNat)
    (state : σ) :
    s.request bound state =
      (some (s.draw bound.toNat hpos state).1.val, (s.draw bound.toNat hpos state).2) := by
  rw [request, dif_pos h]

/-- Every request is answered within its bound. -/
theorem answers_request (s : Source σ) (bound : Int) (state : σ) :
    Answers bound (s.request bound state).1 := by
  unfold Answers
  split
  · next h =>
    rw [request_of_pos s h (Int.lt_toNat.mpr h)]
    refine ⟨_, rfl, ?_⟩
    have := (s.draw bound.toNat (Int.lt_toNat.mpr h) state).1.isLt
    omega
  · next h => rw [request_of_nonpos s h]

/-- All requests of a list are answered, each within its bound. -/
theorem forall₂_answers_requests (s : Source σ) (bounds : List Int) (state : σ) :
    List.Forall₂ Answers bounds (s.requests bounds state).1 := by
  induction bounds generalizing state with
  | nil => exact .nil
  | cons bound bounds ih => exact .cons (s.answers_request bound state) (ih _)

/-- Later requests are served from where the earlier ones leave the source. -/
theorem requests_append (s : Source σ) (before after : List Int) (state : σ) :
    s.requests (before ++ after) state =
      let first := s.requests before state
      let rest := s.requests after first.2
      (first.1 ++ rest.1, rest.2) := by
  induction before generalizing state with
  | nil => rfl
  | cons bound before ih => simp only [List.cons_append, requests, ih]

/-- In a list of requests each is answered from where the ones before it leave the source. -/
theorem getElem?_requests (s : Source σ) (before : List Int) (bound : Int) (after : List Int)
    (state : σ) :
    (s.requests (before ++ bound :: after) state).1[before.length]? =
      some (s.request bound (s.requests before state).2).1 := by
  have hlength := (s.forall₂_answers_requests before state).length_eq
  rw [requests_append, List.getElem?_append_right (Nat.le_of_eq hlength.symm), hlength,
    Nat.sub_self]
  rfl

/-- Without the refused requests the others get the same answers, and the source ends in the same
state. -/
theorem requests_filter (s : Source σ) (bounds : List Int) (state : σ) :
    s.requests (bounds.filter (0 < ·)) state =
      ((s.requests bounds state).1.filter Option.isSome, (s.requests bounds state).2) := by
  induction bounds generalizing state with
  | nil => rfl
  | cons bound bounds ih =>
    by_cases h : 0 < bound
    · rw [List.filter_cons_of_pos (by simpa using h)]
      simp only [requests, request_of_pos s h (Int.lt_toNat.mpr h), ih]
      rfl
    · rw [List.filter_cons_of_neg (by simpa using h), ih]
      simp only [requests, request_of_nonpos s h]
      rfl

end Source

namespace Supply

/-- A draw from a twisted generator gives the number that it ends with. -/
theorem draw_of_endsAt {t : Twister} {bound k : Nat} (h : t.EndsAt bound k) (hpos : 0 < bound) :
    source.draw bound hpos (.twisted t) =
      (⟨t.candidate bound k, h.candidate_lt⟩, .twisted (t.past bound (k + 1))) := by
  simp only [source]
  split
  · next n t' hd =>
    obtain ⟨rfl, rfl⟩ := Prod.mk.inj (Option.some.inj (hd.symm.trans h.below?_eq))
    rfl
  · next hd => exact nomatch hd.symm.trans h.below?_eq

/-- A twisted generator stays one. -/
theorem exists_twisted_of_request (bound : Int) (t : Twister) :
    ∃ t', (source.request bound (.twisted t)).2 = .twisted t' := by
  by_cases h : 0 < bound
  · rw [Source.request_of_pos source h (Int.lt_toNat.mpr h)]
    simp only [source]
    split
    · exact ⟨_, rfl⟩
    · exact ⟨_, rfl⟩
  · rw [Source.request_of_nonpos source h]
    exact ⟨t, rfl⟩

/-- A twisted generator stays one over any requests. -/
theorem exists_twisted_of_requests (bounds : List Int) (t : Twister) :
    ∃ t', (source.requests bounds (.twisted t)).2 = .twisted t' := by
  induction bounds generalizing t with
  | nil => exact ⟨t, rfl⟩
  | cons bound bounds ih =>
    obtain ⟨t', ht'⟩ := exists_twisted_of_request bound t
    simp only [Source.requests, ht']
    exact ih t'

/-- How a twisted generator serves a request. -/
inductive Serves (t : Twister) (bound : Int) : Option Nat × Supply → Prop
  /-- A bound that is not positive is refused, and the generator stays as it was. -/
  | refused (h : bound ≤ 0) : Serves t bound (none, .twisted t)
  /-- The first number below the bound is the answer. -/
  | drawn {k : Nat} (h : 0 < bound) (hk : t.EndsAt bound.toNat k) :
    Serves t bound
      (some (t.candidate bound.toNat k), .twisted (t.past bound.toNat (k + 1)))
  /-- There is no number below the bound, and the request is never answered. -/
  | endless {served : Option Nat × Supply} (h : 0 < bound)
    (hnone : ∀ k, bound.toNat ≤ t.candidate bound.toNat k) : Serves t bound served

/-- A twisted generator serves every request. -/
theorem serves_request (t : Twister) (bound : Int) :
    Serves t bound (source.request bound (.twisted t)) := by
  by_cases h : 0 < bound
  · cases hd : t.below? bound.toNat with
    | none => exact .endless h (Twister.below?_eq_none_iff.mp hd)
    | some drawn =>
      obtain ⟨k, hends, -⟩ := Twister.exists_endsAt_of_search hd
      rw [Source.request_of_pos source h (Int.lt_toNat.mpr h), draw_of_endsAt hends]
      exact .drawn h hends
  · rw [Source.request_of_nonpos source h]
    exact .refused (Int.not_lt.mp h)

/-- A generator with a seed keeps to its bounds on every run. A request with a positive bound is
answered with a number below it and any other is refused. Wherever in the run a request stands, the
generator that it comes to serves it: with the first number below the bound among those that have
its count of bits in what is left of the stream, if there is one, or with a refusal that leaves the
generator as it was. Without the refused requests the others get the same answers. -/
theorem seeded_requests (secure : Bool) (seed : Int) (outside : List Nat) (bounds : List Int) :
    let start := Supply.start (Generator.choose secure (some seed)) outside
    let served := source.requests bounds start
    List.Forall₂ Source.Answers bounds served.1 ∧
    (∀ before bound after, bounds = before ++ bound :: after →
      ∃ t, (source.requests before start).2 = .twisted t ∧
        served.1[before.length]? = some (source.request bound (.twisted t)).1 ∧
        Serves t bound (source.request bound (.twisted t))) ∧
    source.requests (bounds.filter (0 < ·)) start =
      (served.1.filter Option.isSome, served.2) := by
  intro start served
  refine ⟨source.forall₂_answers_requests bounds start, ?_, source.requests_filter bounds start⟩
  rintro before bound after rfl
  have hstart : start = .twisted (.ofSeed seed) := rfl
  obtain ⟨t, ht⟩ := exists_twisted_of_requests before (.ofSeed seed)
  rw [← hstart] at ht
  refine ⟨t, ht, ?_, serves_request t bound⟩
  rw [← ht]
  exact source.getElem?_requests before bound after start

end Supply

end MaskPolicy
