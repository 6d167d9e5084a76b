import MaskPolicy.Proofs.Draw.Shuffle
import MaskPolicy.Proofs.Policy.Required
import Mathlib.Data.List.Count

/-!
# What generated passwords are made of

A policy composes passwords of a length: texts over its allowed characters that hold every required
character as often as it is required. Whatever the source answers, generating without an obstacle
composes such a password, and every such password is composed by some draws.
-/

namespace MaskPolicy.UsablePolicy

variable {σ : Type}

/-- The passwords of a length that a policy composes. -/
structure Composes (p : UsablePolicy) (length : Int) (password : Text) : Prop where
  length_eq : (password.length : Int) = length
  /-- Every character may occur. -/
  allowed : ∀ c ∈ password, c ∈ p.allowed
  /-- Every character that must occur does, once for each class that asks for it. -/
  required : ∀ c, p.required.count c ≤ password.count c

/-- The required characters and as many allowed ones as are missing make up a password, in any
order. -/
theorem Composes.of_perm {p : UsablePolicy} {length : Nat} {picked password : Text}
    (hle : p.required.length ≤ length) (hlen : picked.length = length - p.required.length)
    (hpicked : ∀ c ∈ picked, c ∈ p.allowed) (hp : password.Perm (p.required ++ picked)) :
    p.Composes length password where
  length_eq := by
    have := hp.length_eq
    rw [List.length_append] at this
    omega
  allowed c hc := by
    rcases List.mem_append.mp (hp.mem_iff.mp hc) with hr | hd
    · exact p.mem_allowed_of_mem_required hr
    · exact hpicked c hd
  required c := by
    rw [hp.count_eq c, List.count_append]
    exact Nat.le_add_right _ _

/-- A composed password is an arrangement of the required characters and some allowed ones. -/
theorem Composes.exists_perm {p : UsablePolicy} {length : Int} {password : Text}
    (h : p.Composes length password) :
    ∃ picked : Text, (p.required ++ picked).Perm password ∧ ∀ c ∈ picked, c ∈ p.allowed := by
  have hp : (p.required ++ password.diff p.required).Perm password :=
    List.subperm_append_diff_self_of_count_le fun c _ => h.required c
  exact ⟨password.diff p.required, hp,
    fun c hc => h.allowed c (hp.mem_iff.mp (List.mem_append_right _ hc))⟩

/-- Generating composes a password of the target length. -/
theorem composes_of_generate {p : UsablePolicy} {source : Source σ} {mask : Text}
    {requested : Option Int} {state : σ} {password : Text}
    (h : (p.generate source mask requested state).1 = .ok password) :
    p.Composes (p.targetLength requested) password := by
  have ho := obstacle?_of_generate h
  obtain ⟨-, -, hle⟩ := (p.obstacle?_eq_none_iff mask requested).mp ho
  have hlength : ((p.targetLength requested).toNat : Int) = p.targetLength requested := by omega
  rw [generate_of_no_obstacle ho] at h
  obtain rfl := Except.ok.inj h
  rw [← hlength]
  exact Composes.of_perm (by omega) (source.length_pick ..) (fun c => source.mem_of_mem_pick _)
    (source.shuffle_perm ..)

/-- Every composed password of the target length is generated by some draws. -/
theorem exists_generate_eq {p : UsablePolicy} {mask : Text} {requested : Option Int}
    (ho : p.obstacle? mask requested = none) {password : Text}
    (h : p.Composes (p.targetLength requested) password) :
    ∃ draws, (p.generate Source.ofList mask requested draws).1 = .ok password := by
  obtain ⟨picked, hp, hpicked⟩ := h.exists_perm
  obtain ⟨fill, hfill⟩ := Source.exists_pick_eq (allowed_length_pos ho) picked hpicked
  obtain ⟨swaps, hswaps⟩ := Source.exists_shuffle_eq hp
  have hcount : (p.targetLength requested).toNat - p.required.length = picked.length := by
    have := hp.length_eq
    rw [List.length_append] at this
    have := h.length_eq
    omega
  refine ⟨fill ++ (swaps ++ []), ?_⟩
  simp only [generate_of_no_obstacle ho, hcount, hfill, hswaps]

end MaskPolicy.UsablePolicy
