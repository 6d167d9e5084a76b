import MaskPolicy.Proofs.Command.Requests
import MaskPolicy.Proofs.Password.Feasibility
import MaskPolicy.Proofs.Password.RoundTrip
import Mathlib.Data.List.Infix

/-!
# Calls that generate passwords

A call that generates passwords writes each of them as soon as it is there. Yet it writes all of
them or none: whether one can be generated is settled by the job of the call, that is, by the mask,
the alphabet and the length, whatever was drawn before, so that only the first one can fail. The
passwords come from one source, one after another, so that fewer passwords of the same seed are the
first of more; a seed settles them whatever the settings say about randomness.
-/

namespace MaskPolicy

namespace Command

namespace Job

/-- Why no password of a job can be generated, if that is so. -/
def failure? (j : Job) : Option GenerationError :=
  match j.policy with
  | .error e => some (.unusable e)
  | .ok p => p.obstacle? j.mask j.length

/-- How a job ends. -/
def ending (j : Job) : Ending :=
  match j.failure? with
  | none => .done
  | some e => .failed (.generation e)

variable {j : Job} {p : UsablePolicy}

private theorem exists_policy_of_no_failure (h : j.failure? = none) :
    ∃ p, j.policy = .ok p ∧ p.obstacle? j.mask j.length = none := by
  unfold failure? at h
  split at h
  · cases h
  · next p hp => exact ⟨p, hp, h⟩

private theorem exists_writeOne_eq (hp : j.policy = .ok p) (ho : p.obstacle? j.mask j.length = none)
    (supply : Supply) :
    ∃ password bounds next, p.Composes (p.targetLength j.length) password ∧
      j.writeOne supply =
        ({ output := password ++ ['\n'], trace := j.eventsOf p password, bounds }, next) := by
  obtain ⟨password, ⟨next, bounds⟩, hgenerate⟩ : ∃ password state,
      p.generate Supply.source.recording j.mask j.length (supply, []) = (.ok password, state) :=
    ⟨_, _, UsablePolicy.generate_of_no_obstacle ho _ _⟩
  refine ⟨password, bounds.reverse, next,
    UsablePolicy.composes_of_generate (congrArg Prod.fst hgenerate), ?_⟩
  simp only [writeOne, hp, hgenerate]

private theorem writeOne_of_failure {e : GenerationError} (h : j.failure? = some e)
    (supply : Supply) :
    j.writeOne supply =
      ({ trace := j.policy.toOption.toList.map fun p => .parsed j.mask p.toPolicy
         ending := .failed (.generation e) }, supply) := by
  unfold failure? at h
  split at h
  · next hp =>
    obtain rfl := Option.some.inj h
    simp only [writeOne, hp]
    rfl
  · next hp =>
    simp only [writeOne, hp, UsablePolicy.generate_of_obstacle h]
    rfl

private theorem ending_writeOne (j : Job) (supply : Supply) :
    (j.writeOne supply).1.ending = j.ending := by
  unfold ending
  cases h : j.failure? with
  | some e => rw [writeOne_of_failure h]
  | none =>
    obtain ⟨p, hp, ho⟩ := exists_policy_of_no_failure h
    obtain ⟨password, bounds, next, -, hone⟩ := exists_writeOne_eq hp ho supply
    rw [hone]

/-- After a failure nothing follows. -/
theorem write_of_not_done {supply : Supply} (h : (j.writeOne supply).1.ending ≠ .done)
    {count : Nat} (hcount : 0 < count) : j.write count supply = (j.writeOne supply).1 := by
  obtain ⟨count, rfl⟩ := Nat.exists_eq_add_of_lt hcount
  rw [Nat.zero_add, write]
  dsimp only
  split
  · next hdone => exact absurd hdone h
  · rfl

/-- After a password the others follow, from where it left the supply. -/
theorem write_of_done {supply : Supply} (h : (j.writeOne supply).1.ending = .done) (count : Nat) :
    j.write (count + 1) supply =
      (j.writeOne supply).1.followedBy (j.write count (j.writeOne supply).2) := by
  rw [write]
  simp only [h]

/-- Only the first password can fail: the others end as it does. -/
theorem ending_write (j : Job) {count : Nat} (hcount : 0 < count) (supply : Supply) :
    (j.write count supply).ending = (j.writeOne supply).1.ending := by
  by_cases h : (j.writeOne supply).1.ending = .done
  · induction count generalizing supply with
    | zero => exact absurd hcount (Nat.lt_irrefl 0)
    | succ count ih =>
      rw [write_of_done h, h]
      have hnext : (j.writeOne (j.writeOne supply).2).1.ending = .done := by
        rw [ending_writeOne, ← ending_writeOne j supply, h]
      cases count with
      | zero => rfl
      | succ count => exact (ih count.succ_pos _ hnext).trans hnext
  · rw [write_of_not_done h hcount]

/-- Without an obstacle all passwords are written, each of the target length. -/
theorem exists_write_eq (hp : j.policy = .ok p) (ho : p.obstacle? j.mask j.length = none)
    (count : Nat) (supply : Supply) :
    ∃ passwords : List Text, passwords.length = count ∧
      (∀ password ∈ passwords, p.Composes (p.targetLength j.length) password) ∧
      ∃ bounds, j.write count supply = {
        output := passwords.flatMap fun password => password ++ ['\n']
        trace := passwords.flatMap (j.eventsOf p)
        bounds } := by
  induction count generalizing supply with
  | zero => exact ⟨[], rfl, List.forall_mem_nil _, [], rfl⟩
  | succ count ih =>
    obtain ⟨password, first, next, hcomposes, hone⟩ := exists_writeOne_eq hp ho supply
    obtain ⟨passwords, hlength, hall, later, hwrite⟩ := ih next
    refine ⟨password :: passwords, congrArg Nat.succ hlength,
      List.forall_mem_cons.mpr ⟨hcomposes, hall⟩, first ++ later, ?_⟩
    have hdone : (j.writeOne supply).1.ending = .done := by rw [hone]
    rw [write_of_done hdone, hone, hwrite]
    rfl

/-- A job that fails writes nothing and reports the failure. -/
theorem write_of_failure {e : GenerationError} (h : j.failure? = some e) {count : Nat}
    (hcount : 0 < count) (supply : Supply) :
    j.write count supply =
      { trace := j.policy.toOption.toList.map fun p => .parsed j.mask p.toPolicy
        ending := .failed (.generation e) } := by
  have hone := writeOne_of_failure h supply
  rw [write_of_not_done (by rw [hone]; exact nofun) hcount, hone]

end Job

/-- A call of the program that comes to generating passwords, with settings that can be used. -/
structure GenerateCall where
  surroundings : Surroundings
  words : List Text
  /-- The values of the program's own options. -/
  options : Assignment
  request : GenerateRequest
  settings : Settings
  request_eq : Program.request? surroundings words = some (options, .generate request)
  settings_eq : (Program.configuration surroundings options).settings = .ok settings

namespace GenerateCall

/-- What the call does. -/
def outcome (c : GenerateCall) : Outcome := Program.run c.surroundings c.words

/-- The job of the call. -/
def job (c : GenerateCall) : Job := c.request.job c.settings

/-- The number of passwords. -/
def number (c : GenerateCall) : Nat := c.request.number c.settings

/-- Where the draws come from. -/
def supply (c : GenerateCall) : Supply := c.request.supply c.settings c.surroundings.answers

/-- At least one password is asked for. -/
theorem number_pos (c : GenerateCall) : 0 < c.number := by
  rw [number, GenerateRequest.number]
  cases hcount : c.request.count with
  | none => exact c.settings.count_pos
  | some count => exact Program.count_pos_of_request? c.request_eq hcount

/-- A call does what its request does. -/
theorem outcome_eq (c : GenerateCall) : c.outcome = Program.traced c.options
    (c.request.run (Program.context c.surroundings c.options)) :=
  Program.run_of_request? c.request_eq

/-- The request of a call writes what its job comes to. -/
theorem run_eq (c : GenerateCall) :
    c.request.run (Program.context c.surroundings c.options) = c.job.write c.number c.supply := by
  have hsettings : (Program.context c.surroundings c.options).settings = .ok c.settings :=
    c.settings_eq
  simp only [GenerateRequest.run, hsettings]
  rfl

/-- How a call ends depends on its job alone. -/
theorem ending_eq (c : GenerateCall) : c.outcome.ending = c.job.ending := by
  rw [outcome_eq, Program.traced_ending, run_eq, c.job.ending_write c.number_pos,
    Job.ending_writeOne]

end GenerateCall

end Command

end MaskPolicy
