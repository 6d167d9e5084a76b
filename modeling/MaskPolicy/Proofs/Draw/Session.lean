import MaskPolicy.Proofs.Draw.Schedule

/-!
# Sessions

A session serves requests one after another from one source and goes on when one of them fails.
Whether a request fails is settled by the request alone, and one that fails leaves the source as it
was. So the bounds that are drawn below in a session are the schedules of the requests that got a
password, one after another, whatever the source answers, and a session without the failed requests
gives the others the same passwords.
-/

namespace MaskPolicy

/-- A request for a password: a mask with the entries of its alphabet, and a length if one is
wanted.
-/
structure Request where
  mask : Json
  entries : List Json
  length : Option Int

namespace Request

variable {σ : Type}

/-- The answer to a request from a source in a state, and the next state. -/
def answer (r : Request) (source : Source σ) (state : σ) : Except GenerationError Text × σ :=
  generate source r.mask r.entries r.length state

/-- The bounds of the draws that a password for the request takes, in order. -/
def schedule (r : Request) : List Nat :=
  match Policy.parse r.mask r.entries with
  | .error _ => []
  | .ok p => p.schedule r.length

/-- The error that the request is answered with, if there is one. -/
def failure? (r : Request) : Option GenerationError :=
  match Policy.parse r.mask r.entries with
  | .error e => some (.unusable e)
  | .ok p => p.obstacle? r.mask.plain r.length

/-- A request that fails does so for every source in the same way, and the source stays as it was.
-/
theorem answer_of_failure {r : Request} {e : GenerationError} (h : r.failure? = some e)
    (source : Source σ) (state : σ) : r.answer source state = (.error e, state) := by
  unfold failure? at h
  unfold answer generate
  cases hp : Policy.parse r.mask r.entries with
  | error e' =>
    rw [hp] at h
    obtain rfl := Option.some.inj h
    rfl
  | ok p =>
    rw [hp] at h
    exact UsablePolicy.generate_of_obstacle h source state

/-- A request that nothing lets fail gets a password. -/
theorem isOk_answer_of_no_failure {r : Request} (h : r.failure? = none) (source : Source σ)
    (state : σ) : (r.answer source state).1.isOk = true := by
  unfold failure? at h
  unfold answer generate
  cases hp : Policy.parse r.mask r.entries with
  | error e =>
    rw [hp] at h
    cases h
  | ok p =>
    rw [hp] at h
    simp only [UsablePolicy.generate_of_no_obstacle h]
    rfl

/-- Whether a request gets a password does not depend on the source. -/
theorem isOk_answer (r : Request) (source : Source σ) (state : σ) :
    (r.answer source state).1.isOk = r.failure?.isNone := by
  cases h : r.failure? with
  | none => exact isOk_answer_of_no_failure h source state
  | some e =>
    rw [answer_of_failure h]
    rfl

private theorem state_of_failed {r : Request} {source : Source σ} {state : σ}
    (h : ¬(r.answer source state).1.isOk = true) : (r.answer source state).2 = state := by
  cases hr : r.failure? with
  | none => exact absurd (isOk_answer_of_no_failure hr source state) h
  | some e => rw [answer_of_failure hr]

/-- Answering from a recorded source gives the same, and what is recorded is the schedule of the
request if it gets a password, and nothing otherwise. -/
theorem answer_recording (r : Request) (source : Source σ) (state : σ) (bounds : List Nat) :
    r.answer source.recording (state, bounds) =
      let answered := r.answer source state
      (answered.1, answered.2,
        (if answered.1.isOk then r.schedule.reverse else []) ++ bounds) := by
  unfold answer generate schedule
  cases Policy.parse r.mask r.entries with
  | error e => rfl
  | ok p => exact p.generate_recording source r.mask.plain r.length state bounds

example : (Request.mk (.str "12130000004".toList) [] none).schedule = [52, 52, 4, 3, 2] := rfl

end Request

variable {σ : Type}

/-- Serve requests one after another from a source, and give all their answers. -/
def serve (source : Source σ) : List Request → σ → List (Except GenerationError Text) × σ
  | [], state => ([], state)
  | r :: requests, state =>
    let (answer, state) := r.answer source state
    let (answers, state) := serve source requests state
    (answer :: answers, state)

/-- The requests of a session that got a password, each with its answer. -/
def fulfilled (source : Source σ) (requests : List Request) (state : σ) :
    List (Request × Except GenerationError Text) :=
  (requests.zip (serve source requests state).1).filter fun s => s.2.isOk

private theorem fulfilled_cons_of_ok {source : Source σ} {r : Request} {state : σ}
    (h : (r.answer source state).1.isOk = true) (requests : List Request) :
    fulfilled source (r :: requests) state =
      (r, (r.answer source state).1) :: fulfilled source requests (r.answer source state).2 := by
  rw [fulfilled, serve, List.zip_cons_cons]
  exact List.filter_cons_of_pos h

private theorem fulfilled_cons_of_failed {source : Source σ} {r : Request} {state : σ}
    (h : ¬(r.answer source state).1.isOk = true) (requests : List Request) :
    fulfilled source (r :: requests) state = fulfilled source requests state := by
  rw [fulfilled, serve, List.zip_cons_cons, Request.state_of_failed h]
  exact List.filter_cons_of_neg h

/-- The fulfilled requests are those that do not fail, whatever the source. -/
theorem map_fst_fulfilled (source : Source σ) (requests : List Request) (state : σ) :
    (fulfilled source requests state).map Prod.fst =
      requests.filter fun r => r.failure?.isNone := by
  induction requests generalizing state with
  | nil => rfl
  | cons r requests ih =>
    have hr := r.isOk_answer source state
    by_cases hok : (r.answer source state).1.isOk = true
    · have hkeep : r.failure?.isNone = true := hr.symm.trans hok
      simp only [fulfilled_cons_of_ok hok, List.map_cons, ih, List.filter_cons, if_pos hkeep]
    · have hdrop : ¬r.failure?.isNone = true := by rwa [← hr]
      simp only [fulfilled_cons_of_failed hok, ih, List.filter_cons, if_neg hdrop]

/-- A session from a recorded source gives the same answers, and what is recorded are the schedules
of the fulfilled requests. -/
theorem serve_recording (source : Source σ) (requests : List Request) (state : σ)
    (bounds : List Nat) :
    serve source.recording requests (state, bounds) =
      ((serve source requests state).1, (serve source requests state).2,
        (((fulfilled source requests state).map Prod.fst).flatMap Request.schedule).reverse ++
          bounds) := by
  induction requests generalizing state bounds with
  | nil => rfl
  | cons r requests ih =>
    simp only [serve, r.answer_recording, ih]
    by_cases hok : (r.answer source state).1.isOk = true
    · simp only [fulfilled_cons_of_ok hok, hok, if_true, List.map_cons, List.flatMap_cons,
        List.reverse_append, List.append_assoc]
    · simp only [fulfilled_cons_of_failed hok, Request.state_of_failed hok, if_neg hok,
        List.nil_append]

/-- A session without the requests that failed gives the others the same answers, and leaves the
source in the same state. -/
theorem serve_fulfilled (source : Source σ) (requests : List Request) (state : σ) :
    serve source ((fulfilled source requests state).map Prod.fst) state =
      ((fulfilled source requests state).map Prod.snd, (serve source requests state).2) := by
  induction requests generalizing state with
  | nil => rfl
  | cons r requests ih =>
    by_cases hok : (r.answer source state).1.isOk = true
    · simp only [fulfilled_cons_of_ok hok, List.map_cons, serve, ih]
    · simp only [fulfilled_cons_of_failed hok, serve, Request.state_of_failed hok, ih]

/-- In a session the bounds drawn below are, in order, the schedules of the requests that get a
password. They are the same whatever the source answers, and leaving out the requests that fail
changes no other answer. -/
theorem serve_draws (source : Source σ) (requests : List Request) (state : σ) :
    serve source.recording requests (state, []) =
      ((serve source requests state).1, (serve source requests state).2,
        (((fulfilled source requests state).map Prod.fst).flatMap Request.schedule).reverse) ∧
    (∀ (τ : Type) (source' : Source τ) (state' : τ),
      (serve source'.recording requests (state', [])).2.2 =
        (serve source.recording requests (state, [])).2.2) ∧
    serve source ((fulfilled source requests state).map Prod.fst) state =
      ((fulfilled source requests state).map Prod.snd, (serve source requests state).2) := by
  refine ⟨?_, ?_, serve_fulfilled source requests state⟩
  · rw [serve_recording, List.append_nil]
  · intro τ source' state'
    rw [serve_recording, serve_recording, map_fst_fulfilled, map_fst_fulfilled]

end MaskPolicy
