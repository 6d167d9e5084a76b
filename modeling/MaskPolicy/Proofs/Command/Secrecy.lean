import MaskPolicy.Proofs.Command.Generation
import MaskPolicy.Proofs.Command.Verdict

/-!
# What traces tell about passwords

The trace of a check and the report after it are made of the mask, its policy, the length of the
password and the number of errors. Those of generated passwords are made of the mask, its policy,
the length and the number of passwords. So two calls that agree on this cannot be told apart by what
they write beside their outputs, whatever their passwords are.
-/

namespace MaskPolicy.Command

private theorem Outcome.errorOutput_congr {o o' : Outcome} (htrace : o.trace = o'.trace)
    (hending : o.ending = o'.ending) : o.errorOutput = o'.errorOutput := by
  rw [errorOutput, errorOutput, htrace, hending]

/-- What the trace of a check is made of: the mask, its policy, the length of the password and the
number of errors. -/
def checkTrace (mask : Text) (policy : Except MaskError UsablePolicy) (length violations : Nat) :
    List Event :=
  match policy with
  | .error e => [.unchecked mask e]
  | .ok p =>
    [.parsed mask p.toPolicy, .validated length mask violations] ++
      if violations = 0 then [] else [.rejected violations]

/-- What the ending of a check is made of: the policy of the mask and the number of errors. -/
def checkEnding (policy : Except MaskError UsablePolicy) (violations : Nat) : Ending :=
  match policy with
  | .error e => .failed (.unusable e)
  | .ok _ => if violations = 0 then .done else .failed (.rejected violations)

private theorem ValidateRequest.judge_trace (r : ValidateRequest) (p : UsablePolicy)
    (password : Text) :
    (r.judge p password).trace = checkTrace r.mask (.ok p) password.length
      (ValidationResult.ofPolicy p password).errors.length := by
  simp only [judge, checkTrace, ValidationResult.ofPolicy, List.length_map, List.isEmpty_iff,
    List.length_eq_zero_iff]
  split <;> rfl

namespace ValidateCall

/-- The trace of a check, if it is asked for. -/
theorem trace_eq (c : ValidateCall) : c.outcome.trace =
    if c.options.isOn debugOption then
      checkTrace c.request.mask c.policy c.password.length c.result.errors.length
    else [] := by
  rw [outcome_eq, Program.traced_trace]
  congr 1
  cases hp : c.policy with
  | error e =>
    rw [ValidateRequest.check_of_unusable c.alphabet_eq hp]
    rfl
  | ok p =>
    have hresult : c.result = .ofPolicy p c.password := validate_of_parse hp c.password
    rw [ValidateRequest.check_of_parse c.alphabet_eq hp, hresult]
    exact c.request.judge_trace p c.password

/-- The ending of a check. -/
theorem ending_eq (c : ValidateCall) :
    c.outcome.ending = checkEnding c.policy c.result.errors.length := by
  cases hp : c.policy with
  | error e => exact (outcome_of_unusable hp).2
  | ok p =>
    have hvalid : c.result.isValid = true ↔ c.result.errors.length = 0 := by
      rw [result, isValid_validate_eq, List.isEmpty_iff, List.length_eq_zero_iff]
    simp only [(outcome_of_policy hp).2, checkEnding, hvalid]

end ValidateCall

/-- What the trace of generated passwords is made of: the job, whose policy and length are those of
the passwords, and their number. -/
def Job.trace (j : Job) (number : Nat) : List Event :=
  match j.policy with
  | .error _ => []
  | .ok p =>
    match p.obstacle? j.mask j.length with
    | some _ => [.parsed j.mask p.toPolicy]
    | none =>
      (List.replicate number
        [.parsed j.mask p.toPolicy,
          .generated (p.targetLength j.length).toNat j.mask p.required.length]).flatten

private theorem Job.flatMap_eventsOf (j : Job) (p : UsablePolicy) {passwords : List Text}
    {length : Nat} (h : ∀ password ∈ passwords, password.length = length) :
    passwords.flatMap (j.eventsOf p) =
      (List.replicate passwords.length
        [.parsed j.mask p.toPolicy, .generated length j.mask p.required.length]).flatten := by
  have hevents : ∀ password ∈ passwords, j.eventsOf p password =
      [.parsed j.mask p.toPolicy, .generated length j.mask p.required.length] := by
    intro password hpassword
    rw [eventsOf, h password hpassword]
  rw [List.flatMap_def, List.map_congr_left hevents, List.map_const']

/-- What is drawn leaves no trace of its own. -/
theorem Job.trace_write (j : Job) {number : Nat} (hnumber : 0 < number) (supply : Supply) :
    (j.write number supply).trace = j.trace number := by
  unfold trace
  split
  · next e hp =>
    have hfailure : j.failure? = some (.unusable e) := by rw [failure?, hp]
    rw [write_of_failure hfailure hnumber, hp]
    rfl
  · next p hp =>
    split
    · next e he =>
      have hfailure : j.failure? = some e := by
        rw [failure?, hp]
        exact he
      rw [write_of_failure hfailure hnumber, hp]
      rfl
    · next ho =>
      obtain ⟨passwords, hcount, hcomposes, bounds, hwrite⟩ := exists_write_eq hp ho number supply
      have hlength : ∀ password ∈ passwords,
          password.length = (p.targetLength j.length).toNat := by
        intro password hpassword
        have := (hcomposes password hpassword).length_eq
        omega
      rw [hwrite, ← hcount]
      exact j.flatMap_eventsOf p hlength

/-- The trace of generated passwords, if it is asked for. -/
theorem GenerateCall.trace_eq (c : GenerateCall) : c.outcome.trace =
    if c.options.isOn debugOption then c.job.trace c.number else [] := by
  rw [outcome_eq, Program.traced_trace, run_eq, c.job.trace_write c.number_pos]

/-- What calls write beside their outputs gives no password away. Of two checks of passwords of the
same length with the same number of errors, against the same mask with the same alphabet, neither
the traces nor the reports differ, and of two calls that generate as many passwords for the same job
neither do, whatever is drawn. -/
theorem trace_hides_passwords :
    (∀ c c' : ValidateCall, c'.options.isOn debugOption = c.options.isOn debugOption →
      c'.request.mask = c.request.mask → c'.alphabet = c.alphabet →
      c'.password.length = c.password.length →
      c'.result.errors.length = c.result.errors.length →
      c'.outcome.trace = c.outcome.trace ∧ c'.outcome.errorOutput = c.outcome.errorOutput) ∧
    (∀ c c' : GenerateCall, c'.options.isOn debugOption = c.options.isOn debugOption →
      c'.job = c.job → c'.number = c.number →
      c'.outcome.trace = c.outcome.trace ∧ c'.outcome.errorOutput = c.outcome.errorOutput) := by
  constructor
  · intro c c' hdebug hmask halphabet hlength herrors
    have hpolicy : c'.policy = c.policy := by
      rw [ValidateCall.policy, ValidateCall.policy, hmask, halphabet]
    have htrace : c'.outcome.trace = c.outcome.trace := by
      rw [c'.trace_eq, c.trace_eq, hdebug, hmask, hpolicy, hlength, herrors]
    have hending : c'.outcome.ending = c.outcome.ending := by
      rw [c'.ending_eq, c.ending_eq, hpolicy, herrors]
    exact ⟨htrace, Outcome.errorOutput_congr htrace hending⟩
  · intro c c' hdebug hjob hnumber
    have htrace : c'.outcome.trace = c.outcome.trace := by
      rw [c'.trace_eq, c.trace_eq, hdebug, hjob, hnumber]
    have hending : c'.outcome.ending = c.outcome.ending := by
      rw [c'.ending_eq, c.ending_eq, hjob]
    exact ⟨htrace, Outcome.errorOutput_congr htrace hending⟩

/-- Two rejected passwords, one given and one asked for, and the first passwords of two seeds, with
traces that are asked for. -/
theorem trace_hides_passwords_rejected :
    (∃ c c' : ValidateCall, c.options.isOn debugOption = true ∧ c.password = "!x?".toList ∧
      c'.password = "éab".toList ∧ c.result.errors.length = 3 ∧
      c'.outcome.trace = c.outcome.trace ∧ c'.outcome.errorOutput = c.outcome.errorOutput) ∧
    ∃ c c' : GenerateCall, c.options.isOn debugOption = true ∧ c.request.seed = some 5 ∧
      c'.request.seed = some 6 ∧
      c'.outcome.trace = c.outcome.trace ∧ c'.outcome.errorOutput = c.outcome.errorOutput := by
  have hidden := trace_hides_passwords
  constructor
  · let words : List Text := ["validate", "-s", "é!", "00000000104", "!x?"].map String.toList
    let words' : List Text := ["validate", "-s", "é!", "00000000104"].map String.toList
    let c : ValidateCall := {
      surroundings := ⟨[], fun _ => .missing, [], []⟩
      words := "-D".toList :: words
      options := ⟨[("debug".toList, .switch true)], words⟩
      request := ⟨"00000000104".toList, some "!x?".toList, some "é!".toList, false⟩
      shown := []
      password := "!x?".toList
      alphabet := "é!".toList
      request_eq := rfl
      asked_eq := rfl
      alphabet_eq := rfl }
    let c' : ValidateCall := {
      surroundings := ⟨[], fun _ => .missing, "éab\n".toList, []⟩
      words := "-D".toList :: words'
      options := ⟨[("debug".toList, .switch true)], words'⟩
      request := ⟨"00000000104".toList, none, some "é!".toList, false⟩
      shown := prompt
      password := "éab".toList
      alphabet := "é!".toList
      request_eq := rfl
      asked_eq := rfl
      alphabet_eq := rfl }
    have herrors : c.result.errors.length = 3 := by decide
    have hsame : c'.result.errors.length = c.result.errors.length := by decide
    exact ⟨c, c', rfl, rfl, rfl, herrors, hidden.1 c c' rfl rfl rfl rfl hsame⟩
  · let words : List Text := ["generate", "11111111118", "--seed", "5"].map String.toList
    let words' : List Text := ["generate", "11111111118", "--seed", "6"].map String.toList
    let c : GenerateCall := {
      surroundings := ⟨[], fun _ => .missing, [], []⟩
      words := "-D".toList :: words
      options := ⟨[("debug".toList, .switch true)], words⟩
      request := ⟨"11111111118".toList, none, none, none, some 5⟩
      settings := ⟨defaultAlphabet, by decide, true, 1, by decide⟩
      request_eq := rfl
      settings_eq := rfl }
    let c' : GenerateCall := {
      surroundings := ⟨[], fun _ => .missing, [], []⟩
      words := "-D".toList :: words'
      options := ⟨[("debug".toList, .switch true)], words'⟩
      request := ⟨"11111111118".toList, none, none, none, some 6⟩
      settings := ⟨defaultAlphabet, by decide, true, 1, by decide⟩
      request_eq := rfl
      settings_eq := rfl }
    exact ⟨c, c', rfl, rfl, rfl, hidden.2 c c' rfl rfl rfl⟩

end MaskPolicy.Command
