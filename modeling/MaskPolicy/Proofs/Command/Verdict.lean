import MaskPolicy.Proofs.Command.Requests
import MaskPolicy.Proofs.Record.Written

/-!
# Calls that check a password

A call that checks a password ends as the outcome of the check says: it is done when nothing is
wrong, it has a status of its own when the password is rejected, and it fails without showing
anything when the mask cannot be used. All of this can be read off the outcome, which always has a
first error where one has to be reported. An outcome that is shown as JSON is read back from it. A
password that is asked for leaves its prompt before the outcome, so that only a call with a password
writes the JSON alone.
-/

namespace MaskPolicy

/-- What the outcome of a check calls for: an exit status and a report. An outcome without details
calls for a report of its first error, so that it needs one. -/
def ValidationResult.verdict? (r : ValidationResult) : Option (Nat × Text) :=
  match r.details with
  | none => r.errors.head?.map fun message => (1, Command.Failure.errorLine message)
  | some _ =>
    if r.isValid then some (0, [])
    else some (65, (Command.Failure.rejected r.errors.length).report)

/-- An outcome is valid exactly when there are no errors. -/
theorem isValid_validate_eq (password : Text) (mask : Json) (entries : List Json) :
    (validate password mask entries).isValid = (validate password mask entries).errors.isEmpty := by
  unfold validate
  split
  · rfl
  · simp [ValidationResult.ofPolicy]

namespace Command

namespace ValidateRequest

private theorem judge_output (r : ValidateRequest) (p : UsablePolicy) (password : Text) :
    (r.judge p password).output = r.display (.ofPolicy p password) := by
  simp only [judge]
  split <;> rfl

private theorem judge_ending (r : ValidateRequest) (p : UsablePolicy) (password : Text) :
    (r.judge p password).ending =
      let result := ValidationResult.ofPolicy p password
      if result.isValid then .done else .failed (.rejected result.errors.length) := by
  simp only [judge]
  split <;> rfl

variable {r : ValidateRequest} {c : Context} {alphabet password : Text}

/-- With a mask that can be used, the password is judged. -/
theorem check_of_parse (halphabet : c.alphabet r.alphabet = .ok alphabet) {p : UsablePolicy}
    (hp : Policy.parse (.str r.mask) (Alphabet.entriesOf alphabet) = .ok p) :
    r.check c password = r.judge p password := by
  simp only [check, halphabet, hp]

/-- With a mask that cannot be used, the error is reported. -/
theorem check_of_unusable (halphabet : c.alphabet r.alphabet = .ok alphabet) {e : MaskError}
    (hp : Policy.parse (.str r.mask) (Alphabet.entriesOf alphabet) = .error e) :
    r.check c password = { trace := [.unchecked r.mask e], ending := .failed (.unusable e) } := by
  simp only [check, halphabet, hp]

end ValidateRequest

private theorem exists_replicate_of_askPassword {lines : List Text} {shown password : Text}
    (h : askPassword lines = (shown, some password)) :
    ∃ n, shown = (List.replicate (n + 1) prompt).flatten := by
  induction lines generalizing shown with
  | nil => exact nomatch (Prod.mk.inj h).2
  | cons line rest ih =>
    unfold askPassword at h
    split at h
    · obtain ⟨n, hn⟩ := ih (Prod.ext rfl (Prod.mk.inj h).2)
      exact ⟨n + 1, (Prod.mk.inj h).1.symm.trans (congrArg (prompt ++ ·) hn)⟩
    · exact ⟨0, (Prod.mk.inj h).1.symm⟩

/-- A call of the program that comes to checking a password, with an alphabet to check it with. -/
structure ValidateCall where
  surroundings : Surroundings
  words : List Text
  /-- The values of the program's own options. -/
  options : Assignment
  request : ValidateRequest
  /-- What is shown until the password is known. -/
  shown : Text
  password : Text
  /-- The alphabet that is given, or else that of the settings. -/
  alphabet : Text
  request_eq : Program.request? surroundings words = some (options, .validate request)
  asked_eq : request.asked surroundings.input = (shown, some password)
  alphabet_eq :
    (Program.context surroundings options).alphabet request.alphabet = .ok alphabet

namespace ValidateCall

/-- What the call does. -/
def outcome (c : ValidateCall) : Outcome := Program.run c.surroundings c.words

/-- The policy of the mask with the alphabet. -/
def policy (c : ValidateCall) : Except MaskError UsablePolicy :=
  Policy.parse (.str c.request.mask) (Alphabet.entriesOf c.alphabet)

/-- The outcome of checking the password. -/
def result (c : ValidateCall) : ValidationResult :=
  validate c.password (.str c.request.mask) (Alphabet.entriesOf c.alphabet)

/-- A call shows what it asks for, and then does what its request does. -/
theorem outcome_eq (c : ValidateCall) : c.outcome = Program.traced c.options
    ((c.request.check (Program.context c.surroundings c.options) c.password).after c.shown) := by
  have hrun : c.request.run (Program.context c.surroundings c.options) =
      (c.request.check (Program.context c.surroundings c.options) c.password).after c.shown :=
    ValidateRequest.run_of_asked c.asked_eq
  rw [outcome, Program.run_of_request? c.request_eq, ← hrun]
  rfl

private theorem shown_of_given {c : ValidateCall} {password : Text}
    (h : c.request.password = some password) : c.shown = [] ∧ c.password = password := by
  have hasked := c.asked_eq
  rw [ValidateRequest.asked, h] at hasked
  exact ⟨(Prod.mk.inj hasked).1.symm, (Option.some.inj (Prod.mk.inj hasked).2).symm⟩

private theorem shown_of_asked {c : ValidateCall} (h : c.request.password = none) :
    ∃ n, c.shown = (List.replicate (n + 1) prompt).flatten := by
  have hasked := c.asked_eq
  rw [ValidateRequest.asked, h] at hasked
  exact exists_replicate_of_askPassword hasked

/-- With a mask that can be used, a call shows the outcome of the check and ends by it. -/
theorem outcome_of_policy {c : ValidateCall} {p : UsablePolicy} (hp : c.policy = .ok p) :
    c.outcome.output = c.shown ++ c.request.display c.result ∧
      c.outcome.ending =
        if c.result.isValid then .done else .failed (.rejected c.result.errors.length) := by
  rw [outcome_eq, Program.traced_output, Program.traced_ending,
    ValidateRequest.check_of_parse c.alphabet_eq hp, result, validate_of_parse hp]
  refine ⟨?_, c.request.judge_ending p c.password⟩
  rw [← c.request.judge_output p c.password]
  rfl

/-- With a mask that cannot be used, a call shows nothing and reports the error. -/
theorem outcome_of_unusable {c : ValidateCall} {e : MaskError} (hp : c.policy = .error e) :
    c.outcome.output = c.shown ∧ c.outcome.ending = .failed (.unusable e) := by
  rw [outcome_eq, Program.traced_output, Program.traced_ending,
    ValidateRequest.check_of_unusable c.alphabet_eq hp]
  exact ⟨List.append_nil _, rfl⟩

/-- With a mask that cannot be used, the outcome of the check is the error alone. -/
theorem result_of_unusable {c : ValidateCall} {e : MaskError} (hp : c.policy = .error e) :
    c.result = .unusable e := by
  rw [result, validate, ← policy, hp]

/-- The exit status of a call. -/
theorem status_eq (c : ValidateCall) : c.outcome.status =
    match c.policy with
    | .error _ => 1
    | .ok _ => if c.result.isValid then 0 else 65 := by
  rw [Outcome.status]
  cases hp : c.policy with
  | error e =>
    rw [(outcome_of_unusable hp).2]
    rfl
  | ok p =>
    rw [(outcome_of_policy hp).2]
    dsimp only
    split <;> rfl

/-- Which exit status a call has. -/
theorem status_iff (c : ValidateCall) :
    (c.outcome.status = 0 ↔ c.result.isValid = true) ∧
    (c.outcome.status = 65 ↔ (∃ p, c.policy = .ok p) ∧ c.result.isValid = false) ∧
    (c.outcome.status = 1 ↔ ∃ e, c.policy = .error e) := by
  rw [status_eq]
  cases hp : c.policy with
  | error e => simp [result_of_unusable hp, ValidationResult.unusable]
  | ok p => cases c.result.isValid <;> simp

/-- The report on a rejected password gives the number of errors. -/
theorem report_of_rejected {c : ValidateCall} (h : c.outcome.status = 65) :
    c.outcome.ending.report = "Error: ".toList ++ ("Password rejected: ".toList ++
      Decimal.ofNat c.result.errors.length ++ " rule(s) violated".toList) ++ ['\n'] := by
  obtain ⟨⟨p, hp⟩, hv⟩ := c.status_iff.2.1.mp h
  rw [(outcome_of_policy hp).2, hv]
  rfl

/-- The outcome of a check tells how the call ends. -/
theorem verdict?_result (c : ValidateCall) :
    c.result.verdict? = some (c.outcome.status, c.outcome.ending.report) := by
  rw [Outcome.status]
  cases hp : c.policy with
  | error e =>
    rw [result_of_unusable hp, (outcome_of_unusable hp).2]
    rfl
  | ok p =>
    have hresult : c.result = .ofPolicy p c.password := validate_of_parse hp c.password
    have hdetails : c.result.details.isSome = true := by
      rw [hresult]
      rfl
    obtain ⟨details, hdetails⟩ := Option.isSome_iff_exists.mp hdetails
    rw [(outcome_of_policy hp).2, ValidationResult.verdict?, hdetails]
    dsimp only
    split <;> rfl

private theorem exists_json_of_policy {c : ValidateCall} {p : UsablePolicy} (hp : c.policy = .ok p)
    (hjson : c.request.asJson = true) : ∃ json v, c.outcome.output = c.shown ++ json ∧
      Json.read? json = some v ∧ ValidationResult.codec.decode v = .ok c.result := by
  have hblank : ∀ x ∈ ['\n'], Json.isSpace x = true := List.forall_mem_singleton.mpr rfl
  obtain ⟨v, hread, hdecode⟩ := Option.map_eq_some_iff.mp
    (ValidationResult.exact_codec.read?_render c.result (some 2) hblank)
  refine ⟨_, v, ?_, hread, hdecode⟩
  rw [(outcome_of_policy hp).1, ValidateRequest.display, hjson]
  rfl

/-- A call that checks a password reflects the outcome of the check. It is done exactly when nothing
is wrong. It has the status of a rejection exactly when the mask can be used and the password is
rejected, and then reports how many errors there are. It fails exactly when the mask cannot be used,
and then shows no outcome and reports the only error. The report stands alone unless a trace is
asked for. JSON that is shown is read back as the outcome, whether the password is accepted or not.
It stands alone when the password is given, and after the prompts when it is asked for. The outcome
alone tells how the call ends, as it never lacks an error that is to be reported. -/
theorem reflects_result (c : ValidateCall) :
    (c.outcome.status = 0 ↔ c.result.isValid = true) ∧
    (c.outcome.status = 65 ↔ (∃ p, c.policy = .ok p) ∧ c.result.isValid = false) ∧
    (c.outcome.status = 1 ↔ ∃ e, c.policy = .error e) ∧
    (c.outcome.status = 65 → c.outcome.errorOutput = c.outcome.trace.flatMap Event.line ++
      ("Error: ".toList ++ ("Password rejected: ".toList ++
        Decimal.ofNat c.result.errors.length ++ " rule(s) violated".toList) ++ ['\n'])) ∧
    (∀ e, c.policy = .error e → c.outcome.output = c.shown ∧ c.result.errors = [e.message] ∧
      c.outcome.errorOutput = c.outcome.trace.flatMap Event.line ++
        ("Error: ".toList ++ e.message ++ ['\n'])) ∧
    (c.options.isOn debugOption = false → c.outcome.trace = []) ∧
    (∀ p, c.policy = .ok p → c.request.asJson = true → ∃ json v,
      c.outcome.output = c.shown ++ json ∧ Json.read? json = some v ∧
        ValidationResult.codec.decode v = .ok c.result) ∧
    (∀ password, c.request.password = some password → c.shown = [] ∧ c.password = password) ∧
    (c.request.password = none → ∃ n, c.shown = (List.replicate (n + 1) prompt).flatten) ∧
    c.result.verdict? = some (c.outcome.status, c.outcome.ending.report) ∧
    c.result.isValid = c.result.errors.isEmpty := by
  obtain ⟨hvalid, hrejected, hunusable⟩ := c.status_iff
  refine ⟨hvalid, hrejected, hunusable, ?_, ?_, ?_, fun p hp => exists_json_of_policy hp,
    fun password => shown_of_given, shown_of_asked, c.verdict?_result, isValid_validate_eq _ _ _⟩
  · intro h
    rw [Outcome.errorOutput, report_of_rejected h]
  · intro e hp
    obtain ⟨houtput, hending⟩ := outcome_of_unusable hp
    have herrors : c.result.errors = [e.message] := by
      rw [result_of_unusable hp]
      rfl
    refine ⟨houtput, herrors, ?_⟩
    rw [Outcome.errorOutput, hending]
    rfl
  · intro hdebug
    rw [outcome_eq, Program.traced_trace, hdebug]
    rfl

/-- A password that is given and breaks two rules of the mask: the output is the JSON alone. -/
theorem reflects_result_given : ∃ c : ValidateCall,
    c.words = ["validate", "--json", "-s", "é!", "00000000104", "!x?"].map String.toList ∧
    c.password = "!x?".toList ∧ (∃ p, c.policy = .ok p) ∧ c.result.isValid = false ∧
    c.outcome.status = 65 ∧
    ∃ v, Json.read? c.outcome.output = some v ∧
      ValidationResult.codec.decode v = .ok c.result := by
  let words : List Text :=
    ["validate", "--json", "-s", "é!", "00000000104", "!x?"].map String.toList
  let c : ValidateCall := {
    surroundings := ⟨[], fun _ => .missing, [], []⟩
    words
    options := ⟨[], words⟩
    request := ⟨"00000000104".toList, some "!x?".toList, some "é!".toList, true⟩
    shown := []
    password := "!x?".toList
    alphabet := "é!".toList
    request_eq := rfl
    asked_eq := rfl
    alphabet_eq := rfl }
  have hpolicy : ∃ p, c.policy = .ok p := ⟨_, rfl⟩
  have hrejected : c.result.isValid = false := by decide
  obtain ⟨-, hstatus, -, -, -, -, hjson, hgiven, -⟩ := c.reflects_result
  obtain ⟨p, hp⟩ := hpolicy
  obtain ⟨json, v, houtput, hread, hdecode⟩ := hjson p hp rfl
  rw [(hgiven _ rfl).1, List.nil_append] at houtput
  exact ⟨c, rfl, rfl, ⟨p, hp⟩, hrejected, hstatus.mpr ⟨⟨p, hp⟩, hrejected⟩, v,
    houtput ▸ hread, hdecode⟩

/-- What starts with the prompt is no JSON. -/
private theorem read?_prompt_append (t : Text) : Json.read? (prompt ++ t) = none := rfl

/-- A password that is asked for and accepted: the prompt stands before the JSON, so that the output
as a whole is no JSON. -/
theorem output_asked_unreadable : ∃ c : ValidateCall,
    c.words = ["validate", "--json", "10000000002"].map String.toList ∧
    c.surroundings.input = "ABC\n".toList ∧ c.request.asJson = true ∧
    (∃ p, c.policy = .ok p) ∧ c.outcome.status = 0 ∧ Json.read? c.outcome.output = none := by
  let words : List Text := ["validate", "--json", "10000000002"].map String.toList
  let c : ValidateCall := {
    surroundings := ⟨[], fun _ => .missing, "ABC\n".toList, []⟩
    words
    options := ⟨[], words⟩
    request := ⟨"10000000002".toList, none, none, true⟩
    shown := prompt
    password := "ABC".toList
    alphabet := defaultAlphabet
    request_eq := rfl
    asked_eq := rfl
    alphabet_eq := rfl }
  have hpolicy : ∃ p, c.policy = .ok p := ⟨_, rfl⟩
  have haccepted : c.result.isValid = true := by decide
  obtain ⟨p, hp⟩ := hpolicy
  have houtput : c.outcome.output = prompt ++ c.request.display c.result := (outcome_of_policy hp).1
  refine ⟨c, rfl, rfl, rfl, ⟨p, hp⟩, c.status_iff.1.mpr haccepted, ?_⟩
  rw [houtput]
  exact read?_prompt_append _

end ValidateCall

end Command

end MaskPolicy
