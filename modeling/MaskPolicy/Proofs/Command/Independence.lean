import MaskPolicy.Proofs.Command.Requests

/-!
# Calls that do without the configuration

A command looks for the settings only when it needs them. A call that does without them is the same
whatever the configuration file holds and whatever the variables of the settings are. A call that
needs them fails when they cannot be used, and then shows no result.
-/

namespace MaskPolicy

/-- Is a variable, named in any letter case, one of a setting? -/
def Settings.isVariable (name : Text) : Bool :=
  fields.names.any fun field => Text.lower name = variablePrefix ++ field

namespace Command

/-- Two surroundings that differ in nothing but what files hold and the variables of settings. -/
structure Surroundings.SameButSettings (s s' : Surroundings) : Prop where
  environment : (s'.environment.filter fun e => !Settings.isVariable e.1) =
    s.environment.filter fun e => !Settings.isVariable e.1
  files : ∀ path, (s'.files path).emptied = (s.files path).emptied
  input : s'.input = s.input
  answers : s'.answers = s.answers

/-- Does a command need the settings for a request? -/
def Request.needsSettings : Request → Bool
  | describe r => r.alphabet.isNone
  | encode _ => false
  | generate _ => true
  | validate r => r.alphabet.isNone

/-- A request that does without settings is served the same way whatever they are. -/
theorem Request.run_congr {r : Request} (h : r.needsSettings = false) {c c' : Context}
    (hinput : c'.input = c.input) : r.run c' = r.run c := by
  have hgiven : ∀ {given : Option Text}, given.isNone = false →
      c'.alphabet given = c.alphabet given := by
    intro given hsome
    cases given with
    | none => cases hsome
    | some alphabet => rfl
  cases r with
  | describe r => simp only [run, DescribeRequest.run, hgiven h]
  | encode r => rfl
  | generate r => cases h
  | validate r => simp only [run, ValidateRequest.run, ValidateRequest.check, hgiven h, hinput]

private theorem Configuration.status_of_error {configuration : Configuration} {e : Ending}
    (h : configuration.settings = .error e) : e.status = 1 := by
  unfold settings at h
  split at h
  · cases h
  · cases h
    rfl
  · cases h
    rfl

variable {c : Context} {e : Ending}

private theorem Context.alphabet_none (he : c.settings = .error e) :
    c.alphabet none = .error e := by
  rw [alphabet, he]
  rfl

/-- A description with the alphabet of the settings fails without settings. -/
theorem DescribeRequest.run_of_no_settings {r : DescribeRequest} (hr : r.alphabet = none)
    (he : c.settings = .error e) : r.run c = .ofEnding e := by
  simp only [run, hr, Context.alphabet_none he]

/-- A check with the alphabet of the settings shows nothing but its prompts without settings. -/
theorem ValidateRequest.run_of_no_settings {r : ValidateRequest} (hr : r.alphabet = none)
    (he : c.settings = .error e) (hstatus : e.status = 1) :
    (r.run c).status = 1 ∧ (r.run c).output = (r.asked c.input).1 := by
  cases hasked : r.asked c.input with
  | mk shown password =>
    cases password with
    | none =>
      rw [run_of_not_asked hasked]
      exact ⟨rfl, rfl⟩
    | some password =>
      rw [run_of_asked hasked]
      simp only [check, hr, Context.alphabet_none he]
      exact ⟨hstatus, List.append_nil shown⟩

namespace Program

private theorem isVariable_programSpec : ∀ o ∈ programSpec.options,
    Settings.isVariable (variableName [o.key]) = false := by
  decide

private theorem isVariable_command (c : CommandName) : ∀ o ∈ c.spec.options,
    Settings.isVariable (variableName [c.spec.name, o.key]) = false := by
  cases c <;> decide

private theorem variableOf_filter {names : List Text}
    (h : Settings.isVariable (variableName names) = false) (environment : Environment) :
    variableOf (environment.filter fun e => !Settings.isVariable e.1) names =
      variableOf environment names := by
  have hkept : ∀ e : Text × Text, (!Settings.isVariable e.1 && decide (e.1 = variableName names)) =
      decide (e.1 = variableName names) := by
    intro e
    by_cases he : e.1 = variableName names
    · simp [he, h]
    · simp [he]
  simp only [variableOf, List.find?_filter, Bool.decide_and, Bool.decide_eq_true, hkept]

variable {s s' : Surroundings}

/-- A variable that is none of a setting has the same value. -/
theorem variableOf_congr (hs : s.SameButSettings s') {names : List Text}
    (h : Settings.isVariable (variableName names) = false) :
    variableOf s'.environment names = variableOf s.environment names := by
  rw [← variableOf_filter h, hs.environment, variableOf_filter h]

/-- The options of the program are read in the same way. -/
theorem read_congr (hs : s.SameButSettings s') (words : List Text) : read s' words = read s words :=
  CommandSpec.read_congr (fun o ho => variableOf_congr hs (isVariable_programSpec o ho)) hs.files
    false words

/-- Words make the same request to a command. -/
theorem request_congr (hs : s.SameButSettings s') (c : CommandName) (words : List Text) :
    c.request (lookup s' [c.spec.name]) s'.files words =
      c.request (lookup s [c.spec.name]) s.files words := by
  have hlookup : ∀ o ∈ c.spec.options,
      lookup s' [c.spec.name] o.key = lookup s [c.spec.name] o.key :=
    fun o ho => variableOf_congr hs (isVariable_command c o ho)
  rw [CommandName.request, CommandName.request, CommandSpec.read_congr hlookup hs.files]

/-- A call does the same when the request that it comes to is served in the same way. -/
theorem run_congr (hs : s.SameButSettings s') {words : List Text}
    (hrun : ∀ a r, request? s words = some (a, r) → r.run (context s' a) = r.run (context s a)) :
    run s' words = run s words := by
  unfold run
  rw [read_congr hs]
  split
  · rfl
  · split
    · rfl
    · next a hread =>
      split
      · rfl
      · next name rest harguments =>
        split
        · next c hname =>
          simp only [callWith, CommandName.call, request_congr hs]
          cases hr : c.request (lookup s [c.spec.name]) s.files rest with
          | error stop => rfl
          | ok r =>
            have hrequest : request? s words = some (a, r) := by
              simp only [request?, hread, harguments, hname, hr]
            have hsame := hrun a r hrequest
            rw [context, context] at hsame
            simp only [hsame]
        · simp only [unknown, read_congr hs]

/-- A call that does without settings is the same, in its output, its report and its exit status,
whatever the configuration file holds and whatever the variables of the settings are. A check or a
description for which no alphabet is given fails when the settings cannot be used, and shows no
result. -/
theorem independent_of_settings (s : Surroundings) (words : List Text) :
    (∀ s', s.SameButSettings s' →
      (∀ a r, request? s words = some (a, r) → r.needsSettings = false) →
        run s' words = run s words) ∧
    ∀ a e, (configuration s a).settings = .error e →
      (∀ r, request? s words = some (a, .validate r) → r.alphabet = none →
        (run s words).status = 1 ∧ (run s words).output = (r.asked s.input).1) ∧
      (∀ r, request? s words = some (a, .describe r) → r.alphabet = none →
        (run s words).status = 1 ∧ (run s words).output = []) := by
  refine ⟨?_, ?_⟩
  · intro s' hs hneeds
    exact run_congr hs fun a r hr => Request.run_congr (hneeds a r hr) hs.input
  · intro a e he
    have hsettings : (context s a).settings = .error e := he
    have hstatus := Configuration.status_of_error he
    refine ⟨?_, ?_⟩
    · intro r hr halphabet
      rw [run_of_request? hr, traced_status, traced_output]
      exact r.run_of_no_settings halphabet hsettings hstatus
    · intro r hr halphabet
      rw [run_of_request? hr, traced_status, traced_output, Request.run,
        r.run_of_no_settings halphabet hsettings]
      exact ⟨hstatus, rfl⟩

/-- A variable that asks for zero passwords keeps a check from its settings, but not a check that is
given an alphabet, even an empty one; nor does it matter to that what the file holds. -/
theorem independent_of_settings_zero :
    let s : Surroundings := ⟨[("password_mask_DEFAULT_COUNT".toList, "0".toList)],
      fun _ => .file [45, 32, 49], [], []⟩
    let s' : Surroundings := ⟨[], fun _ => .file [], [], []⟩
    let given := ["-c", "c.yml", "validate", "-s", "", "00000000001", "a"].map String.toList
    let missing := ["validate", "00000000001", "a"].map String.toList
    s.SameButSettings s' ∧ run s' given = run s given ∧ (run s missing).status = 1 ∧
      (run s missing).output = [] := by
  intro s s' given missing
  have hsame : s.SameButSettings s' := ⟨by decide, fun _ => rfl, rfl, rfl⟩
  have hgiven : ∃ a, request? s given = some (a, .validate ⟨"00000000001".toList,
    some ['a'], some [], false⟩) := ⟨_, rfl⟩
  have hmissing : ∃ a, request? s missing = some (a, .validate ⟨"00000000001".toList,
    some ['a'], none, false⟩) ∧ ∃ e, (configuration s a).settings = .error e := ⟨_, rfl, _, rfl⟩
  refine ⟨hsame, ?_, ?_⟩
  · refine (independent_of_settings s given).1 s' hsame ?_
    intro a' r' hr'
    obtain ⟨a, hr⟩ := hgiven
    obtain ⟨-, rfl⟩ := Prod.mk.inj (Option.some.inj (hr.symm.trans hr'))
    rfl
  · obtain ⟨a, hr, e, he⟩ := hmissing
    exact ((independent_of_settings s missing).2 a e he).1 _ hr rfl

end Program

end Command

end MaskPolicy
