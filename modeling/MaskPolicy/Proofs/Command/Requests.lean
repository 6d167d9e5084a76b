import MaskPolicy.Command.Program
import MaskPolicy.Proofs.Command.Options
import Mathlib.Data.List.Nodup

/-!
# What a call comes to

A call of the program comes to a request to one of its commands, or stops before that. Where it
comes to a request, it does what the command does, and leaves out the trace unless that is asked
for. A check may have to ask for its password first.
-/

namespace MaskPolicy.Command

private theorem CommandName.keys_nodup (c : CommandName) :
    (c.spec.options.map OptionSpec.key).Nodup := by
  cases c <;> decide

/-- An option of a command is known by its key. -/
theorem CommandName.option_eq_of_key_eq (c : CommandName) {o p : OptionSpec}
    (ho : o ∈ c.spec.options) (hp : p ∈ c.spec.options) (h : o.key = p.key) : o = p :=
  List.inj_on_of_nodup_map c.keys_nodup ho hp h

/-- The request to a command is made of the values that are read for the command. -/
theorem CommandName.exists_assignment_of_request {c : CommandName} {lookup : Text → Option Text}
    {files : Text → FileState} {words : List Text} {r : Request}
    (h : c.request lookup files words = .ok r) :
    ∃ b, c.spec.read true lookup files words = .ok b ∧ b.request c = r := by
  unfold request at h
  split at h
  · cases h
  · next b hb =>
    split at h
    · exact ⟨b, hb, Except.ok.inj h⟩
    · cases h

private theorem Assignment.value?_of_int? {a : Assignment} {o : OptionSpec} {n : Int}
    (h : a.int? o = some n) : a.value? o = some (.int n) := by
  unfold int? at h
  split at h
  · next hv =>
    rw [hv, Option.some.inj h]
  · cases h

/-- A number of passwords is at least one. -/
theorem Assignment.one_le_of_int?_countOption {lookup : Text → Option Text}
    {files : Text → FileState} {words : List Text} {mixed : Bool} {a : Assignment}
    (ha : generateSpec.read mixed lookup files words = .ok a) {n : Int}
    (h : a.int? countOption = some n) : 1 ≤ n := by
  obtain ⟨i, o, ho, hkey, hvalue⟩ := exists_option_of_read ha (value?_of_int? h)
  have hcount : countOption ∈ generateSpec.options := by decide
  obtain rfl : o = countOption := CommandName.option_eq_of_key_eq .generate ho hcount hkey
  have hrange := Inputs.inRange_of_value? rfl hvalue
  simpa [inRange] using hrange

namespace Program

/-- What the program hands to a command. -/
def context (s : Surroundings) (a : Assignment) : Context :=
  ⟨some (configuration s a), s.input, s.answers⟩

/-- The values of the program's own options, and the request to a command, that some words come to.
-/
def request? (s : Surroundings) (words : List Text) : Option (Assignment × Request) :=
  match read s words with
  | .error _ => none
  | .ok a =>
    match a.arguments with
    | [] => none
    | name :: rest =>
      match CommandName.ofName? name with
      | none => none
      | some c =>
        match c.request (lookup s [c.spec.name]) s.files rest with
        | .error _ => none
        | .ok r => some (a, r)

/-- The outcome of a command as the program shows it: without its trace unless that is asked for. -/
def traced (a : Assignment) (o : Outcome) : Outcome :=
  if a.isOn debugOption then o else o.untraced

@[simp] theorem traced_output (a : Assignment) (o : Outcome) : (traced a o).output = o.output := by
  unfold traced
  split <;> rfl

@[simp] theorem traced_ending (a : Assignment) (o : Outcome) : (traced a o).ending = o.ending := by
  unfold traced
  split <;> rfl

@[simp] theorem traced_status (a : Assignment) (o : Outcome) : (traced a o).status = o.status := by
  rw [Outcome.status, traced_ending, Outcome.status]

/-- The trace is kept exactly when it is asked for. -/
theorem traced_trace (a : Assignment) (o : Outcome) :
    (traced a o).trace = if a.isOn debugOption then o.trace else [] := by
  unfold traced
  split <;> rfl

variable {s : Surroundings} {words : List Text} {a : Assignment} {r : Request}

/-- Words that come to a request are the options of the program, the name of a command, and words
that the command reads. -/
theorem exists_command_of_request? (h : request? s words = some (a, r)) :
    ∃ (c : CommandName) (rest : List Text), read s words = .ok a ∧
      a.arguments = c.spec.name :: rest ∧
      c.request (lookup s [c.spec.name]) s.files rest = .ok r := by
  unfold request? at h
  split at h
  · cases h
  · next b hread =>
    split at h
    · cases h
    · next name rest harguments =>
      split at h
      · cases h
      · next c hname =>
        split at h
        · cases h
        · next r' hr =>
          cases h
          have hspec := List.find?_some hname
          simp only [decide_eq_true_eq] at hspec
          exact ⟨c, rest, hread, by rw [harguments, hspec], hr⟩

private theorem arguments_of_read_nil (h : read s [] = .ok a) : a.arguments = [] := by
  have hassign : Inputs.assign ⟨⟨[], []⟩, lookup s [], s.files⟩ programSpec = .ok a := h
  obtain ⟨before, after, -, -, rfl⟩ := Inputs.exists_values_of_assign hassign
  rfl

/-- Words that come to the name of a command call the command. -/
theorem run_of_command {c : CommandName} {rest : List Text} (hread : read s words = .ok a)
    (harguments : a.arguments = c.spec.name :: rest) :
    run s words = traced a (c.call (programSpec.name ++ ' ' :: c.spec.name)
      (lookup s [c.spec.name]) s.files (context s a) rest) := by
  have hne : words.isEmpty = false := by
    cases words with
    | nil => exact nomatch (arguments_of_read_nil hread).symm.trans harguments
    | cons _ _ => rfl
  simp only [run, hne, Bool.false_eq_true, if_false, hread, harguments, CommandName.ofName?_name]
  rfl

/-- A call that comes to a request does what the command does. -/
theorem run_of_request? (h : request? s words = some (a, r)) :
    run s words = traced a (r.run (context s a)) := by
  obtain ⟨c, rest, hread, harguments, hr⟩ := exists_command_of_request? h
  rw [run_of_command hread harguments, CommandName.call, hr]

/-- A command is asked for at least one password. -/
theorem count_pos_of_request? {r : GenerateRequest} (h : request? s words = some (a, .generate r))
    {count : Nat} (hcount : r.count = some count) : 0 < count := by
  obtain ⟨c, rest, -, -, hr⟩ := exists_command_of_request? h
  obtain ⟨b, hb, hrequest⟩ := CommandName.exists_assignment_of_request hr
  cases c with
  | generate =>
    obtain rfl := Request.generate.inj hrequest
    obtain ⟨n, hn, rfl⟩ := Option.map_eq_some_iff.mp hcount
    have hpos := Assignment.one_le_of_int?_countOption hb hn
    omega
  | _ => cases hrequest

end Program

namespace ValidateRequest

/-- What is shown until the password of a request is known, and the password. -/
def asked (r : ValidateRequest) (input : Text) : Text × Option Text :=
  match r.password with
  | some password => ([], some password)
  | none => askPassword (inputLines input)

variable {r : ValidateRequest} {c : Context} {shown : Text}

/-- A password that is known is checked. -/
theorem run_of_asked {password : Text} (h : r.asked c.input = (shown, some password)) :
    r.run c = (r.check c password).after shown := by
  cases hpassword : r.password with
  | some given =>
    simp only [asked, hpassword] at h
    cases h
    simp only [run, hpassword]
    rfl
  | none =>
    simp only [asked, hpassword] at h
    simp only [run, hpassword, h]

/-- Without a password there is nothing to check. -/
theorem run_of_not_asked (h : r.asked c.input = (shown, none)) :
    r.run c = { output := shown, ending := .failed .aborted } := by
  cases hpassword : r.password with
  | some given =>
    simp only [asked, hpassword] at h
    cases h
  | none =>
    simp only [asked, hpassword] at h
    simp only [run, hpassword, h]

end ValidateRequest

end MaskPolicy.Command
