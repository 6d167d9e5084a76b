import Mathlib.Algebra.Group.Int.Defs
import MaskPolicy.Proofs.Calls
import MaskPolicy.Proofs.Password.Observation

/-!
# Masks that cannot be used

A mask that cannot be parsed is refused by checks, descriptions and generations alike, each in its
own way, and nothing else is refused like this. The message alone tells which kind of error it is,
so that a check or a description, which only shows the message, reports the error as completely as a
generation does. All of this takes a message: an entry with an integer of too many digits is refused
by parsing and by generations, while checks and descriptions break off. Checks and descriptions of
masks that can be parsed never fail.
-/

namespace MaskPolicy

namespace MaskError

/-- What an error about a mask reports: the kind of fault and its message. -/
def report (e : MaskError) : FaultKind × Except TemplateError Text := (e.kind, e.fault.message)

private theorem kind_eq_of_message (e : MaskError) :
    e.kind = if e.message.head? = some 'M' then .malformedMask else .invalidSpecialAlphabet := by
  cases e <;> rfl

private theorem message_eq_of_fault_message {e : MaskError} {text : Text}
    (h : e.fault.message = .ok text) : e.message = text := by
  by_cases hw : e.fault.Writable
  · exact Except.ok.inj ((message_of_writable hw).symm.trans h)
  · exact nomatch (message_of_not_writable hw).symm.trans h

/-- An error reports the same as one with a message exactly when it has the message. -/
theorem report_eq_iff {e e' : MaskError} {text : Text} (h : e.fault.message = .ok text) :
    e'.report = e.report ↔ e'.fault.message = .ok text := by
  constructor
  · intro hreport
    exact (congrArg Prod.snd hreport).trans h
  · intro h'
    have hkind : e'.kind = e.kind := by
      rw [kind_eq_of_message, kind_eq_of_message, message_eq_of_fault_message h,
        message_eq_of_fault_message h']
    exact Prod.ext hkind (h'.trans h.symm)

private theorem parent_kind (e : MaskError) : e.kind.parent? = some .mask := by
  cases e <;> rfl

end MaskError

/-- A mask with an alphabet is refused for an error when parsing them fails with one that reports
the same. -/
def Refused (mask alphabet : Json) (e : MaskError) : Prop :=
  ∃ e', Policy.parse? mask alphabet = .ok (.error e') ∧ e'.report = e.report

variable {mask alphabet : Json} {e : MaskError} {text : Text}

private theorem refused_iff_of_error (h : e.fault.message = .ok text) {e' : MaskError}
    (hp : Policy.parse? mask alphabet = .ok (.error e')) :
    Refused mask alphabet e ↔ e'.fault.message = .ok text := by
  rw [← MaskError.report_eq_iff h]
  constructor
  · rintro ⟨found, hfound, hreport⟩
    obtain rfl : e' = found := Except.error.inj (Except.ok.inj (hp.symm.trans hfound))
    exact hreport
  · intro hreport
    exact ⟨e', hp, hreport⟩

private theorem not_refused_of_ok {p : UsablePolicy}
    (hp : Policy.parse? mask alphabet = .ok (.ok p)) : ¬Refused mask alphabet e := by
  rintro ⟨found, hfound, -⟩
  exact nomatch hp.symm.trans hfound

private theorem not_refused_of_breakdown {b : Breakdown}
    (hp : Policy.parse? mask alphabet = .error b) : ¬Refused mask alphabet e := by
  rintro ⟨found, hfound, -⟩
  exact nomatch hp.symm.trans hfound

private theorem map_message?_eq_ok_iff {α : Type} {f : Text → α}
    (hf : ∀ s t, f s = f t → s = t) {fault : Fault} :
    fault.message?.map f = .ok (f text) ↔ fault.message = .ok text := by
  rw [Fault.message?]
  cases fault.message with
  | error te => exact ⟨nofun, nofun⟩
  | ok s =>
    constructor
    · intro h
      exact congrArg Except.ok (hf s text (Except.ok.inj h))
    · intro h
      rw [Except.ok.inj h]
      rfl

/-- A check gives no details and the message of an error alone exactly when the mask is refused for
the error. -/
theorem refused_iff_validate? (h : e.fault.message = .ok text) (password : Text) :
    Refused mask alphabet e ↔
      validate? (some password) mask alphabet = .ok ⟨false, [text], none⟩ := by
  cases hp : Policy.parse? mask alphabet with
  | error b =>
    rw [iff_false_left (not_refused_of_breakdown hp), validate?, hp]
    intro h
    cases h
  | ok parsed =>
    cases parsed with
    | error e' =>
      have hinj (s t : Text) : ValidationResult.mk false [s] none = ⟨false, [t], none⟩ → s = t := by
        simp
      rw [refused_iff_of_error h hp, validate?_of_error hp]
      exact (map_message?_eq_ok_iff hinj).symm
    | ok p =>
      rw [iff_false_left (not_refused_of_ok hp), validate?_of_ok hp]
      intro hv
      cases (ValidationResult.mk.inj (Except.ok.inj hv)).2.2

/-- A description is empty but for the message of an error exactly when the mask is refused for the
error. -/
theorem refused_iff_describe? (h : e.fault.message = .ok text) :
    Refused mask alphabet e ↔ describe? mask alphabet = .ok ⟨[], [], 0, [], some text⟩ := by
  cases hp : Policy.parse? mask alphabet with
  | error b =>
    rw [iff_false_left (not_refused_of_breakdown hp), describe?, hp]
    intro h
    cases h
  | ok parsed =>
    cases parsed with
    | error e' =>
      have hinj : ∀ s t : Text,
          MaskDescription.mk [] [] 0 [] (some s) = ⟨[], [], 0, [], some t⟩ → s = t := by simp
      rw [refused_iff_of_error h hp, describe?_of_error hp]
      exact (map_message?_eq_ok_iff hinj).symm
    | ok p =>
      rw [iff_false_left (not_refused_of_ok hp), describe?_of_ok hp]
      intro hd
      cases (MaskDescription.mk.inj (Except.ok.inj hd)).2.2.2.2

/-- A generation fails with what an error about the mask reports exactly when the mask is refused
for the error, and then draws nothing. -/
theorem refused_iff_generate? {σ : Type} (source : Source σ) (requested : Option Int) (state : σ) :
    Refused mask alphabet e ↔
      ∃ g, generate? source.recording mask alphabet requested (state, []) =
          (.ok (.error g), state, []) ∧ g.report = e.report := by
  constructor
  · rintro ⟨e', hp, hreport⟩
    exact ⟨.unusable e', generate?_of_error hp _ _ _, hreport⟩
  · rintro ⟨g, hg, hreport⟩
    cases hp : Policy.parse? mask alphabet with
    | error b =>
      rw [generate?, hp] at hg
      cases congrArg Prod.fst hg
    | ok parsed =>
      cases parsed with
      | error e' =>
        rw [generate?_of_error hp] at hg
        obtain rfl : .unusable e' = g := Except.error.inj (Except.ok.inj (congrArg Prod.fst hg))
        exact ⟨e', hp, hreport⟩
      | ok p =>
        -- The kinds of faults tell the two apart: a policy only fails with faults of generation.
        rw [generate?_of_ok hp] at hg
        have hgeneration :=
          UsablePolicy.parent_kind_of_generate (Except.ok.inj (congrArg Prod.fst hg))
        have hkind : g.kind = e.kind := congrArg Prod.fst hreport
        rw [hkind, e.parent_kind] at hgeneration
        cases hgeneration

/-- Checks, descriptions and generations agree on the masks that cannot be used. The three show an
error about a mask, each in its own way, exactly for the masks that are refused for the error; a
generation then fails with the very error of parsing and draws nothing. Checks and descriptions of a
mask that can be parsed show no error and do not break off. Every error has a message to be shown
when the mask and the entries of the alphabet can be written, that is, when no integer in them has
too many digits. An error without one still is what parsing and generations report, and breaks off
checks and descriptions. -/
theorem refused_alike (mask alphabet : Json) (password : Text) {σ : Type} (source : Source σ)
    (requested : Option Int) (state : σ) :
    (∀ entries, mask.writable = true → alphabet.elements? = some entries →
      (∀ x ∈ entries, x.writable = true) →
        ∃ parsed, Policy.parse? mask alphabet = .ok parsed ∧
          ∀ e, parsed = .error e → e.fault.message = .ok e.message) ∧
    (∀ (e : MaskError) (text : Text), e.fault.message = .ok text →
      (Refused mask alphabet e ↔
        validate? (some password) mask alphabet = .ok ⟨false, [text], none⟩) ∧
      (Refused mask alphabet e ↔ describe? mask alphabet = .ok ⟨[], [], 0, [], some text⟩) ∧
      (Refused mask alphabet e ↔
        ∃ g, generate? source.recording mask alphabet requested (state, []) =
          (.ok (.error g), state, []) ∧ g.report = e.report)) ∧
    (∀ e, Policy.parse? mask alphabet = .ok (.error e) →
      generate? source.recording mask alphabet requested (state, []) =
          (.ok (.error (.unusable e)), state, []) ∧
        ∀ te, e.fault.message = .error te →
          validate? (some password) mask alphabet = .error (.message te) ∧
            describe? mask alphabet = .error (.message te)) ∧
    (∀ p, Policy.parse? mask alphabet = .ok (.ok p) →
      (∃ result, validate? (some password) mask alphabet = .ok result ∧
        result.details.isSome = true) ∧
      ∃ description, describe? mask alphabet = .ok description ∧ description.error = none) := by
  refine ⟨fun entries hmask halphabet hentries => ?_, fun e text h => ?_,
    fun e hp => ⟨generate?_of_error hp _ _ _, fun te hte => ?_⟩, fun p hp => ?_⟩
  · exact ⟨_, Policy.parse?_eq_ok hmask halphabet,
      fun e he => MaskError.message_of_writable (Policy.writable_of_parse he hentries)⟩
  · exact ⟨refused_iff_validate? h password, refused_iff_describe? h,
      refused_iff_generate? source requested state⟩
  · rw [validate?_of_error hp, describe?_of_error hp, Fault.message?, hte]
    exact ⟨rfl, rfl⟩
  · exact ⟨⟨_, validate?_of_ok hp password, rfl⟩, _, describe?_of_ok hp, rfl⟩

/-- A list among the entries of an alphabet, which is no character. -/
theorem refused_alike_list :
    let mask : Json := .str "00000000100".toList
    let alphabet : Json := .arr [.str ['!'], .arr [.null]]
    let e : MaskError := .notCharacter (.arr [.null])
    Refused mask alphabet e ∧
    ∃ text, e.fault.message = .ok text ∧
      validate? (some []) mask alphabet = .ok ⟨false, [text], none⟩ ∧
      describe? mask alphabet = .ok ⟨[], [], 0, [], some text⟩ ∧
      ∃ g, generate? Source.ofList.recording mask alphabet none ([], []) =
          (.ok (.error g), [], []) ∧ g.report = e.report := by
  intro mask alphabet e
  have hr : Refused mask alphabet e := ⟨e, rfl, rfl⟩
  obtain ⟨hmessage, halike, -, -⟩ := refused_alike mask alphabet [] Source.ofList none []
  have hentries : ∀ x ∈ [Json.str ['!'], .arr [.null]], x.writable = true := by decide
  obtain ⟨parsed, hparsed, htext⟩ := hmessage _ rfl rfl hentries
  obtain rfl : .error e = parsed := Except.ok.inj hparsed
  have he := htext e rfl
  obtain ⟨hv, hd, hg⟩ := halike e e.message he
  exact ⟨hr, e.message, he, hv.mp hr, hd.mp hr, hg.mp hr⟩

/-- An entry of 4301 digits is what parsing fails with, and breaks off checks and descriptions; so
does a mask of as many digits that is an integer, with parsing itself. And a check of what is no
text breaks off, though the mask can be parsed. -/
theorem not_refused_alike :
    let mask : Json := .str "00000000001".toList
    let alphabet : Json := .arr [.int (10 ^ 4300)]
    (∃ e, Policy.parse? mask alphabet = .ok (.error e)) ∧
    validate? (some []) mask alphabet = .error (.message .tooManyDigits) ∧
    describe? mask alphabet = .error (.message .tooManyDigits) ∧
    describe? (.int (10 ^ 4300)) (.str defaultAlphabet) = .error .tooManyDigits ∧
    (∃ p, Policy.parse? mask (.str defaultAlphabet) = .ok (.ok p)) ∧
    validate? none mask (.str defaultAlphabet) = .error .noPassword := by
  intro mask alphabet
  have hlong : ¬Decimal.Writable (10 ^ 4300) := by decide +kernel
  have hp : Policy.parse? mask alphabet = .ok (.error (.notCharacter (.int (10 ^ 4300)))) := rfl
  have hmessage : (MaskError.notCharacter (.int (10 ^ 4300))).fault.message? =
      .error (.message .tooManyDigits) := by
    rw [Fault.message?, MaskError.message_of_not_writable]
    · rfl
    · rwa [MaskError.writable_notCharacter_iff, Json.writable_int, decide_eq_true_iff]
  have hmask : ∀ n, ¬Decimal.Writable n →
      Policy.parse? (.int n) (.str defaultAlphabet) = .error .tooManyDigits :=
    fun n hn => if_neg (by simp [hn])
  refine ⟨⟨_, hp⟩, ?_, ?_, ?_, ⟨_, rfl⟩, rfl⟩
  · rw [validate?_of_error hp, hmessage]
    rfl
  · rw [describe?_of_error hp, hmessage]
    rfl
  · rw [describe?, hmask _ hlong]

end MaskPolicy
