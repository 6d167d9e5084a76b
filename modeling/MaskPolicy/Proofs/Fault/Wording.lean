import Mathlib.Algebra.Group.Int.Defs
import MaskPolicy.Proofs.Calls
import MaskPolicy.Proofs.Password.Obstacle
import MaskPolicy.Proofs.Policy.Agreement

/-!
# Values in messages

Every message is a fixed template with values in place of its fields. The templates of faults name
values of the context, those of reports and descriptions have one field for a character, for the
characters of an alphabet or for a number. None is made of what a caller offers, and what stands in
place of a field is not read again, so that braces and quotes are shown as any other character.
-/

namespace MaskPolicy

open Template

section Lengths

/-! Two kinds of faults name two numbers of their context. -/

variable {values : List (Text × Json)} {r s : Reference} {m n : Int}

private theorem value?_lengths {a b : Name} (hne : a.text ≠ b.text) :
    let values := [("ctx".toList, Json.obj [(a.text, .int m), (b.text, .int n)])]
    (ofContext a).value? values = some (.int m) ∧ (ofContext b).value? values = some (.int n) := by
  constructor
  · simp [ofContext, Reference.value?, Json.member?, hne.symm]
  · simp [ofContext, Reference.value?, Json.member?]

private theorem shown?_int (hr : r.value? values = some (.int m)) (hm : Decimal.Writable m) :
    (Part.plain r).shown? values = some (Decimal.ofInt m) := by
  simp [Part.shown?, hr, Option.filter, hm, Json.plain, Json.literal]

private theorem show?_lengths {before between : Text}
    {hbefore : before.all (fun c => c ≠ '{' && c ≠ '}') = true}
    {hbetween : between.all (fun c => c ≠ '{' && c ≠ '}') = true}
    (hr : r.value? values = some (.int m)) (hs : s.value? values = some (.int n))
    (hm : Decimal.Writable m) (hn : Decimal.Writable n) :
    show? values [.text before hbefore, .plain r, .text between hbetween, .plain s] =
      some (before ++ Decimal.ofInt m ++ between ++ Decimal.ofInt n) := by
  rw [show?_cons rfl (show?_cons (shown?_int hr hm)
    (show?_cons rfl (show?_cons (shown?_int hs hn) rfl)))]
  simp

private theorem format_lengths_of_not_writable (before between : Text)
    (hr : r.value? values = some (.int m)) (hs : s.value? values = some (.int n))
    (h : ¬(Decimal.Writable m ∧ Decimal.Writable n))
    (hbefore : before.all (fun c => c ≠ '{' && c ≠ '}') = true := by decide)
    (hbetween : between.all (fun c => c ≠ '{' && c ≠ '}') = true := by decide) :
    format (write [.text before hbefore, .plain r, .text between hbetween, .plain s]) values =
      .error .tooManyDigits := by
  by_cases hm : Decimal.Writable m
  · have hn : ¬Decimal.Writable n := fun hn => h ⟨hm, hn⟩
    have hshown : show? values [.text before hbefore, .plain r, .text between hbetween] =
        some (before ++ (Decimal.ofInt m ++ (between ++ []))) :=
      show?_cons rfl (show?_cons (shown?_int hr hm) (show?_cons rfl rfl))
    exact format_write_unwritable hshown hs (by simp [hn]) (.inl rfl) []
  · have hshown : show? values [.text before hbefore] = some (before ++ []) := show?_cons rfl rfl
    exact format_write_unwritable hshown hr (by simp [hm]) (.inl rfl) _

end Lengths

namespace GenerationError

private theorem targetLengthName_ne_minLengthName : targetLengthName.text ≠ minLengthName.text := by
  decide

private theorem targetLengthName_ne_requiredCountName :
    targetLengthName.text ≠ requiredCountName.text := by
  decide

private theorem writable_lengths_iff {kind : FaultKind} {template first second : Text} {m n : Int} :
    (Fault.mk kind template (some [(first, .int m), (second, .int n)])).Writable ↔
      Decimal.Writable m ∧ Decimal.Writable n := by
  show (decide (Decimal.Writable m) && (decide (Decimal.Writable n) && true)) = true ↔ _
  simp

/-- An error of generation shows its wording, if that can be written. -/
theorem shows {e : GenerationError} (h : e.fault.Writable) : e.fault.Shows e.message := by
  cases e with
  | unusable e => exact MaskError.shows h
  | noAllowedCharacters mask => exact ⟨_, List.mem_cons_self, rfl, rfl⟩
  | belowMinimum target minimum =>
    obtain ⟨htarget, hminimum⟩ := writable_lengths_iff.mp h
    obtain ⟨hr, hs⟩ := value?_lengths targetLengthName_ne_minLengthName
    exact ⟨_, List.mem_cons_self, rfl, show?_lengths hr hs htarget hminimum⟩
  | belowRequired target count =>
    obtain ⟨htarget, hcount⟩ := writable_lengths_iff.mp h
    obtain ⟨hr, hs⟩ := value?_lengths targetLengthName_ne_requiredCountName
    exact ⟨_, List.mem_cons_self, rfl, show?_lengths hr hs htarget hcount⟩

/-- An error whose wording cannot be written has no message. -/
theorem message_of_not_writable {e : GenerationError} (h : ¬e.fault.Writable) :
    e.fault.message = .error .tooManyDigits := by
  cases e with
  | unusable e => exact MaskError.message_of_not_writable h
  | noAllowedCharacters mask => exact absurd rfl h
  | belowMinimum target minimum =>
    obtain ⟨hr, hs⟩ := value?_lengths targetLengthName_ne_minLengthName
    exact format_lengths_of_not_writable "Target length ".toList
      " is less than minimum required length ".toList hr hs (mt writable_lengths_iff.mpr h)
  | belowRequired target count =>
    obtain ⟨hr, hs⟩ := value?_lengths targetLengthName_ne_requiredCountName
    exact format_lengths_of_not_writable "Target length ".toList
      " is less than number of required characters ".toList hr hs (mt writable_lengths_iff.mpr h)

/-- The message of an error of generation. -/
theorem fault_message (e : GenerationError) : e.fault.message =
    if e.fault.Writable then .ok e.message else .error .tooManyDigits := by
  split
  · next h => exact (shows h).message_eq
  · next h => exact message_of_not_writable h

/-- An error that a policy reports can be written when the requested length can. -/
theorem writable_of_generate {σ : Type} {p : UsablePolicy} {source : Source σ} {mask : Text}
    {requested : Option Int} {state : σ} {e : GenerationError}
    (h : (p.generate source mask requested state).1 = .error e)
    (hrequested : ∀ n ∈ requested, Decimal.Writable n) : e.fault.Writable := by
  have hwritten : Decimal.Writable 9 := by decide
  cases UsablePolicy.obstacle?_eq_some_iff.mp (UsablePolicy.generate_eq_error_iff.mp h) with
  | nothingAllowed => rfl
  | belowMinimum _ _ =>
    refine writable_lengths_iff.mpr ⟨hrequested _ rfl, hwritten.mono ?_⟩
    have hnine := p.minLength_le_nine
    omega
  | belowRequired _ _ _ =>
    refine writable_lengths_iff.mpr ⟨hrequested _ rfl, hwritten.mono ?_⟩
    have hfive : p.required.length ≤ 5 := p.length_required_le
    omega

/-- What a generation fails with can be written when the entries of the alphabet and the requested
length can. -/
theorem writable_of_generate? {σ : Type} {source : Source σ} {mask alphabet : Json}
    {requested : Option Int} {state : σ} {e : GenerationError}
    (h : (generate? source mask alphabet requested state).1 = .ok (.error e))
    (hentries : ∀ entries, alphabet.elements? = some entries → ∀ x ∈ entries, x.writable = true)
    (hrequested : ∀ n ∈ requested, Decimal.Writable n) : e.fault.Writable := by
  cases hp : Policy.parse? mask alphabet with
  | error b =>
    rw [generate?, hp] at h
    cases h
  | ok parsed =>
    cases parsed with
    | error e' =>
      rw [generate?_of_error hp] at h
      obtain rfl := Except.error.inj (Except.ok.inj h)
      obtain ⟨rfl, -⟩ | ⟨entries, helements, hparse⟩ := Policy.error_of_parse? hp
      · rfl
      · exact Policy.writable_of_parse hparse (hentries entries helements)
    | ok p =>
      rw [generate?_of_ok hp] at h
      exact writable_of_generate (Except.ok.inj h) hrequested

end GenerationError

/-- The name of a character in templates. -/
def charName : Name := { text := "char".toList }

/-- The name of some characters in templates. -/
def charsName : Name := { text := "chars".toList }

namespace Violation

/-- The template of a violation. -/
def template : Violation → List Part
  | tooShort _ =>
    single "Password must be at least ".toList minLengthName " characters long".toList
  | notAllowed _ => single "Character '".toList charName "' is not allowed".toList
  | missing _ => single "Required character '".toList charName "' is missing".toList

/-- The value that the template is filled with, and its name. -/
def value : Violation → Name × Json
  | tooShort n => (minLengthName, .int n)
  | notAllowed c => (charName, .str [c])
  | missing c => (charName, .str [c])

/-- The wording of a violation is its template with the value in place. -/
theorem filledInPlace (v : Violation) :
    FilledInPlace v.template v.value.1 v.value.2 v.message := by
  cases v with
  | tooShort n => exact ⟨_, _, _, _, rfl, rfl⟩
  | notAllowed c => exact ⟨_, _, _, _, rfl, (List.append_assoc _ [c] _).symm⟩
  | missing c => exact ⟨_, _, _, _, rfl, (List.append_assoc _ [c] _).symm⟩

end Violation

namespace CharClass

/-- The template of the label of a class. -/
def labelTemplate (c : CharClass) : List Part :=
  match c with
  | special => single "Special characters (".toList charsName ")".toList
  | uppercase => [.text "Uppercase letters (A-Z)".toList]
  | lowercase => [.text "Lowercase letters (a-z)".toList]
  | digitsLow => [.text "Digits 0-5".toList]
  | digitsHigh => [.text "Digits 6-9".toList]

/-- The template of the rule that a character of a class must occur. -/
def requirementTemplate (c : CharClass) : List Part :=
  single ("Must contain ".toList ++ c.noun ++ ": ".toList) charName [] (by cases c <;> decide)

/-- The label of the special class is its template with the symbols in place. -/
theorem filledInPlace_label (symbols : List Text) :
    FilledInPlace (labelTemplate special) charsName (.str (Text.joinWith ", ".toList symbols))
      (label special symbols) :=
  ⟨_, _, _, _, rfl, rfl⟩

/-- The template of a label gives the label, also where it has no field. -/
theorem format_labelTemplate (c : CharClass) (symbols : List Text) :
    format (write c.labelTemplate)
      [(charsName.text, .str (Text.joinWith ", ".toList symbols))] = .ok (c.label symbols) := by
  cases c with
  | special => exact (filledInPlace_label symbols).format_eq (Json.writable_str _)
  | _ => exact format_write rfl

/-- A rule is its template with the symbol in place. -/
theorem filledInPlace_requirement (c : CharClass) (symbol : Text) :
    FilledInPlace c.requirementTemplate charName (.str symbol) (c.requirement symbol) :=
  ⟨_, _, _, _, rfl, (List.append_nil _).symm⟩

end CharClass

/-- A violation shows a value that can be written. -/
theorem Violation.writable_value {p : UsablePolicy} {password : Text} {v : Violation}
    (h : v ∈ p.violations password) : v.value.2.writable = true := by
  cases v with
  | tooShort n =>
    have hn : n = p.minLength := by
      simp only [UsablePolicy.violations, UsablePolicy.lengthViolations,
        UsablePolicy.characterViolations, UsablePolicy.requirementViolations] at h
      by_cases hlt : password.length < p.minLength <;> simp_all
    have hnine := p.minLength_le_nine
    have hwritten : Decimal.Writable 9 := by decide
    exact decide_eq_true (hwritten.mono (by omega))
  | notAllowed c => exact Json.writable_str [c]
  | missing c => exact Json.writable_str [c]

/-- Whatever values are offered as a mask and as entries of an alphabet, messages show them as they
are. The message of an error of parsing or of generation is its wording: the template is one of
those fixed for its kind of fault, and the values of the context stand in place of its fields, an
entry as a literal and lengths and counts in decimal. Only an integer of too many digits in the
context keeps it from being written, and there is none when the entries and the requested length can
be written. The message is also what a check and a description report. Where the mask is parsed,
each violation is a fixed template with the character, or the minimum length, in place of its one
field; the label of the special class has the characters of the alphabet in place of its one field,
and a rule about a class has its character there. -/
theorem messages_show_values (mask alphabet : Json) :
    (∀ e, Policy.parse? mask alphabet = .ok (.error e) →
      e.fault.message = (if e.fault.Writable then .ok e.message else .error .tooManyDigits) ∧
      (e.fault.Writable → e.fault.Shows e.message ∧
        (∀ password, ∃ result, validate? (some password) mask alphabet = .ok result ∧
          result.errors = [e.message]) ∧
        ∃ description, describe? mask alphabet = .ok description ∧
          description.error = some e.message)) ∧
    (∀ (σ : Type) (source : Source σ) (requested : Option Int) (state : σ) (e : GenerationError),
      (generate? source mask alphabet requested state).1 = .ok (.error e) →
      e.fault.message = (if e.fault.Writable then .ok e.message else .error .tooManyDigits) ∧
      (e.fault.Writable → e.fault.Shows e.message) ∧
      ((∀ entries, alphabet.elements? = some entries → ∀ x ∈ entries, x.writable = true) →
        (∀ n ∈ requested, Decimal.Writable n) → e.fault.Writable)) ∧
    ∀ p, Policy.parse? mask alphabet = .ok (.ok p) →
      (∀ password,
        (∃ result, validate? (some password) mask alphabet = .ok result ∧
          result.errors = (p.violations password).map Violation.message) ∧
        ∀ v ∈ p.violations password,
          format (write v.template) [(v.value.1.text, v.value.2)] = .ok v.message ∧
          FilledInPlace v.template v.value.1 v.value.2 v.message) ∧
      ∃ description, describe? mask alphabet = .ok description ∧
        (description.allowedCharacterTypes = p.allowedClasses.map p.toPolicy.label ∧
          ∀ c ∈ p.allowedClasses,
            let symbols := Text.joinWith ", ".toList (Text.singletons p.alphabet)
            format (write c.labelTemplate) [(charsName.text, .str symbols)] =
              .ok (p.toPolicy.label c) ∧
            (c = .special →
              FilledInPlace c.labelTemplate charsName (.str symbols) (p.toPolicy.label c))) ∧
        ∃ choices : List (CharClass × Char), choices.map Prod.snd = p.required ∧
          description.rules =
            choices.map (fun s => s.1.requirement [s.2]) ++ [lengthRule p.minLength] ∧
          ∀ s ∈ choices,
            format (write s.1.requirementTemplate) [(charName.text, .str [s.2])] =
              .ok (s.1.requirement [s.2]) ∧
            FilledInPlace s.1.requirementTemplate charName (.str [s.2])
              (s.1.requirement [s.2]) := by
  refine ⟨fun e he => ⟨(GenerationError.unusable e).fault_message, fun hw => ?_⟩,
    fun σ source requested state e he => ⟨e.fault_message, GenerationError.shows, ?_⟩,
    fun p hp => ?_⟩
  · have hmessage : e.fault.message? = .ok e.message := by
      rw [Fault.message?, MaskError.message_of_writable hw]
      rfl
    refine ⟨MaskError.shows hw, fun password => ?_, ?_⟩
    · exact ⟨_, (validate?_of_error he).trans (by rw [hmessage]; rfl), rfl⟩
    · exact ⟨_, (describe?_of_error he).trans (by rw [hmessage]; rfl), rfl⟩
  · exact fun hentries hrequested => GenerationError.writable_of_generate? he hentries hrequested
  · refine ⟨fun password => ⟨⟨_, validate?_of_ok hp password, rfl⟩, fun v hv => ?_⟩,
      _, describe?_of_ok hp, ⟨rfl, fun c _ => ⟨c.format_labelTemplate _, ?_⟩⟩, ?_⟩
    · exact ⟨v.filledInPlace.format_eq (Violation.writable_value hv), v.filledInPlace⟩
    · rintro rfl
      exact CharClass.filledInPlace_label _
    · obtain ⟨choices, -, -, hrequired, hrules⟩ := p.exists_choices
      refine ⟨choices, hrequired.symm, ?_, fun s _ => ?_⟩
      · rw [← hrules]
        rfl
      · have hrule := s.1.filledInPlace_requirement [s.2]
        exact ⟨hrule.format_eq (Json.writable_str _), hrule⟩

/-- Braces and a conversion in an entry that is no character; and a brace and a quote for an
alphabet, in the label and in the rule, with the other brace for a character that is not allowed. -/
theorem messages_show_values_braces :
    let mask : Json := .str "00000000111".toList
    let braces : Json := .arr [.str ['\x7b'], .str ['\'']]
    (∃ e, Policy.parse? mask (.arr [.str ['+'], .str "\x7bctx!r\x7d".toList]) = .ok (.error e) ∧
      e.fault.message = .ok
        "Special alphabet entries must be single characters, got '\x7bctx!r\x7d'".toList) ∧
    ∃ p description, Policy.parse? mask braces = .ok (.ok p) ∧
      describe? mask braces = .ok description ∧
      description.rules =
        ["Must contain special character: \x7b".toList, "Minimum length: 1 characters".toList] ∧
      format (write (CharClass.labelTemplate .special)) [(charsName.text, .str "\x7b, '".toList)] =
        .ok "Special characters (\x7b, ')".toList ∧
      format (write (Violation.template (.notAllowed '\x7d'))) [(charName.text, .str ['\x7d'])] =
        .ok "Character '\x7d' is not allowed".toList := by
  intro mask braces
  constructor
  · have he : ∃ e, Policy.parse? mask (.arr [.str ['+'], .str "\x7bctx!r\x7d".toList]) =
          .ok (.error e) ∧ e.fault.Writable ∧ e.message =
          "Special alphabet entries must be single characters, got '\x7bctx!r\x7d'".toList :=
      ⟨_, rfl, rfl, by decide +kernel⟩
    obtain ⟨e, he, hwritable, hmessage⟩ := he
    refine ⟨e, he, ?_⟩
    rw [((messages_show_values _ _).1 e he).1, if_pos hwritable, hmessage]
  · have hp : ∃ p, Policy.parse? mask braces = .ok (.ok p) ∧
        CharClass.special ∈ p.allowedClasses ∧ p.alphabet = ['\x7b', '\''] ∧ p.minLength = 1 ∧
        p.allowedClasses.filterMap p.requirement? =
          ["Must contain special character: \x7b".toList] ∧
        .notAllowed '\x7d' ∈ p.violations ['\x7d'] :=
      ⟨_, rfl, by decide, rfl, rfl, by decide +kernel, by decide⟩
    obtain ⟨p, hp, hspecial, halphabet, hlength, hrule, hviolation⟩ := hp
    obtain ⟨hviolations, description, hdescribe, ⟨-, hlabels⟩, -⟩ :=
      (messages_show_values _ _).2.2 p hp
    have hlabel := (hlabels .special hspecial).1
    rw [Policy.label, halphabet] at hlabel
    obtain rfl := Except.ok.inj ((describe?_of_ok hp).symm.trans hdescribe)
    refine ⟨p, _, hp, hdescribe, ?_, hlabel, ((hviolations ['\x7d']).2 _ hviolation).1⟩
    rw [UsablePolicy.description, hrule, hlength]
    rfl

/-- An entry and a requested length, each an integer of 4301 digits: both are reported, but the
messages cannot be filled. And a character that is not allowed, which is not reported when no
alphabet is offered, though the mask allows no special characters. -/
theorem message_missing :
    (∃ e, Policy.parse? (.str "00000000001".toList) (.arr [.int (10 ^ 4300)]) = .ok (.error e) ∧
      e.fault.message = .error .tooManyDigits) ∧
    (∃ e, (generate? Source.ofList (.str "10000000001".toList) (.str defaultAlphabet)
        (some (-10 ^ 4300)) []).1 = .ok (.error e) ∧
      e.fault.message = .error .tooManyDigits) ∧
    validate? (some ['x']) (.str "00000000001".toList) .null = .error .noElements := by
  refine ⟨?_, ?_, rfl⟩
  · have hlong : ¬Decimal.Writable (10 ^ 4300) := by decide +kernel
    refine ⟨.notCharacter (.int (10 ^ 4300)), rfl, MaskError.message_of_not_writable ?_⟩
    rwa [MaskError.writable_notCharacter_iff, Json.writable_int, decide_eq_true_iff]
  · have hlong : ¬Decimal.Writable (-10 ^ 4300) := by decide +kernel
    obtain ⟨p, hp, hallowed, hlength⟩ : ∃ p,
        Policy.parse? (.str "10000000001".toList) (.str defaultAlphabet) = .ok (.ok p) ∧
          p.allowed ≠ [] ∧ p.minLength = 1 := ⟨_, rfl, by decide, rfl⟩
    have hobstructed : p.Obstructed "10000000001".toList (some (-10 ^ 4300))
        (.belowMinimum (-10 ^ 4300) p.minLength) :=
      .belowMinimum (mt UsablePolicy.nothingAllowed_iff.mp hallowed) (by omega)
    refine ⟨.belowMinimum (-10 ^ 4300) p.minLength, ?_,
      GenerationError.message_of_not_writable fun h =>
        hlong (GenerationError.writable_lengths_iff.mp h).1⟩
    rw [generate?_of_ok hp]
    exact congrArg Except.ok (UsablePolicy.generate_eq_error_iff.mpr
      (UsablePolicy.obstacle?_eq_some_iff.mpr hobstructed))

end MaskPolicy
