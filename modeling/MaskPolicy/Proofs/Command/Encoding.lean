import MaskPolicy.Proofs.Command.Assignment
import MaskPolicy.Proofs.Mask.Canonical
import MaskPolicy.Proofs.Policy.Choice

/-!
# Masks from choices

The command that builds a mask is called with a choice of rules, in any order and in part by
variables. It keeps the bounds of a policy by itself: a choice within them is written as its mask,
from which the choice can be read again, and any other choice is refused with a hint at the usage.
-/

namespace MaskPolicy.Command

/-- The inputs of the command say what the choice holds, and nothing beside it. -/
structure Inputs.Chooses (i : Inputs) (choice : Choice) : Prop where
  allowed : ∀ c, Switches (i.source? (allowOption c)) (choice.allowed c)
  index : ∀ c, Numbers 0 (i.source? (indexOption c)) (choice.index c)
  minLength : Numbers 1 (i.source? minLengthOption) choice.minLength
  help : Switches (i.source? helpOption) false
  arguments : i.words.arguments = []

private theorem inRange_iff_options {choice : Choice} : choice.InRange ↔
    (∀ c, inRange 0 (some 9) (choice.index c) = true) ∧
      inRange 1 (some 9) choice.minLength = true := by
  simp only [inRange, Option.all_some, Bool.and_eq_true, decide_eq_true_eq]
  exact ⟨fun h => ⟨h.index, h.minLength⟩, fun h => ⟨h.1, h.2⟩⟩

private theorem eq_helpOption_of_page {o : OptionSpec} (ho : o ∈ encodeSpec.options)
    (hpage : o.page.isSome = true) : o = helpOption := by
  revert o
  decide

private theorem encodeOption_cases {o : OptionSpec} (ho : o ∈ encodeSpec.options)
    (hpage : o.page = none) :
    (∃ c, o = allowOption c) ∨ (∃ c, o = indexOption c) ∨ o = minLengthOption := by
  rcases List.mem_append.mp ho with hclass | hlast
  · obtain ⟨c, -, hc⟩ := List.mem_flatMap.mp hclass
    rcases List.mem_pair.mp hc with rfl | rfl
    · exact .inl ⟨c, rfl⟩
    · exact .inr (.inl ⟨c, rfl⟩)
  · rcases List.mem_pair.mp hlast with rfl | rfl
    · exact .inr (.inr rfl)
    · cases hpage

private theorem mem_encodeSpec_options (c : CharClass) :
    allowOption c ∈ encodeSpec.options ∧ indexOption c ∈ encodeSpec.options := by
  cases c <;> decide

namespace Inputs.Chooses

variable {i : Inputs} {choice : Choice} (h : i.Chooses choice)

include h

private theorem no_page : ∀ o ∈ encodeSpec.options, o.page.isSome = true →
    ∃ v, i.value? o = .ok v ∧ v ≠ some (.switch true) := by
  intro o ho hpage
  obtain rfl := eq_helpOption_of_page ho hpage
  obtain ⟨v, hv, hoff⟩ := value?_of_switches rfl h.help
  exact ⟨v, hv, of_decide_eq_false hoff⟩

private theorem exists_allowed (c : CharClass) : ∃ v, i.value? (allowOption c) = .ok v ∧
    decide (v = some (.switch true)) = choice.allowed c :=
  value?_of_switches rfl (h.allowed c)

private theorem exists_index (hrange : choice.InRange) (c : CharClass) :
    ∃ v, i.value? (indexOption c) = .ok v ∧ (v.bind Value.int?).getD 0 = choice.index c := by
  have hpos := hrange.index c
  exact value?_of_numbers rfl (h.index c) (by omega) ((inRange_iff_options.mp hrange).1 c)

private theorem exists_minLength (hrange : choice.InRange) :
    ∃ v, i.value? minLengthOption = .ok v ∧ (v.bind Value.int?).getD 1 = choice.minLength := by
  have hpos := hrange.minLength
  exact value?_of_numbers rfl h.minLength (by omega) (inRange_iff_options.mp hrange).2

variable (hwithin : i.words.options ⊆ encodeSpec.options)

include hwithin

private theorem exists_wrong (hrange : ¬choice.InRange) :
    ∃ e, i.assign encodeSpec = .error (.wrong e) := by
  rw [inRange_iff_options, not_and_or, not_forall] at hrange
  rcases hrange with ⟨c, hc⟩ | hlength
  · obtain ⟨e, he⟩ := value?_of_numbers_outside rfl rfl (h.index c) (Bool.eq_false_iff.mpr hc)
    exact exists_wrong_of_value? (c := .encode) hwithin h.no_page rfl
      (mem_encodeSpec_options c).2 rfl he
  · obtain ⟨e, he⟩ := value?_of_numbers_outside rfl rfl h.minLength (Bool.eq_false_iff.mpr hlength)
    exact exists_wrong_of_value? (c := .encode) hwithin h.no_page rfl
      (by decide) rfl he

private theorem exists_choice_eq (hrange : choice.InRange) :
    ∃ a, i.assign encodeSpec = .ok a ∧ a.arguments = [] ∧ a.choice = choice := by
  have hread : ∀ o ∈ encodeSpec.options, o.page = none → ∃ v, i.value? o = .ok v := by
    intro o ho hpage
    rcases encodeOption_cases ho hpage with ⟨c, rfl⟩ | ⟨c, rfl⟩ | rfl
    · exact (h.exists_allowed c).imp fun _ => And.left
    · exact (h.exists_index hrange c).imp fun _ => And.left
    · exact (h.exists_minLength hrange).imp fun _ => And.left
  obtain ⟨a, ha, harguments⟩ := exists_assign (c := .encode) hwithin h.no_page rfl hread
  have hvalue : ∀ {o v}, o ∈ encodeSpec.options → o.page = none → i.value? o = .ok v →
      a.value? o = v := fun ho hpage hv =>
    Except.ok.inj ((value?_of_assign (c := .encode) hwithin ha ho hpage).symm.trans hv)
  have hon : ∀ c, a.isOn (allowOption c) = choice.allowed c := by
    intro c
    obtain ⟨v, hv, hb⟩ := h.exists_allowed c
    rw [Assignment.isOn, hvalue (mem_encodeSpec_options c).1 rfl hv, hb]
  have hint : ∀ c, (a.int? (indexOption c)).getD 0 = choice.index c := by
    intro c
    obtain ⟨v, hv, hn⟩ := h.exists_index hrange c
    rw [Assignment.int?_eq, hvalue (mem_encodeSpec_options c).2 rfl hv, hn]
  have hlast : (a.int? minLengthOption).getD 1 = choice.minLength := by
    obtain ⟨v, hv, hn⟩ := h.exists_minLength hrange
    rw [Assignment.int?_eq, hvalue (by decide) rfl hv, hn]
  exact ⟨a, ha, harguments.trans h.arguments, Choice.ext (funext hon) (funext hint) hlast⟩

end Inputs.Chooses

/-- A call of the program that comes to the command and makes a choice. -/
structure EncodeCall where
  surroundings : Surroundings
  words : List Text
  /-- The options of the program. -/
  options : Assignment
  /-- The words after the name of the command. -/
  rest : List Text
  /-- What these words say. -/
  given : Words
  choice : Choice
  read_eq : Program.read surroundings words = .ok options
  arguments_eq : options.arguments = encodeSpec.name :: rest
  given_eq : readWords encodeSpec.options true rest = .ok given
  chooses : Inputs.Chooses
    ⟨given, Program.lookup surroundings [encodeSpec.name], surroundings.files⟩ choice

namespace EncodeCall

/-- What the call comes to. -/
def outcome (call : EncodeCall) : Outcome := Program.run call.surroundings call.words

variable (call : EncodeCall)

/-- The outcome is that of the command for the values that it gets. -/
theorem outcome_eq : call.outcome = Program.traced call.options
    (CommandName.encode.call (programSpec.name ++ ' ' :: encodeSpec.name)
      (Program.lookup call.surroundings [encodeSpec.name]) call.surroundings.files
      (Program.context call.surroundings call.options) call.rest) :=
  Program.run_of_command (c := .encode) call.read_eq call.arguments_eq

private theorem read_rest :
    encodeSpec.read true (Program.lookup call.surroundings [encodeSpec.name])
        call.surroundings.files call.rest =
      Inputs.assign
        ⟨call.given, Program.lookup call.surroundings [encodeSpec.name], call.surroundings.files⟩
        encodeSpec := by
  rw [CommandSpec.read, call.given_eq]

/-- A choice beyond the bounds is refused, and nothing is written. -/
theorem outcome_of_not_inRange (hrange : ¬call.choice.InRange) :
    call.outcome.status = 2 ∧ call.outcome.output = [] := by
  obtain ⟨e, he⟩ := call.chooses.exists_wrong (options_subset_of_readWords call.given_eq) hrange
  have hrequest : CommandName.encode.request (Program.lookup call.surroundings [encodeSpec.name])
      call.surroundings.files call.rest = .error (.wrong e) := by
    rw [CommandName.request, CommandName.spec, call.read_rest, he]
  rw [outcome_eq, Program.traced_status, Program.traced_output, CommandName.call, hrequest]
  exact ⟨rfl, rfl⟩

/-- The mask of the record for a choice within the bounds is written. -/
theorem outcome_of_inRange (hrange : call.choice.InRange) :
    ∃ q, Policy.codec.decode (.obj call.choice.members) = .ok q ∧ call.choice.Chosen q ∧
      call.outcome.status = 0 ∧ call.outcome.output = q.encode ++ ['\n'] := by
  obtain ⟨a, ha, harguments, hchoice⟩ :=
    call.chooses.exists_choice_eq (options_subset_of_readWords call.given_eq) hrange
  have hrequest : CommandName.encode.request (Program.lookup call.surroundings [encodeSpec.name])
      call.surroundings.files call.rest = .ok (.encode ⟨a.choice⟩) := by
    rw [CommandName.request, CommandName.spec, call.read_rest, ha]
    simp only [harguments, List.drop_nil]
    rfl
  obtain ⟨q, hq⟩ := call.choice.exists_decode_members_iff.mpr hrange
  have hrun : EncodeRequest.run ⟨a.choice⟩ = { output := q.encode ++ ['\n'] } := by
    rw [hchoice]
    exact congrArg encodeOutcome hq
  refine ⟨q, hq, (call.choice.decode_members_eq_ok_iff.mp hq).1, ?_⟩
  rw [outcome_eq, Program.traced_status, Program.traced_output, CommandName.call, hrequest]
  show (EncodeRequest.run _).status = 0 ∧ (EncodeRequest.run _).output = _
  rw [hrun]
  exact ⟨rfl, rfl⟩

/-- The call writes a text: a mask, which is that of the record of policies for the choice. With
single characters for an alphabet the mask is parsed to the flags and the numbers of the choice. -/
structure Writes (t : Text) : Prop where
  status : call.outcome.status = 0
  output : call.outcome.output = t ++ ['\n']
  spelled : Mask.Spelled t
  record : ∃ q, Policy.codec.decode (.obj call.choice.members) = .ok q ∧ q.encode = t
  parsed : ∀ symbols : List Text, symbols ≠ [] → (∀ s ∈ symbols, s.length = 1) →
    ∃ p, Policy.parse (.str t) (symbols.map .str) = .ok p ∧ call.choice.Chosen p.toPolicy ∧
      Text.singletons p.alphabet = symbols

/-- A mask that is parsed to the choice is written for a choice within the bounds. -/
theorem exists_writes (hrange : call.choice.InRange) : ∃ t, call.Writes t := by
  obtain ⟨q, hdecode, hq, hstatus, houtput⟩ := call.outcome_of_inRange hrange
  have hspelled : Mask.Spelled q.encode := by
    rw [Policy.encode_eq_text]
    exact q.mask.spelled_text
  refine ⟨q.encode, hstatus, houtput, hspelled, ⟨q, hdecode, rfl⟩, ?_⟩
  intro symbols hne hs
  obtain ⟨p, hparse, htexts⟩ := q.exists_parse_encode hs (.inl hne)
  exact ⟨p, hparse, hq.of_withTexts htexts, congrArg Policy.alphabet htexts⟩

/-- The mask of a policy is written for the choice that the policy stands for and for no other. -/
theorem output_eq_encode_iff (q : Policy Char) :
    call.outcome.output = q.encode ++ ['\n'] ↔ call.choice = .ofPolicy q := by
  constructor
  · intro houtput
    by_cases hrange : call.choice.InRange
    · obtain ⟨p, -, hp, -, hwritten⟩ := call.outcome_of_inRange hrange
      have hencode : p.encode = q.encode :=
        List.append_cancel_right (hwritten.symm.trans houtput)
      exact hp.eq_ofPolicy.trans (Choice.ofPolicy_eq_of_encode_eq hencode)
    · rw [(call.outcome_of_not_inRange hrange).2] at houtput
      exact absurd houtput.symm (by simp)
  · intro hchoice
    have hchosen : call.choice.Chosen q := by
      rw [hchoice]
      exact Choice.chosen_ofPolicy q
    obtain ⟨p, -, hp, -, hwritten⟩ := call.outcome_of_inRange hchosen.inRange
    rw [hwritten, hp.encode_eq hchosen]

end EncodeCall

/-- The word that turns the switch of a class on or off. -/
def switchWord (c : CharClass) : Bool → Text
  | true => (allowOption c).long
  | false => "--no-".toList ++ (classOption c).toList

/-- What the word for a switch says. -/
def switchMention : Bool → Mention
  | true => .on
  | false => .off

/-- The words for a class: whether it is allowed, and its index. -/
def classWords (choice : Choice) (c : CharClass) : List Text :=
  [switchWord c (choice.allowed c), (indexOption c).long, Decimal.ofInt (choice.index c)]

/-- The words for a choice. -/
def choiceWords (choice : Choice) : List Text :=
  CharClass.all.flatMap (classWords choice) ++
    [minLengthOption.long, Decimal.ofInt choice.minLength]

/-- What the words for a class say. -/
def classOccurrences (choice : Choice) (c : CharClass) : List Occurrence :=
  [⟨allowOption c, switchMention (choice.allowed c)⟩,
    ⟨indexOption c, .given (Decimal.ofInt (choice.index c))⟩]

/-- What the words for a choice say. -/
def choiceMentions (choice : Choice) : Words where
  occurrences := CharClass.all.flatMap (classOccurrences choice) ++
    [⟨minLengthOption, .given (Decimal.ofInt choice.minLength)⟩]
  arguments := []

private theorem readWords_switchWord (c : CharClass) (b : Bool) (rest : List Text) :
    readWords encodeSpec.options true (switchWord c b :: rest) =
      (readWords encodeSpec.options true rest).map
        (Words.mentioning [⟨allowOption c, switchMention b⟩]) := by
  have hread : readWord encodeSpec.options (switchWord c b) =
      .ok ⟨[⟨allowOption c, switchMention b⟩], none⟩ := by
    cases c <;> cases b <;> rfl
  have hword : mentionsOptions (switchWord c b) = true ∧ switchWord c b ≠ "--".toList := by
    cases c <;> cases b <;> decide
  rw [readWords.eq_def]
  simp only [hword, hread, if_true, if_false]

private theorem readWords_valued {o : OptionSpec}
    (ho : (∃ c, o = indexOption c) ∨ o = minLengthOption) (value : Text) (rest : List Text) :
    readWords encodeSpec.options true (o.long :: value :: rest) =
      (readWords encodeSpec.options true rest).map (Words.mentioning [⟨o, .given value⟩]) := by
  have hread : readWord encodeSpec.options o.long = .ok ⟨[], some (o, o.long)⟩ := by
    rcases ho with ⟨c, rfl⟩ | rfl
    · cases c <;> rfl
    · rfl
  have hword : mentionsOptions o.long = true ∧ o.long ≠ "--".toList := by
    rcases ho with ⟨c, rfl⟩ | rfl
    · cases c <;> decide
    · decide
  rw [readWords.eq_def]
  simp only [hword, hread, if_true, if_false, List.nil_append]

/-- The words for classes say what the words for each of them say. -/
theorem readWords_classWords (choice : Choice) (cs : List CharClass) (rest : List Text) :
    readWords encodeSpec.options true (cs.flatMap (classWords choice) ++ rest) =
      (readWords encodeSpec.options true rest).map
        (Words.mentioning (cs.flatMap (classOccurrences choice))) := by
  induction cs with
  | nil =>
    cases h : readWords encodeSpec.options true rest <;> simp [h, Words.mentioning, Except.map]
  | cons c cs ih =>
    rw [List.flatMap_cons, List.append_assoc, classWords]
    simp only [List.cons_append, List.nil_append]
    rw [readWords_switchWord, readWords_valued (.inl ⟨c, rfl⟩), ih]
    cases readWords encodeSpec.options true rest <;>
      simp [Words.mentioning, Except.map, classOccurrences]

/-- The words for a choice are read as what they say. -/
theorem readWords_choiceWords (choice : Choice) :
    readWords encodeSpec.options true (choiceWords choice) = .ok (choiceMentions choice) := by
  rw [choiceWords, readWords_classWords, readWords_valued (.inr rfl)]
  simp [readWords, Words.mentioning, Except.map, choiceMentions]

private theorem chooses_choiceMentions (choice : Choice) {lookup : Text → Option Text}
    (hhelp : lookup helpOption.key = none) (files : Text → FileState) :
    Inputs.Chooses ⟨choiceMentions choice, lookup, files⟩ choice where
  allowed c := by
    have hlast : (choiceMentions choice).last? (allowOption c) =
        some (switchMention (choice.allowed c)) := by
      cases c <;> rfl
    rw [Inputs.source?, hlast]
    cases choice.allowed c <;> rfl
  index c := by
    have hlast : (choiceMentions choice).last? (indexOption c) =
        some (.given (Decimal.ofInt (choice.index c))) := by
      cases c <;> rfl
    rw [Inputs.source?, hlast]
    exact .inr rfl
  minLength := .inr rfl
  help := by
    have hlast : (choiceMentions choice).last? helpOption = none := rfl
    simp only [Inputs.source?, hlast, hhelp]
    rfl
  arguments := rfl

private theorem exists_call (choice : Choice) {s : Surroundings} (hs : s.environment = []) :
    ∃ call : EncodeCall, call.surroundings = s ∧
      call.words = encodeSpec.name :: choiceWords choice ∧ call.choice = choice := by
  obtain ⟨environment, files, input, answers⟩ := s
  obtain rfl : environment = [] := hs
  have hread : Program.read ⟨[], files, input, answers⟩ (encodeSpec.name :: choiceWords choice) =
      .ok ⟨[], encodeSpec.name :: choiceWords choice⟩ := by
    have hwords : readWords programSpec.options false (encodeSpec.name :: choiceWords choice) =
        .ok ⟨[], encodeSpec.name :: choiceWords choice⟩ := by
      rw [readWords.eq_def]
      rfl
    rw [Program.read, CommandSpec.read, hwords]
    rfl
  exact ⟨{
    surroundings := ⟨[], files, input, answers⟩
    words := encodeSpec.name :: choiceWords choice
    options := ⟨[], encodeSpec.name :: choiceWords choice⟩
    rest := choiceWords choice
    given := choiceMentions choice
    choice := choice
    read_eq := hread
    arguments_eq := rfl
    given_eq := readWords_choiceWords choice
    chooses := chooses_choiceMentions choice rfl files }, rfl, rfl, rfl⟩

/-- The command and the parser agree about every choice of five flags and six integers, however it
is made. The command is refused, with nothing written, exactly when an index is not between zero and
nine or the minimum length not between one and nine, and these are the choices of which the record
of policies cannot be made. Otherwise it writes one mask, that of the record, which is parsed to the
flags, the indexes and the minimum length of the choice. Every canonical mask is written for one
choice and for no other, and every choice can be made in words. -/
theorem encodeCall_outcome :
    (∀ call : EncodeCall,
      (call.outcome.status = 2 ∧ call.outcome.output = [] ↔ ¬call.choice.InRange) ∧
      ((∃ q, Policy.codec.decode (.obj call.choice.members) = .ok q) ↔ call.choice.InRange) ∧
      (call.choice.InRange → ∃ t, call.Writes t)) ∧
    (∀ t, Mask.Spelled t → Mask.canonicalText t = t → ∃ choice : Choice, choice.InRange ∧
      ∀ call : EncodeCall, call.outcome.output = t ++ ['\n'] ↔ call.choice = choice) ∧
    ∀ (choice : Choice) (s : Surroundings), s.environment = [] →
      ∃ call : EncodeCall, call.surroundings = s ∧
        call.words = encodeSpec.name :: choiceWords choice ∧ call.choice = choice := by
  refine ⟨fun call => ⟨⟨?_, call.outcome_of_not_inRange⟩, call.choice.exists_decode_members_iff,
    call.exists_writes⟩, ?_, fun choice s => exists_call choice⟩
  · rintro ⟨hstatus, -⟩ hrange
    obtain ⟨t, hwrites⟩ := call.exists_writes hrange
    cases hwrites.status.symm.trans hstatus
  · intro t ht hcanonical
    obtain ⟨m, rfl⟩ := Mask.exists_text_of_spelled ht
    let q : Policy Char := m.policy []
    have hq : q.encode = m.text := (Mask.canonicalText_text m []).symm.trans hcanonical
    refine ⟨.ofPolicy q, (Choice.chosen_ofPolicy q).inRange, fun call => ?_⟩
    rw [← hq]
    exact call.output_eq_encode_iff q

/-- Letters that hold the second capital, of six characters at least; and an index below zero. -/
theorem encodeCall_outcome_letters :
    let choice : Choice := ⟨fun c => c = .uppercase ∨ c = .lowercase,
      fun c => if c = .uppercase then 2 else 0, 6⟩
    let below : Choice := { choice with index := fun _ => -1 }
    ∃ call call' : EncodeCall, call.choice = choice ∧ call'.choice = below ∧
      call.words.take 4 = ["encode", "--upper", "--upper-index", "2"].map String.toList ∧
      call'.words.take 4 = ["encode", "--upper", "--upper-index", "-1"].map String.toList ∧
      call.outcome.output = "12100000006\n".toList ∧
      call'.outcome.status = 2 ∧ call'.outcome.output = [] := by
  intro choice below
  obtain ⟨hcalls, -, hexists⟩ := encodeCall_outcome
  let s : Surroundings := ⟨[], fun _ => .missing, [], []⟩
  obtain ⟨call, -, hwords, hchoice⟩ := hexists choice s rfl
  obtain ⟨call', -, hwords', hbelow⟩ := hexists below s rfl
  have hdecode : ∃ q, Policy.codec.decode (.obj choice.members) = .ok q ∧
      q.encode = "12100000006".toList := ⟨_, rfl, by decide⟩
  obtain ⟨q, hq, hencode⟩ := hdecode
  have hrange : call.choice.InRange := (hcalls call).2.1.mp ⟨q, by rw [hchoice, hq]⟩
  have hbeyond : ¬call'.choice.InRange := by
    rw [hbelow]
    intro h
    exact absurd (h.index .uppercase).1 (by decide)
  obtain ⟨t, hwrites⟩ := (hcalls call).2.2 hrange
  obtain ⟨q', hq', ht⟩ := hwrites.record
  rw [hchoice] at hq'
  obtain rfl := Except.ok.inj (hq.symm.trans hq')
  refine ⟨call, call', hchoice, hbelow, ?_, ?_, ?_, (hcalls call').1.mpr hbeyond⟩
  · rw [hwords]
    rfl
  · rw [hwords']
    rfl
  · rw [hwrites.output, ← ht, hencode]
    rfl

end MaskPolicy.Command
