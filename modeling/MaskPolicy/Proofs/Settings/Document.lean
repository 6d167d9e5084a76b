import MaskPolicy.Settings.Config
import MaskPolicy.Proofs.Settings.Precedence

/-!
# What comes of a configuration file

The value of its document decides what comes of a file. An empty value counts as no file at all, and
any other value than a mapping is reported as no mapping. The names of a mapping are checked with
its settings, so that a name that is no setting is reported. Keys are checked by nobody: with a key
that is no text, a mapping ends in a crash instead of a report. Keys that start with an underscore
may be options of the look-up of settings, and nothing is said about a document that has one.
-/

namespace MaskPolicy

namespace Yaml.Value

variable {pairs : List (Value × Value)} {members : List (Text × Json)}

private theorem members?_cons_text (name : Text) (v : Value) (rest : List (Value × Value)) :
    members? ((.text name, v) :: rest) = (members? rest).map ((name, v.payload) :: ·) := by
  simp only [members?, List.mapM_cons]
  cases (rest.mapM _ : Option (List (Text × Json))) <;> rfl

private theorem members?_cons_other {key : Value} (hkey : ∀ name, key ≠ .text name) (v : Value)
    (rest : List (Value × Value)) : members? ((key, v) :: rest) = none := by
  simp only [members?, List.mapM_cons]
  cases key with
  | text name => exact absurd rfl (hkey name)
  | _ => rfl

/-- A mapping has members exactly when all its keys are texts. -/
theorem exists_members?_iff :
    (∃ members, members? pairs = some members) ↔ ∀ p ∈ pairs, ∃ name, p.1 = .text name := by
  induction pairs with
  | nil => exact ⟨fun _ p hp => absurd hp List.not_mem_nil, fun _ => ⟨[], rfl⟩⟩
  | cons p rest ih =>
    obtain ⟨key, v⟩ := p
    rw [List.forall_mem_cons, ← ih]
    by_cases hkey : ∃ name, key = .text name
    · obtain ⟨name, rfl⟩ := hkey
      simp only [members?_cons_text, Option.map_eq_some_iff]
      constructor
      · rintro ⟨_, members, hrest, -⟩
        exact ⟨⟨name, rfl⟩, members, hrest⟩
      · rintro ⟨-, members, hrest⟩
        exact ⟨_, members, hrest, rfl⟩
    · have hother : ∀ name, key ≠ .text name := fun name h => hkey ⟨name, h⟩
      simp [members?_cons_other hother, hkey]

private theorem mem_members? (h : members? pairs = some members) {name : Text} {v : Value}
    (hp : (.text name, v) ∈ pairs) : (name, v.payload) ∈ members := by
  induction pairs generalizing members with
  | nil => cases hp
  | cons p rest ih =>
    obtain ⟨key, w⟩ := p
    have hkeys := exists_members?_iff.mp ⟨members, h⟩
    obtain ⟨name', rfl⟩ : ∃ name', key = .text name' := hkeys _ List.mem_cons_self
    rw [members?_cons_text, Option.map_eq_some_iff] at h
    obtain ⟨members', hrest, rfl⟩ := h
    rcases List.mem_cons.mp hp with heq | hmem
    · cases heq
      exact List.mem_cons_self
    · exact List.mem_cons_of_mem _ (ih hrest hmem)

/-- A mapping with a key that is no text. -/
def HasOtherKey (v : Value) : Prop :=
  ∃ pairs, v = mapping pairs ∧ ∃ p ∈ pairs, ∀ name, p.1 ≠ text name

/-- A mapping with a key that starts with an underscore. -/
def HasOptionKey (v : Value) : Prop :=
  ∃ pairs, v = mapping pairs ∧ ∃ p ∈ pairs, ∃ name, p.1 = text ('_' :: name)

/-- A mapping whose keys are texts has members. -/
theorem exists_members?_of_not_hasOtherKey (h : ¬(mapping pairs).HasOtherKey) :
    ∃ members, members? pairs = some members := by
  refine exists_members?_iff.mpr fun p hp => ?_
  by_cases hkey : ∃ name, p.1 = text name
  · exact hkey
  · exact absurd ⟨pairs, rfl, p, hp, fun name hname => hkey ⟨name, hname⟩⟩ h

/-- A mapping with such a key has none. -/
theorem members?_eq_none_of_hasOtherKey (h : (mapping pairs).HasOtherKey) :
    members? pairs = none := by
  obtain ⟨_, ⟨⟩, p, hp, hother⟩ := h
  rw [Option.eq_none_iff_forall_ne_some]
  intro members hmembers
  obtain ⟨name, hname⟩ := exists_members?_iff.mp ⟨members, hmembers⟩ p hp
  exact hother name hname

private theorem isEmpty_eq_false_of_hasOtherKey {v : Value} (h : v.HasOtherKey) :
    v.isEmpty = false := by
  obtain ⟨pairs, rfl, p, hp, -⟩ := h
  cases pairs with
  | nil => cases hp
  | cons _ _ => rfl

end Yaml.Value

namespace Settings

open Yaml (Value)

variable {env : Environment}

/-! ## Values -/

/-- Settings, or an error that is reported. -/
def Answered (outcome : Except ConfigFailure Settings) : Prop :=
  (∃ settings, outcome = .ok settings) ∨ ∃ e, outcome = .error (.reported e)

private theorem answered_checked (c : Checked Settings) : Answered (ofValue.checked c) := by
  cases c with
  | ok settings => exact .inl ⟨settings, rfl⟩
  | error issues => exact .inr ⟨.invalid issues, rfl⟩

private theorem not_answered_crashed (crash : ConfigCrash) :
    ¬Answered (.error (.crashed crash)) := by
  rintro (⟨settings, h⟩ | ⟨e, h⟩) <;> cases h

/-- An empty value gives the settings that there are without a file. -/
theorem ofValue_of_isEmpty {v : Value} (h : v.isEmpty = true) :
    ofValue v env = ofValue .null env := by
  unfold ofValue
  rw [if_pos h]
  rfl

/-- Another value that is no mapping is reported. -/
theorem ofValue_of_not_mapping {v : Value} (h : v.isEmpty = false)
    (hv : ∀ pairs, v ≠ .mapping pairs) : ofValue v env = .error (.reported .notMapping) := by
  have hfull : ¬v.isEmpty = true := by simp [h]
  rw [ofValue, if_neg hfull]
  exact hv

private theorem worded_nil (i : Issue) : worded [] i = i := by
  unfold worded
  split
  · rfl
  · rfl

private theorem worded_extraForbidden (pairs : List (Value × Value)) (name : Text) :
    worded pairs ⟨[.field name], .extraForbidden⟩ = ⟨[.field name], .extraForbidden⟩ := by
  simp [worded, IssueKind.unreadable]

/-- The members of a mapping are checked as settings. -/
theorem ofValue_mapping {pairs : List (Value × Value)} {members : List (Text × Json)}
    (h : Yaml.Value.members? pairs = some members) :
    ofValue (.mapping pairs) env =
      ofValue.checked ((load members env).mapError (·.map (worded pairs))) := by
  cases pairs with
  | nil =>
    obtain rfl : [] = members := Option.some.inj h
    show ofValue.checked (load [] env) = _
    cases load [] env with
    | ok settings => rfl
    | error issues =>
      show ofValue.checked (.error issues) = ofValue.checked (.error (issues.map (worded [])))
      rw [funext worded_nil, List.map_id']
  | cons p rest =>
    rw [ofValue, if_neg nofun]
    simp only [h]

/-- A key that is no text is a crash. -/
theorem ofValue_of_hasOtherKey {v : Value} (h : v.HasOtherKey) :
    ofValue v env = .error (.crashed .keyNotText) := by
  have hfull : ¬v.isEmpty = true := by simp [Yaml.Value.isEmpty_eq_false_of_hasOtherKey h]
  obtain ⟨pairs, rfl⟩ : ∃ pairs, v = .mapping pairs := h.imp fun _ => And.left
  rw [ofValue, if_neg hfull]
  simp only [Yaml.Value.members?_eq_none_of_hasOtherKey h]

/-- A value without such a key is answered. -/
theorem answered_ofValue {v : Value} (h : ¬v.HasOtherKey) : Answered (ofValue v env) := by
  by_cases hmapping : ∃ pairs, v = .mapping pairs
  · obtain ⟨pairs, rfl⟩ := hmapping
    obtain ⟨members, hmembers⟩ := Yaml.Value.exists_members?_of_not_hasOtherKey h
    rw [ofValue_mapping hmembers]
    exact answered_checked _
  · by_cases hempty : v.isEmpty = true
    · rw [ofValue_of_isEmpty hempty]
      exact answered_checked _
    · rw [ofValue_of_not_mapping (by simpa using hempty) fun pairs hv => hmapping ⟨pairs, hv⟩]
      exact .inr ⟨.notMapping, rfl⟩

/-- A member whose name is no setting in any letter case is an issue. -/
theorem mem_issues_load {members : List (Text × Json)} {m : Text × Json} (hm : m ∈ members)
    (hname : Text.lower m.1 ∉ fields.names) :
    ⟨[.field m.1], .extraForbidden⟩ ∈ (load members env).issues := by
  have hrename : rename fields.names m = m := by
    rw [rename, if_neg]
    rwa [List.contains_iff_mem]
  have hself : m.1 ∉ fields.names := fun h => hname (by rwa [lower_eq_self m.1 h])
  exact info.mem_issues_check rfl fields _ (List.mem_map.mpr ⟨m, hm, hrename⟩) hself

/-- A mapping with a name that is no setting is reported, with a line for the name. -/
theorem ofValue_of_unknown {pairs : List (Value × Value)}
    (hkeys : ∀ p ∈ pairs, ∃ name, p.1 = .text name) {name : Text} {v : Value}
    (hp : (.text name, v) ∈ pairs) (hname : Text.lower name ∉ fields.names) :
    ∃ issues, ofValue (.mapping pairs) env = .error (.reported (.invalid issues)) ∧
      Detail.lineOf [name] "Extra fields not allowed".toList ∈
        (standardDetails issues).map Detail.line := by
  obtain ⟨members, hmembers⟩ := Yaml.Value.exists_members?_iff.mpr hkeys
  have hissue : ⟨[.field name], .extraForbidden⟩ ∈ (load members env).issues :=
    mem_issues_load (Yaml.Value.mem_members? hmembers hp) hname
  rw [ofValue_mapping hmembers]
  cases hload : load members env with
  | ok settings =>
    rw [hload] at hissue
    cases hissue
  | error issues =>
    rw [hload] at hissue
    have hworded : ⟨[.field name], .extraForbidden⟩ ∈ issues.map (worded pairs) :=
      List.mem_map.mpr ⟨_, hissue, worded_extraForbidden pairs name⟩
    exact ⟨_, rfl, List.mem_map_of_mem (List.mem_map_of_mem hworded)⟩

/-! ## Files -/

/-- What the document of a file holds. Without a file that is nothing. -/
def document (file : Option (List UInt8)) : Except Yaml.Failure Value :=
  file.elim (.ok .null) Yaml.read

variable {file : Option (List UInt8)}

/-- A file comes to what the value of its document comes to. -/
theorem ofFile_of_document {v : Value} (h : document file = .ok v) :
    ofFile file env = ofValue v env := by
  cases file with
  | none =>
    cases h
    rfl
  | some bytes =>
    have hread : Yaml.read bytes = .ok v := h
    simp only [ofFile, hread]

/-- An error in the syntax of a file is reported. -/
theorem ofFile_of_syntaxError {e : Yaml.SyntaxError} (h : document file = .error (.syntaxError e)) :
    ofFile file env = .error (.reported (.unreadable e)) := by
  cases file with
  | none => cases h
  | some bytes =>
    have hread : Yaml.read bytes = .error (.syntaxError e) := h
    simp only [ofFile, hread]

/-- A file that is read or has an error in its syntax is answered, unless its document has a key
that is no text. -/
theorem answered_ofFile (hread : ∀ e, document file = .error e → ∃ s, e = .syntaxError s)
    (hno : ¬∃ v, document file = .ok v ∧ v.HasOtherKey) : Answered (ofFile file env) := by
  cases hdoc : document file with
  | ok v =>
    rw [ofFile_of_document hdoc]
    exact answered_ofValue fun hkey => hno ⟨v, hdoc, hkey⟩
  | error e =>
    obtain ⟨s, rfl⟩ := hread e hdoc
    exact .inr ⟨.unreadable s, ofFile_of_syntaxError hdoc⟩

/-- Such a file is a crash exactly when its document has a key that is no text. -/
theorem ofFile_eq_crashed_iff (hread : ∀ e, document file = .error e → ∃ s, e = .syntaxError s) :
    ofFile file env = .error (.crashed .keyNotText) ↔
      ∃ v, document file = .ok v ∧ v.HasOtherKey := by
  constructor
  · intro h
    by_cases hkey : ∃ v, document file = .ok v ∧ v.HasOtherKey
    · exact hkey
    · have hanswered : Answered (ofFile file env) := answered_ofFile hread hkey
      rw [h] at hanswered
      exact absurd hanswered (not_answered_crashed _)
  · rintro ⟨v, hv, hkey⟩
    exact (ofFile_of_document hv).trans (ofValue_of_hasOtherKey hkey)

/-- What comes of a file that is read or has an error in its syntax. An error in its syntax is
reported as such. An empty value counts as no file, and another value than a mapping is reported as
no mapping. If no key of its document starts with an underscore, the file is answered unless the
document is a mapping with a key that is no text, and then it is a crash; and a mapping with a name
that is no setting, in any letter case, is reported with a line for the name. -/
theorem ofFile_classified (file : Option (List UInt8)) (env : Environment)
    (hread : ∀ e, document file = .error e → ∃ s, e = .syntaxError s) :
    ((∀ v, document file = .ok v → ¬v.HasOptionKey) →
      (Answered (ofFile file env) ∨ ofFile file env = .error (.crashed .keyNotText)) ∧
      (ofFile file env = .error (.crashed .keyNotText) ↔
        ∃ v, document file = .ok v ∧ v.HasOtherKey)) ∧
    (∀ s, document file = .error (.syntaxError s) →
      ofFile file env = .error (.reported (.unreadable s))) ∧
    (∀ v, document file = .ok v → v.isEmpty = true → ofFile file env = ofFile none env) ∧
    (∀ v, document file = .ok v → v.isEmpty = false → (∀ pairs, v ≠ .mapping pairs) →
      ∃ e, ofFile file env = .error (.reported e) ∧ ∀ path, e.message path =
        "Invalid configuration input.\n\n".toList ++
          "  * <root>: Input must be a valid mapping".toList) ∧
    (∀ pairs, document file = .ok (.mapping pairs) → (∀ p ∈ pairs, ∃ name, p.1 = .text name) →
      ¬(Yaml.Value.mapping pairs).HasOptionKey →
      ∀ name v, (.text name, v) ∈ pairs → Text.lower name ∉ fields.names →
        ∃ issues, ofFile file env = .error (.reported (.invalid issues)) ∧
          Detail.lineOf [name] "Extra fields not allowed".toList ∈
            (standardDetails issues).map Detail.line) := by
  refine ⟨fun _ => ⟨?_, ofFile_eq_crashed_iff hread⟩, fun s hs => ofFile_of_syntaxError hs,
    fun v hv hempty => ?_, fun v hv hfull hmapping => ?_,
    fun pairs hpairs hkeys _ name v hp hname => ?_⟩
  · by_cases hkey : ∃ v, document file = .ok v ∧ v.HasOtherKey
    · exact .inr ((ofFile_eq_crashed_iff hread).mpr hkey)
    · exact .inl (answered_ofFile hread hkey)
  · exact (ofFile_of_document hv).trans (ofValue_of_isEmpty hempty)
  · exact ⟨.notMapping, (ofFile_of_document hv).trans (ofValue_of_not_mapping hfull hmapping),
      fun _ => rfl⟩
  · rw [ofFile_of_document hpairs]
    exact ofValue_of_unknown hkeys hp hname

/-- A file with nothing but a byte order mark counts as no file. -/
theorem ofFile_classified_mark :
    (∀ e, document (some [0xff, 0xfe]) = .error e → ∃ s, e = .syntaxError s) ∧
    Answered (ofFile (some [0xff, 0xfe]) []) ∧ ofFile (some [0xff, 0xfe]) [] = ofFile none [] := by
  have hdoc : document (some [0xff, 0xfe]) = .ok .null := rfl
  have hread : ∀ e, document (some [0xff, 0xfe]) = .error e → ∃ s, e = .syntaxError s := by
    intro e he
    rw [hdoc] at he
    cases he
  have hplain : ∀ v, document (some [0xff, 0xfe]) = .ok v → ¬v.HasOptionKey := by
    rintro v hv ⟨pairs, rfl, -⟩
    rw [hdoc] at hv
    cases hv
  obtain ⟨hclass, -, hempty, -, -⟩ := ofFile_classified (some [0xff, 0xfe]) [] hread
  have hnone := hempty .null hdoc rfl
  refine ⟨hread, (hclass hplain).1.resolve_right fun h => ?_, hnone⟩
  rw [hnone] at h
  cases h

/-! ## A number for a key

The tokens of the file are followed one by one: each step is evaluated from a state that is written
out, which keeps the evaluation small.
-/

namespace NumberKey

open Yaml (Token TokenStream)

/-- A file with the one line `1: 2`. -/
def bytes : List UInt8 := [0x31, 0x3a, 0x20, 0x32, 0x0a]

/-- Before anything is read. -/
def start : TokenStream := { cursor := { rest := ['1', ':', ' ', '2', '\n'] } }

/-- After the number, which may be a key. -/
def afterKey : TokenStream where
  cursor := { rest := [':', ' ', '2', '\n'], index := 1, column := 1 }
  tokens := #[.scalar true ['1']]
  keyAllowed := false
  keys := [{ level := 0, before := 0, required := false, index := 0, line := 0, column := 0 }]

/-- After the colon, which makes it one. -/
def afterColon : TokenStream where
  cursor := { rest := [' ', '2', '\n'], index := 2, column := 2 }
  tokens := #[.blockMapping, .key, .scalar true ['1'], .value]
  keyAllowed := false
  indent := 0
  outer := [-1]

/-- After its value. -/
def afterValue : TokenStream where
  cursor := { rest := [], index := 5, line := 1 }
  tokens := #[.blockMapping, .key, .scalar true ['1'], .value, .scalar true ['2']]
  indent := 0
  outer := [-1]

/-- All the tokens of the file. -/
def tokens : List Token :=
  [.blockMapping, .key, .scalar true ['1'], .value, .scalar true ['2'], .blockEnd, .streamEnd]

/-- After the end of the file. -/
def ended : TokenStream where
  cursor := { rest := [], index := 5, line := 1 }
  tokens := tokens.toArray
  keyAllowed := false
  done := true

/-- The tokens of the file are read in four steps. -/
theorem tokensOf_eq : Yaml.tokensOf ['1', ':', ' ', '2', '\n'] = .ok (tokens, .current) := by
  have hkey : start.step = .ok afterKey := rfl
  have hcolon : afterKey.step = .ok afterColon := rfl
  have hvalue : afterColon.step = .ok afterValue := rfl
  have hend : afterValue.step = .ok ended := rfl
  show TokenStream.readAll 7 start = _
  simp only [TokenStream.readAll, hkey, hcolon, hvalue, hend, bind, Except.bind]
  rfl

/-- The document of the file. -/
def node : Yaml.Node := .mapping {} [(.scalar {} true ['1'], .scalar {} true ['2'])]

/-- The document gives a number a number. -/
theorem evaluate_eq :
    Yaml.evaluate .current [] node = .ok (.mapping [(.int 1, .int 2)], []) := by
  have hone : Yaml.evaluate .current [] (.scalar {} true ['1']) = .ok (.int 1, []) := by
    rw [Yaml.evaluate]
    rfl
  have htwo : Yaml.evaluate .current [] (.scalar {} true ['2']) = .ok (.int 2, []) := by
    rw [Yaml.evaluate]
    rfl
  have hkind : Yaml.scalarKind? .current {} true ['1'] = some .int := rfl
  have hkey : Yaml.evaluateKey .current [] (.scalar {} true ['1']) = .ok (some (.int 1), []) := by
    rw [Yaml.evaluateKey]
    simp only [hkind, hone]
  simp only [node, Yaml.evaluate, Yaml.evaluatePairs, Yaml.bindAnchor, hkey, htwo]
  rfl

/-- The value of the file. -/
theorem read_eq : Yaml.read bytes = .ok (.mapping [(.int 1, .int 2)]) := by
  have hbytes : ByteArray.mk bytes.toArray = "1: 2\n".toByteArray := rfl
  have htext : Yaml.decode? bytes = some ['1', ':', ' ', '2', '\n'] := by
    show (String.fromUTF8? (ByteArray.mk bytes.toArray)).map String.toList = _
    rw [hbytes, String.fromUTF8?, dif_pos (String.isValidUTF8 _)]
    rfl
  have hallowed : (['1', ':', ' ', '2', '\n'].all Yaml.isAllowed) = true := by decide
  have hnode : Yaml.readDocument tokens = .ok (some node) := rfl
  have hok : ∀ {α : Type} (a : α), Except.mapError Yaml.Failure.syntaxError (.ok a) = .ok a :=
    fun _ => rfl
  simp only [Yaml.read, htext, hallowed, tokensOf_eq, hnode, evaluate_eq, hok, bind, Except.bind]
  rfl

end NumberKey

/-- The file is read without an error in its syntax, and yet neither gives settings nor is reported.
-/
theorem ofFile_numberKey :
    document (some NumberKey.bytes) = .ok (.mapping [(.int 1, .int 2)]) ∧
    ofFile (some NumberKey.bytes) [] = .error (.crashed .keyNotText) ∧
    ¬Answered (ofFile (some NumberKey.bytes) []) := by
  have hdoc : document (some NumberKey.bytes) = .ok (.mapping [(.int 1, .int 2)]) :=
    NumberKey.read_eq
  have hcrash : ofFile (some NumberKey.bytes) [] = .error (.crashed .keyNotText) := by
    rw [ofFile_of_document hdoc]
    rfl
  refine ⟨hdoc, hcrash, ?_⟩
  rw [hcrash]
  exact not_answered_crashed _

end Settings

end MaskPolicy
