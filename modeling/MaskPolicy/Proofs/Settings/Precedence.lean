import MaskPolicy.Report.Standard
import MaskPolicy.Settings.Basic
import MaskPolicy.Proofs.Record.Check
import Mathlib.Data.List.Nodup

/-!
# Where a setting comes from

Each setting is decided by itself. Its variable decides it if there is one, whatever the member of
that name says, or else its member, or else its default. The settings come out when each of the
three is accepted, and otherwise there is one issue for each that is not, in the order in which the
settings are declared.
-/

namespace MaskPolicy

/-- The settings, in the order of their declaration. -/
inductive Setting where
  | alphabet
  | secureRandom
  | defaultCount
  deriving DecidableEq, Repr

namespace Setting

/-- Every setting, in the order of declaration. -/
def all : List Setting := [alphabet, secureRandom, defaultCount]

/-- The name of a setting. -/
def name : Setting → Text
  | alphabet => "special_alphabet".toList
  | secureRandom => "secure_random".toList
  | defaultCount => "default_count".toList

/-- The name of its variable, in lower case. -/
def variableName (s : Setting) : Text := Settings.variablePrefix ++ s.name

/-- What a setting may be. -/
def Value : Setting → Type
  | alphabet => { t : Text // 1 ≤ t.length }
  | secureRandom => Bool
  | defaultCount => Codec.Between 1 none

/-- How the value of a setting is read. -/
def codec : (s : Setting) → Codec s.Value
  | alphabet => .textFrom 1
  | secureRandom => .bool
  | defaultCount => .between 1 none

private theorem one_le_length_defaultAlphabet : 1 ≤ defaultAlphabet.length := by decide

private theorem one_between :
    1 ≤ 1 ∧ ∀ high ∈ (none : Option Nat), 1 ≤ high := ⟨Nat.le_refl 1, nofun⟩

/-- What a setting is when nothing says otherwise. -/
def default : (s : Setting) → s.Value
  | alphabet => ⟨defaultAlphabet, one_le_length_defaultAlphabet⟩
  | secureRandom => true
  | defaultCount => ⟨1, one_between⟩

/-- What a setting comes to with a value, or without one. -/
def outcome (s : Setting) (v : Option Json) : Checked s.Value :=
  v.elim (.ok s.default) s.codec.decode

/-- Is a setting accepted with a value, or without one? An alphabet is a text that is not empty, and
a count is an integer from one on. -/
def accepts : Setting → Option Json → Bool
  | _, none => true
  | alphabet, some v => holds (Codec.text.decode v) (· ≠ [])
  | secureRandom, some v => holds (Codec.bool.decode v) fun _ => true
  | defaultCount, some v => holds (Codec.integer.decode v) (1 ≤ ·)
where
  /-- Does a check give a value that satisfies `p`? -/
  holds {α : Type} (c : Checked α) (p : α → Bool) : Bool :=
    match c with
    | .ok a => p a
    | .error _ => false

/-- Deciding a setting finds at most one issue. -/
theorem atomic_outcome (s : Setting) (v : Option Json) : (s.outcome v).Atomic := by
  cases v with
  | none => exact Checked.atomic_ok _
  | some v =>
    cases s with
    | alphabet => exact Codec.atomic_textFrom 1 v
    | secureRandom => exact Codec.atomic_bool v
    | defaultCount => exact Codec.atomic_between 1 v

/-- A setting comes to a value exactly when it is accepted. -/
theorem isOk_outcome (s : Setting) (v : Option Json) : (s.outcome v).isOk = s.accepts v := by
  cases v with
  | none => cases s <;> rfl
  | some v =>
    cases s with
    | alphabet =>
      show ((Codec.text.decode v).bind _).isOk = accepts.holds (Codec.text.decode v) _
      cases Codec.text.decode v with
      | error found => rfl
      | ok t => cases t <;> rfl
    | secureRandom =>
      show (Codec.bool.decode v).isOk = accepts.holds (Codec.bool.decode v) _
      cases Codec.bool.decode v <;> rfl
    | defaultCount =>
      show ((Codec.integer.decode v).bind _).isOk = accepts.holds (Codec.integer.decode v) _
      cases Codec.integer.decode v with
      | error found => rfl
      | ok n =>
        simp only [Except.bind, accepts.holds, Codec.checkBetween]
        split
        · next hlow =>
          have hn : ¬1 ≤ n := by omega
          simp [hn, Checked.refuse, Except.isOk, Except.toBool]
        · next hlow =>
          have hn : 1 ≤ n := by omega
          simp [hn, Except.isOk, Except.toBool]

/-- A setting that is accepted comes to a value. -/
theorem exists_outcome {s : Setting} {v : Option Json} (h : s.accepts v = true) :
    ∃ a, s.outcome v = .ok a := by
  rw [← isOk_outcome] at h
  cases ho : s.outcome v with
  | ok a => exact ⟨a, rfl⟩
  | error found =>
    rw [ho] at h
    cases h

end Setting

namespace Settings

private theorem defaultCount_between (settings : Settings) :
    1 ≤ settings.defaultCount ∧ ∀ high ∈ (none : Option Nat), settings.defaultCount ≤ high :=
  ⟨settings.count_pos, nofun⟩

/-- The value of one of the settings. -/
def value (settings : Settings) : (s : Setting) → s.Value
  | .alphabet => ⟨settings.alphabet, settings.one_le_alphabet⟩
  | .secureRandom => settings.secureRandom
  | .defaultCount => ⟨settings.defaultCount, settings.defaultCount_between⟩

/-- A field with a default comes to its default or to what its value is read as. -/
theorem decode_one {α : Type} (name : String) (c : Codec α) (a : α) (look : Text → Option Json) :
    (Fields.one name c (.shown a)).decode look =
      ((look name.toList).elim (.ok a) c.decode).under (.field name.toList) := by
  simp only [Fields.one, Default.value?]
  cases look name.toList <;> rfl

/-- The outcome of a setting under a lookup, its issues placed at the setting. -/
def checkedAt (look : Text → Option Json) (s : Setting) : Checked s.Value :=
  (s.outcome (look s.name)).under (.field s.name)

/-- The fields are checked setting by setting. -/
theorem decode_fields (look : Text → Option Json) :
    fields.decode look =
      (Checked.both (checkedAt look .alphabet)
        (.both (checkedAt look .secureRandom) (checkedAt look .defaultCount))).map
        fun v => ⟨v.1.val, v.1.property, v.2.1, v.2.2.val, v.2.2.property.1⟩ := by
  have halphabet : checkedAt look .alphabet = _ := (decode_one "special_alphabet" _ _ look).symm
  have hsecure : checkedAt look .secureRandom = _ := (decode_one "secure_random" _ _ look).symm
  have hcount : checkedAt look .defaultCount = _ := (decode_one "default_count" _ _ look).symm
  rw [halphabet, hsecure, hcount]
  rfl

/-- The issues of the fields are those of the settings, one after another. -/
theorem issues_decode (look : Text → Option Json) :
    (fields.decode look).issues = Setting.all.flatMap fun s => (checkedAt look s).issues := by
  rw [decode_fields, Checked.issues_map, Checked.issues_both, Checked.issues_both]
  simp [Setting.all]

/-- The issues of the fields are at the settings that are not accepted. -/
theorem locations_decode (look : Text → Option Json) :
    (fields.decode look).issues.map Issue.location =
      (Setting.all.filter fun s => !s.accepts (look s.name)).map fun s => [.field s.name] := by
  have hat : ∀ s : Setting, (checkedAt look s).issues.map Issue.location =
      if s.accepts (look s.name) then [] else [[.field s.name]] := by
    intro s
    rw [checkedAt, (s.atomic_outcome _).locations_under, s.isOk_outcome]
  rw [issues_decode, List.map_flatMap]
  simp only [hat]
  induction Setting.all with
  | nil => rfl
  | cons s rest ih =>
    cases h : s.accepts (look s.name) <;> simp [h, ih]

/-- The fields give the settings that each of them gives. -/
theorem decode_eq_ok_iff {look : Text → Option Json} {settings : Settings} :
    fields.decode look = .ok settings ↔
      ∀ s : Setting, s.outcome (look s.name) = .ok (settings.value s) := by
  rw [decode_fields, Checked.map_eq_ok_iff
    (g := fun settings => (settings.value .alphabet, settings.value .secureRandom,
      settings.value .defaultCount)) (fun _ => rfl) (fun _ => rfl),
    Checked.both_eq_ok_iff, Checked.both_eq_ok_iff]
  simp only [checkedAt, Checked.under_eq_ok_iff]
  constructor
  · rintro ⟨halphabet, hsecure, hcount⟩ s
    cases s with
    | alphabet => exact halphabet
    | secureRandom => exact hsecure
    | defaultCount => exact hcount
  · intro h
    exact ⟨h .alphabet, h .secureRandom, h .defaultCount⟩

/-- The fields give settings exactly when each of the settings is accepted. -/
theorem exists_decode_iff {look : Text → Option Json} :
    (∃ settings, fields.decode look = .ok settings) ↔
      ∀ s : Setting, s.accepts (look s.name) = true := by
  constructor
  · rintro ⟨settings, h⟩ s
    rw [← s.isOk_outcome, decode_eq_ok_iff.mp h s]
    rfl
  · intro h
    obtain ⟨alphabet, halphabet⟩ := Setting.exists_outcome (h .alphabet)
    obtain ⟨secure, hsecure⟩ := Setting.exists_outcome (h .secureRandom)
    obtain ⟨count, hcount⟩ := Setting.exists_outcome (h .defaultCount)
    refine ⟨⟨alphabet.val, alphabet.property, secure, count.val, count.property.1⟩,
      decode_eq_ok_iff.mpr fun s => ?_⟩
    cases s with
    | alphabet => exact halphabet
    | secureRandom => exact hsecure
    | defaultCount => exact hcount

theorem lower_eq_self : ∀ name ∈ fields.names, Text.lower name = name := by decide

private theorem rename_eq_self {m : Text × Json} (hm : m.1 ∈ fields.names) :
    rename fields.names m = m := by
  rw [rename, lower_eq_self m.1 hm]
  exact ite_self m

/-- Settings given as members under their names are checked as fields. -/
theorem load_eq_decode {members : List (Text × Json)} (env : Environment)
    (hm : ∀ m ∈ members, m.1 ∈ fields.names) :
    load members env = fields.decode (lookup members env) := by
  have hrename : members.map (rename fields.names) = members :=
    (List.map_congr_left fun m hmem => rename_eq_self (hm m hmem)).trans (List.map_id members)
  rw [load]
  simp only [hrename, RecordInfo.check, info.extras_eq_ok hm]
  cases fields.decode (lookup members env) <;> rfl

variable {env : Environment}

/-- The variable of a setting, in any letter case, gives the setting its value. -/
theorem lookup_of_mem (hv : (env.map fun e => Text.lower e.1).Nodup) (members : List (Text × Json))
    {s : Setting} {e : Text × Text} (he : e ∈ env) (hname : Text.lower e.1 = s.variableName) :
    lookup members env s.name = some (.str e.2) := by
  have hfound : (env.reverse.find? fun e => decide (Text.lower e.1 = variablePrefix ++ s.name)) =
      some e := by
    cases hfind : env.reverse.find? fun e => decide (Text.lower e.1 = variablePrefix ++ s.name) with
    | none =>
      rw [List.find?_eq_none] at hfind
      exact absurd (decide_eq_true hname) (hfind e (List.mem_reverse.mpr he))
    | some e' =>
      have hname' : Text.lower e'.1 = s.variableName := by
        simpa [Setting.variableName] using List.find?_some hfind
      have he' : e' ∈ env := List.mem_reverse.mp (List.mem_of_find?_eq_some hfind)
      rw [List.inj_on_of_nodup_map hv he' he (hname'.trans hname.symm)]
  simp only [lookup, fromEnvironment?, hfound, Option.map_some]

/-- Without a variable a setting has the value of its member. -/
theorem lookup_of_not_mem (members : List (Text × Json)) {s : Setting}
    (hno : ∀ e ∈ env, Text.lower e.1 ≠ s.variableName) :
    lookup members env s.name = Json.member? s.name members := by
  have hnone : (env.reverse.find? fun e => decide (Text.lower e.1 = variablePrefix ++ s.name)) =
      none := by
    rw [List.find?_eq_none]
    intro e he
    simpa [Setting.variableName] using hno e (List.mem_reverse.mp he)
  simp only [lookup, fromEnvironment?, hnone, Option.map_none]

/-- Members that agree on the settings without a variable give the same settings. -/
theorem load_congr {members members' : List (Text × Json)}
    (hv : (env.map fun e => Text.lower e.1).Nodup) (hm : ∀ m ∈ members, m.1 ∈ fields.names)
    (hm' : ∀ m ∈ members', m.1 ∈ fields.names)
    (h : ∀ s : Setting, (∀ e ∈ env, Text.lower e.1 ≠ s.variableName) →
      Json.member? s.name members' = Json.member? s.name members) :
    load members' env = load members env := by
  have hlook : ∀ s : Setting, lookup members' env s.name = lookup members env s.name := by
    intro s
    by_cases hset : ∃ e ∈ env, Text.lower e.1 = s.variableName
    · obtain ⟨e, he, hname⟩ := hset
      rw [lookup_of_mem hv members' he hname, lookup_of_mem hv members he hname]
    · have hno : ∀ e ∈ env, Text.lower e.1 ≠ s.variableName := fun e he hname =>
        hset ⟨e, he, hname⟩
      rw [lookup_of_not_mem members' hno, lookup_of_not_mem members hno, h s hno]
  rw [load_eq_decode env hm', load_eq_decode env hm, decode_fields, decode_fields]
  simp only [checkedAt, hlook]

/-- The settings that members under the names of settings give with an environment whose variables
differ in more than case. A setting has the text of its variable for its value if there is one, and
otherwise its member. Each comes to the outcome of its own value or to its default, and members that
differ only where there is a variable change nothing. The settings come out exactly when all three
are accepted, and otherwise the report has one detail for each that is not, in the order of
declaration. -/
theorem load_precedence (env : Environment) (members : List (Text × Json))
    (hv : (env.map fun e => Text.lower e.1).Nodup) (hm : ∀ m ∈ members, m.1 ∈ fields.names) :
    (∀ s : Setting,
      (∀ e ∈ env, Text.lower e.1 = s.variableName →
        lookup members env s.name = some (.str e.2)) ∧
      ((∀ e ∈ env, Text.lower e.1 ≠ s.variableName) →
        lookup members env s.name = Json.member? s.name members)) ∧
    (∀ settings, load members env = .ok settings ↔
      ∀ s : Setting, s.outcome (lookup members env s.name) = .ok (settings.value s)) ∧
    (∀ members', (∀ m ∈ members', m.1 ∈ fields.names) →
      (∀ s : Setting, (∀ e ∈ env, Text.lower e.1 ≠ s.variableName) →
        Json.member? s.name members' = Json.member? s.name members) →
      load members' env = load members env) ∧
    ((∃ settings, load members env = .ok settings) ↔
      ∀ s : Setting, s.accepts (lookup members env s.name) = true) ∧
    (load members env).issues =
      (Setting.all.flatMap fun s => (checkedAt (lookup members env) s).issues) ∧
    (standardDetails (load members env).issues).map Detail.location =
      (Setting.all.filter fun s => !s.accepts (lookup members env s.name)).map
        fun s => [.field s.name] := by
  have hload := load_eq_decode env hm
  refine ⟨fun s => ⟨fun e he hname => lookup_of_mem hv members he hname,
    lookup_of_not_mem members⟩, fun settings => ?_, fun members' hm' h => load_congr hv hm hm' h,
    ?_, ?_, ?_⟩
  · rw [hload, decode_eq_ok_iff]
  · rw [hload, exists_decode_iff]
  · rw [hload, issues_decode]
  · rw [hload, ← locations_decode, standardDetails, List.map_map]
    rfl

/-- A variable that asks for no password at all. -/
def zeroCount : Environment := [("Password_Mask_Default_Count".toList, ['0'])]

/-- Members with a count that is accepted and an alphabet that is not. -/
def emptyAlphabet : List (Text × Json) :=
  [("default_count".toList, .int 3), ("special_alphabet".toList, .str [])]

/-- A variable that is no count is not made good by a member that is one, and a member that is no
alphabet is reported before it. -/
theorem load_precedence_masked :
    (zeroCount.map fun e => Text.lower e.1).Nodup ∧ (∀ m ∈ emptyAlphabet, m.1 ∈ fields.names) ∧
    lookup emptyAlphabet zeroCount Setting.defaultCount.name = some (.str ['0']) ∧
    (standardDetails (load emptyAlphabet zeroCount).issues).map Detail.location =
      [[.field "special_alphabet".toList], [.field "default_count".toList]] := by
  have hv : (zeroCount.map fun e => Text.lower e.1).Nodup := by decide
  have hm : ∀ m ∈ emptyAlphabet, m.1 ∈ fields.names := by
    intro m hmem
    rcases List.mem_cons.mp hmem with rfl | hmem
    · decide
    · obtain rfl := List.mem_singleton.mp hmem
      decide
  obtain ⟨hlook, -, -, -, -, hreport⟩ := load_precedence zeroCount emptyAlphabet hv hm
  refine ⟨hv, hm, (hlook .defaultCount).1 _ List.mem_cons_self (by decide), ?_⟩
  rw [hreport]
  rfl

end Settings

end MaskPolicy
