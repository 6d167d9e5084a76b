import Mathlib.Data.List.Forall2
import MaskPolicy.Proofs.Record.Bounds
import MaskPolicy.Proofs.Template.Filling

/-!
# Translated details

What two tables make of a detail is said without looking anything up: the entry that counts for a
key is the last one for it, unless that is empty. The code is replaced once, the message is the
template for the new code, and nothing else of the detail changes, except that its values are
dropped. Details are translated one by one, so that the first template that cannot be filled is the
only thing that stops a translation. The standard tables never stop, whatever was checked.
-/

namespace MaskPolicy

namespace Table

variable {t : Table} {key v : Text}

/-- The last entry for a key has this value. -/
def Registers (t : Table) (key v : Text) : Prop :=
  ∃ before after, t = before ++ (key, v) :: after ∧ ∀ e ∈ after, e.1 ≠ key

/-- The entry that counts for a key has this value: it is the last one, and it is not empty. -/
def Gives (t : Table) (key v : Text) : Prop := t.Registers key v ∧ v ≠ []

private theorem find?_reverse_eq_some_iff :
    (t.reverse.find? fun e => decide (e.1 = key)) = some (key, v) ↔ t.Registers key v := by
  rw [List.find?_eq_some_iff_append]
  constructor
  · rintro ⟨-, after, before, hsplit, hafter⟩
    refine ⟨before.reverse, after.reverse, ?_, fun e he => ?_⟩
    · rw [← List.reverse_reverse t, hsplit]
      simp
    · simpa using hafter e (List.mem_reverse.mp he)
  · rintro ⟨before, after, rfl, hafter⟩
    refine ⟨decide_eq_true rfl, after.reverse, before.reverse, by simp, fun e he => ?_⟩
    simpa using hafter e (List.mem_reverse.mp he)

/-- What is looked up is the entry that counts. -/
theorem entry?_eq_some_iff : t.entry? key = some v ↔ t.Gives key v := by
  rw [Gives, ← find?_reverse_eq_some_iff, entry?]
  cases hfind : t.reverse.find? fun e => decide (e.1 = key) with
  | none => simp
  | some e =>
    obtain ⟨k, w⟩ := e
    obtain rfl : k = key := by simpa using List.find?_some hfind
    by_cases hw : w = [] <;> simp +contextual [hw, eq_comm]

/-- One entry counts. -/
theorem Gives.unique {w : Text} (hv : t.Gives key v) (hw : t.Gives key w) : v = w := by
  rw [← entry?_eq_some_iff] at hv hw
  exact Option.some.inj (hv.symm.trans hw)

/-- Nothing is looked up when no entry counts. -/
theorem entry?_eq_none_iff : t.entry? key = none ↔ ∀ v, ¬t.Gives key v := by
  rw [Option.eq_none_iff_forall_ne_some]
  exact forall_congr' fun v => not_congr entry?_eq_some_iff

end Table

namespace Detail

variable {attributes : Template.Attributes} {codes messages : Table} {d d' : Detail}
  {ds ds' : List Detail} {code message : Text} {e : TemplateError}

/-- The code that stands for a code: the entry for it, or the code itself. The entry is not looked
up again. -/
inductive Renamed (codes : Table) (old : Text) : Text → Prop
  | replaced {new : Text} (h : codes.Gives old new) : Renamed codes old new
  | kept (h : ∀ new, ¬codes.Gives old new) : Renamed codes old old

/-- The message of a detail under a code: the template for the code, filled with the values of the
detail or, without any, as it stands. A detail keeps its message when there is no template. -/
inductive Worded (attributes : Template.Attributes) (messages : Table) (code : Text) (d : Detail) :
    Text → Prop
  | filled {template message : Text} (h : messages.Gives code template) (hvalues : d.values ≠ [])
      (hfill : Template.format template d.values attributes = .ok message) :
      Worded attributes messages code d message
  | asItStands {template : Text} (h : messages.Gives code template) (hvalues : d.values = []) :
      Worded attributes messages code d template
  | kept (h : ∀ template, ¬messages.Gives code template) :
      Worded attributes messages code d d.message

/-- One detail is another one translated. -/
structure Translated (attributes : Template.Attributes) (codes messages : Table) (d d' : Detail) :
    Prop where
  location : d'.location = d.location
  code : Renamed codes d.code d'.code
  message : Worded attributes messages d'.code d d'.message
  context : d'.context = d.keptContext

/-- The template for the new code of a detail cannot be filled with the values of the detail. -/
structure Unfillable (attributes : Template.Attributes) (codes messages : Table) (d : Detail)
    (e : TemplateError) : Prop where
  values : d.values ≠ []
  template : ∃ code template, Renamed codes d.code code ∧ messages.Gives code template ∧
    Template.format template d.values attributes = .error e

/-- A code has one new code. -/
theorem renamed_iff {old new : Text} : Renamed codes old new ↔ newCode codes old = new := by
  rw [newCode]
  cases hentry : codes.entry? old with
  | none =>
    have hnone := Table.entry?_eq_none_iff.mp hentry
    constructor
    · rintro (h | -)
      · exact absurd h (hnone new)
      · rfl
    · rintro rfl
      exact .kept hnone
  | some v =>
    have hgives := Table.entry?_eq_some_iff.mp hentry
    constructor
    · rintro (h | h)
      · exact hgives.unique h
      · exact absurd hgives (h v)
    · rintro rfl
      exact .replaced hgives

/-- The message of a detail under a code, or why its template cannot be filled. -/
def wording (attributes : Template.Attributes) (messages : Table) (code : Text) (d : Detail) :
    Except TemplateError Text :=
  match messages.entry? code with
  | none => .ok d.message
  | some template =>
    if d.values = [] then .ok template else Template.format template d.values attributes

/-- A detail is translated by its new code and its wording under that. -/
theorem translate_eq_map_wording (attributes : Template.Attributes) (codes messages : Table)
    (d : Detail) :
    d.translate attributes codes messages =
      (wording attributes messages (newCode codes d.code) d).map fun message =>
        ⟨newCode codes d.code, d.location, message, d.keptContext⟩ := by
  simp only [translate, wording]
  cases messages.entry? (newCode codes d.code) with
  | none => rfl
  | some template => by_cases hvalues : d.values = [] <;> simp [hvalues, Except.map]

/-- The wording is the message of the detail under the code. -/
theorem wording_eq_ok_iff :
    wording attributes messages code d = .ok message ↔
      Worded attributes messages code d message := by
  rw [wording]
  cases hentry : messages.entry? code with
  | none =>
    have hnone := Table.entry?_eq_none_iff.mp hentry
    constructor
    · rintro ⟨⟩
      exact .kept hnone
    · rintro (⟨h, -, -⟩ | ⟨h, -⟩ | -)
      · exact absurd h (hnone _)
      · exact absurd h (hnone _)
      · rfl
  | some template =>
    have hgives := Table.entry?_eq_some_iff.mp hentry
    dsimp only
    constructor
    · intro h
      split at h
      · next hvalues =>
        cases h
        exact .asItStands hgives hvalues
      · next hvalues => exact .filled hgives hvalues h
    · rintro (⟨h, hvalues, hfill⟩ | ⟨h, hvalues⟩ | h)
      · obtain rfl := hgives.unique h
        rwa [if_neg hvalues]
      · obtain rfl := hgives.unique h
        rw [if_pos hvalues]
      · exact absurd hgives (h template)

/-- There is no wording when the template for the code cannot be filled. -/
theorem wording_eq_error_iff : wording attributes messages code d = .error e ↔ d.values ≠ [] ∧
    ∃ template, messages.Gives code template ∧
      Template.format template d.values attributes = .error e := by
  simp only [wording, ← Table.entry?_eq_some_iff]
  cases messages.entry? code with
  | none => simp
  | some template => by_cases hvalues : d.values = [] <;> simp [hvalues]

/-- Translating a detail gives the detail translated. -/
theorem translate_eq_ok_iff :
    d.translate attributes codes messages = .ok d' ↔
      Translated attributes codes messages d d' := by
  rw [translate_eq_map_wording]
  constructor
  · intro h
    cases hwording : wording attributes messages (newCode codes d.code) d with
    | error e =>
      rw [hwording] at h
      cases h
    | ok message =>
      rw [hwording] at h
      cases h
      exact ⟨rfl, renamed_iff.mpr rfl, wording_eq_ok_iff.mp hwording, rfl⟩
  · rintro ⟨hlocation, hcode, hmessage, hcontext⟩
    obtain ⟨code, location, message, context⟩ := d'
    obtain rfl := renamed_iff.mp hcode
    obtain rfl : location = d.location := hlocation
    obtain rfl : context = d.keptContext := hcontext
    rw [wording_eq_ok_iff.mpr hmessage]
    rfl

/-- Translating a detail fails when its template cannot be filled. -/
theorem translate_eq_error_iff :
    d.translate attributes codes messages = .error e ↔
      Unfillable attributes codes messages d e := by
  have hmap : ∀ r : Except TemplateError Text, ∀ f : Text → Detail,
      r.map f = .error e ↔ r = .error e := by
    rintro (- | -) f <;> simp [Except.map]
  rw [translate_eq_map_wording, hmap, wording_eq_error_iff]
  constructor
  · rintro ⟨hvalues, template, hgives, hfill⟩
    exact ⟨hvalues, _, template, renamed_iff.mpr rfl, hgives, hfill⟩
  · rintro ⟨hvalues, code, template, hcode, hgives, hfill⟩
    obtain rfl := renamed_iff.mp hcode
    exact ⟨hvalues, template, hgives, hfill⟩

/-- The first detail is translated, and then the others. -/
theorem translateAll_cons_eq_ok_iff :
    translateAll attributes codes messages (d :: ds) = .ok ds' ↔
      ∃ d' rest, d.translate attributes codes messages = .ok d' ∧
        translateAll attributes codes messages ds = .ok rest ∧ ds' = d' :: rest := by
  rw [translateAll]
  cases d.translate attributes codes messages with
  | error e => simp
  | ok d' => cases translateAll attributes codes messages ds <;> simp [Except.map, eq_comm]

/-- The first detail fails, or it is translated and one of the others fails. -/
theorem translateAll_cons_eq_error_iff :
    translateAll attributes codes messages (d :: ds) = .error e ↔
      d.translate attributes codes messages = .error e ∨
        ∃ d', d.translate attributes codes messages = .ok d' ∧
          translateAll attributes codes messages ds = .error e := by
  rw [translateAll]
  cases d.translate attributes codes messages with
  | error e => simp
  | ok d' => cases translateAll attributes codes messages ds <;> simp [Except.map]

/-- Details are translated one by one and in order. -/
theorem translateAll_eq_ok_iff :
    translateAll attributes codes messages ds = .ok ds' ↔
      List.Forall₂ (Translated attributes codes messages) ds ds' := by
  induction ds generalizing ds' with
  | nil => simp [translateAll, eq_comm]
  | cons d ds ih =>
    simp only [translateAll_cons_eq_ok_iff, List.forall₂_cons_left_iff, translate_eq_ok_iff, ih]

/-- A translation stops at the first detail whose template cannot be filled. -/
theorem translateAll_eq_error_iff :
    translateAll attributes codes messages ds = .error e ↔
      ∃ before d after, ds = before ++ d :: after ∧
        (∃ translated, List.Forall₂ (Translated attributes codes messages) before translated) ∧
        Unfillable attributes codes messages d e := by
  induction ds with
  | nil => simp [translateAll]
  | cons d ds ih =>
    rw [translateAll_cons_eq_error_iff, ih, translate_eq_error_iff]
    constructor
    · rintro (h | ⟨d', hd, before, stop, after, rfl, ⟨translated, hbefore⟩, h⟩)
      · exact ⟨[], d, ds, rfl, ⟨[], .nil⟩, h⟩
      · exact ⟨d :: before, stop, after, rfl,
          ⟨d' :: translated, .cons (translate_eq_ok_iff.mp hd) hbefore⟩, h⟩
    · rintro ⟨before, stop, after, hsplit, ⟨translated, hbefore⟩, h⟩
      cases hbefore with
      | nil =>
        obtain ⟨rfl, -⟩ := List.cons.inj hsplit
        exact .inl h
      | cons hd hbefore =>
        obtain ⟨rfl, rfl⟩ := List.cons.inj hsplit
        exact .inr ⟨_, translate_eq_ok_iff.mpr hd, _, stop, after, rfl, ⟨_, hbefore⟩, h⟩

/-- A detail is not translated when its template names a value that it lacks. -/
theorem unfillable_of_missing {before after : List Template.Part} {shown : Text}
    {name : Template.Name} (hcode : Renamed codes d.code code)
    (hgives : messages.Gives code
      (Template.write (before ++ .plain (.value name) :: after)))
    (hvalues : d.values ≠ []) (hbefore : Template.show? d.values before = some shown)
    (hname : Json.member? name.text d.values = none) :
    Unfillable attributes codes messages d (.missingKey (.str name.text)) :=
  ⟨hvalues, code, _, hcode, hgives, Template.format_write_missing hbefore hname after⟩

end Detail

/-- Something that is checked: a payload for a record, or the members and the variables that
settings are loaded from. -/
inductive Submission where
  | policy (payload : Json)
  | result (payload : Json)
  | details (payload : Json)
  | description (payload : Json)
  | settings (members : List (Text × Json)) (env : Environment)

/-- What is wrong with a submission. -/
def Submission.issues : Submission → List Issue
  | policy payload => (Policy.codec.decode payload).issues
  | result payload => (ValidationResult.codec.decode payload).issues
  | details payload => (ValidationDetails.codec.decode payload).issues
  | description payload => (MaskDescription.codec.decode payload).issues
  | settings members env => (Settings.load members env).issues

/-- What is wrong with a submission can be reported. -/
theorem Submission.writable_of_mem_issues {s : Submission} {i : Issue} (h : i ∈ s.issues) :
    i.kind.Writable := by
  cases s with
  | policy payload => exact Policy.reportable_codec payload i h
  | result payload => exact ValidationResult.reportable_codec payload i h
  | details payload => exact ValidationDetails.reportable_codec payload i h
  | description payload => exact MaskDescription.reportable_codec payload i h
  | settings members env => exact Settings.reportable_load members env i h

/-- Two tables translate details one by one: the place of a detail stays, its code is replaced once,
its message is the template for the new code, and its values are dropped. Only a template that
cannot be filled stops them, such as one that names a value that the detail lacks. The standard
tables translate the issues of every submission. All this holds wherever attributes of values lead.
-/
theorem Detail.translateAll_spec :
    (∀ (attributes : Template.Attributes) (codes messages : Table) (ds ds' : List Detail),
      translateAll attributes codes messages ds = .ok ds' ↔
        List.Forall₂ (Translated attributes codes messages) ds ds') ∧
    (∀ (attributes : Template.Attributes) (codes messages : Table) (ds : List Detail)
        (e : TemplateError),
      translateAll attributes codes messages ds = .error e ↔
        ∃ before d after, ds = before ++ d :: after ∧
          (∃ translated, List.Forall₂ (Translated attributes codes messages) before translated) ∧
          Unfillable attributes codes messages d e) ∧
    (∀ (attributes : Template.Attributes) (codes messages : Table) (d : Detail) (code shown : Text)
        (before after : List Template.Part) (name : Template.Name),
      Renamed codes d.code code →
      messages.Gives code (Template.write (before ++ .plain (.value name) :: after)) →
      d.values ≠ [] → Template.show? d.values before = some shown →
      Json.member? name.text d.values = none →
      Unfillable attributes codes messages d (.missingKey (.str name.text))) ∧
    ∀ (attributes : Template.Attributes) (s : Submission),
      translateAll attributes standardCodes standardMessages (s.issues.map Issue.detail) =
        .ok (s.issues.map Issue.standard) :=
  ⟨fun _ _ _ _ _ => translateAll_eq_ok_iff, fun _ _ _ _ _ => translateAll_eq_error_iff,
    fun _ _ _ _ _ _ _ _ _ => unfillable_of_missing,
    fun _ _ => translateAll_standard fun _ => Submission.writable_of_mem_issues⟩

/-- An empty template for a code is not used: the message stays as it was. And a context without
values is not dropped. -/
theorem Detail.translateAll_empty_template :
    (∃ d d' : Detail,
      (Submission.policy (.obj [("min_length".toList, .int 0)])).issues.map Issue.detail = [d] ∧
      (∀ attributes, translateAll attributes standardCodes
        [("greater_than_equal".toList, [])] [d] = .ok [d']) ∧
      Table.Registers [("greater_than_equal".toList, [])] d'.code [] ∧
      Template.format [] d.values = .ok [] ∧
      d'.message = "Input should be greater than or equal to 1".toList) ∧
    ∃ d d' : Detail, d.context = some [] ∧ d'.context = some [] ∧
      ∀ attributes, translateAll attributes standardCodes standardMessages [d] = .ok [d'] := by
  refine ⟨⟨_, _, rfl, fun _ => rfl, ⟨[], [], rfl, by simp⟩, Template.format_of_no_braces rfl _,
    rfl⟩, ?_⟩
  exact ⟨⟨"value_error".toList, [], "Wrong".toList, some []⟩, _, rfl, rfl, fun _ => rfl⟩

end MaskPolicy
