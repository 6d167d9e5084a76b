import MaskPolicy.Record.Issue
import MaskPolicy.Template.Basic

/-!
# Reports of issues

Issues are shown to people as details, whose codes and messages may be replaced by those of two
tables. The code is replaced first and once, and the message is looked up under the new code. A
replaced message is a template over the values of its issue; when there are none it is taken as it
stands. Values are not kept; a context without values stays as it is. A report has one line for each
detail.
-/

namespace MaskPolicy

/-- An issue as it is shown: a code, a place, a message and the values that the message is about. -/
structure Detail where
  code : Text
  location : List Step
  message : Text
  context : Option (List (Text × Json)) := none

/-- An issue before any replacement. -/
def Issue.detail (i : Issue) : Detail := ⟨i.kind.code, i.location, i.kind.message, i.kind.context⟩

/-- Texts looked up by texts. -/
abbrev Table := List (Text × Text)

/-- The entry for a key; an empty entry counts as none. -/
def Table.entry? (t : Table) (key : Text) : Option Text :=
  ((t.reverse.find? fun e => decide (e.1 = key)).map Prod.snd).bind fun v =>
    if v = [] then none else some v

namespace Detail

/-- The code that a table puts in the place of a code. -/
def newCode (codes : Table) (code : Text) : Text := (codes.entry? code).getD code

/-- The values that the message of a detail is about. -/
def values (d : Detail) : List (Text × Json) := d.context.getD []

/-- What is kept of a context: only one without values. -/
def keptContext (d : Detail) : Option (List (Text × Json)) := d.context.filter List.isEmpty

/-- The detail with its code and its message replaced. -/
def translate (attributes : Template.Attributes) (codes messages : Table) (d : Detail) :
    Except TemplateError Detail :=
  let code := newCode codes d.code
  match messages.entry? code with
  | none => .ok { d with code, context := d.keptContext }
  | some template =>
    if d.values = [] then .ok { d with code, message := template, context := d.keptContext }
    else (Template.format template d.values attributes).map fun message =>
      { d with code, message, context := d.keptContext }

/-- Details with their codes and messages replaced, or the first template that cannot be filled. -/
def translateAll (attributes : Template.Attributes) (codes messages : Table) :
    List Detail → Except TemplateError (List Detail)
  | [] => .ok []
  | d :: ds =>
    match d.translate attributes codes messages with
    | .error e => .error e
    | .ok d => (translateAll attributes codes messages ds).map (d :: ·)

/-- The line of a report about a place. -/
def lineOf (location : List Text) (message : Text) : Text :=
  let path := Text.joinWith ['.'] location
  "  * ".toList ++ (if path = [] then "<root>".toList else path) ++ ": ".toList ++ message

/-- The line about a detail. -/
def line (d : Detail) : Text := lineOf (d.location.map Step.text) d.message

/-- The report on details. -/
def report (ds : List Detail) : Text := Text.joinWith ['\n'] (ds.map line)

/-- The step as a value. -/
def stepJson : Step → Json
  | .field name => .str name
  | .item place => .int place

/-- The detail as a value, without the values of its issue. -/
def toJson (d : Detail) : Json := .obj [
  ("type".toList, .str d.code),
  ("loc".toList, .arr (d.location.map stepJson)),
  ("msg".toList, .str d.message)]

end Detail

/-- Why a value is not a detail. -/
inductive DetailError where
  /-- A member is missing. -/
  | missing (name : Text)
  /-- The value, or its place, is of another kind. -/
  | unsuited
  /-- The value holds an integer with more digits than are written. -/
  | tooManyDigits
  deriving DecidableEq, Repr

namespace Detail

/-- The line about a detail that is given as a value. -/
def lineOfValue : Json → Except DetailError Text
  | .obj members =>
    match Json.member? "loc".toList members with
    | none => .error (.missing "loc".toList)
    | some place =>
      match place.elements? with
      | none => .error .unsuited
      | some parts =>
        if !parts.all Json.writable then .error .tooManyDigits
        else match Json.member? "msg".toList members with
          | none => .error (.missing "msg".toList)
          | some message =>
            if message.writable then .ok (lineOf (parts.map Json.plain) message.plain)
            else .error .tooManyDigits
  | _ => .error .unsuited

/-- The report on details that are given as values. -/
def reportOfValues (values : List Json) : Except DetailError Text :=
  (values.mapM lineOfValue).map (Text.joinWith ['\n'])

end Detail

end MaskPolicy
