import MaskPolicy.Json.Literal
import MaskPolicy.Template.Real

/-!
# Brace templates

A template is a text with fields in braces; a doubled brace stands for itself. A field names a
value, may select inside it with brackets, may ask for its literal, and may ask for a layout. Pieces
are read and filled from left to right, so the first fault, in the template or in the values, is the
one that is reported.

Values are data here, and so are the parts of numbers, which are attributes of them. Other
attributes are objects such as classes and methods. What these look like is not settled by the
values, and for some of them differs from run to run, so that it is a parameter.
-/

namespace MaskPolicy

/-- Why a template cannot be filled. -/
inductive TemplateError where
  /-- The template itself is not well formed, or a layout is not. -/
  | malformed (reason : Text)
  /-- There is no value under this key. -/
  | missingKey (key : Json)
  /-- A position names no value, or lies outside a value. -/
  | outOfRange
  /-- A value has no attribute under this name. -/
  | noAttribute
  /-- The kind of the value does not allow the selection or the layout. -/
  | unsuited
  /-- The value is too large for its layout. -/
  | overflow
  /-- A field would be too long to hold. -/
  | tooLong
  /-- An integer has more digits than are written. -/
  | tooManyDigits
  deriving Repr

namespace Template

/-- A field: the path to its value, its conversion and its layout, as they are written. -/
structure Field where
  path : Text
  conversion : Option Char
  layout : Text
  deriving DecidableEq, Repr

/-- A piece of a template. -/
inductive Piece where
  | literal (t : Text)
  | field (f : Field)
  | malformed (reason : Text)
  deriving DecidableEq, Repr

/-- The path of a field, the character that ends it, and the rest. A bracket hides what is inside.
-/
def readPath (inBrackets : Bool) : Text → Except Text (Text × Char × Text)
  | [] => .error "expected '\x7d' before end of string".toList
  | c :: rest =>
    if inBrackets then (readPath (c ≠ ']') rest).map fun (p, e, r) => (c :: p, e, r)
    else if c = '{' then .error "unexpected '\x7b' in field name".toList
    else if c = '}' ∨ c = ':' ∨ c = '!' then .ok ([], c, rest)
    else (readPath (c = '[') rest).map fun (p, e, r) => (c :: p, e, r)

/-- A layout up to the brace that closes its field, and the rest; inner braces are balanced. -/
def readLayout (depth : Nat) : Text → Except Text (Text × Text)
  | [] => .error "unmatched '\x7b' in format spec".toList
  | c :: rest =>
    if c = '}' then
      match depth with
      | 0 => .ok ([], rest)
      | n + 1 => (readLayout n rest).map fun (l, r) => (c :: l, r)
    else (readLayout (if c = '{' then depth + 1 else depth) rest).map fun (l, r) => (c :: l, r)

/-- A field after its opening brace, and the rest. -/
def readField (t : Text) : Except Text (Field × Text) := do
  let (path, stop, rest) ← readPath false t
  if stop = '}' then return (⟨path, none, []⟩, rest)
  else if stop = ':' then
    let (layout, rest) ← readLayout 0 rest
    return (⟨path, none, layout⟩, rest)
  else match rest with
    | [] => throw "end of string while looking for conversion specifier".toList
    | [_] => throw "unmatched '\x7b' in format spec".toList
    | conversion :: next :: rest =>
      if next = '}' then return (⟨path, some conversion, []⟩, rest)
      else if next = ':' then
        let (layout, rest) ← readLayout 0 rest
        return (⟨path, some conversion, layout⟩, rest)
      else throw "expected ':' after conversion specifier".toList

/-- The pieces of a template, up to the first malformed one. The fuel is the length of the text. -/
def pieces : Nat → Text → List Piece
  | 0, _ => []
  | fuel + 1, t =>
    let plain := t.takeWhile fun c => c ≠ '{' && c ≠ '}'
    match t.dropWhile fun c => c ≠ '{' && c ≠ '}' with
    | [] => [.literal plain]
    | [c] => [.malformed ("Single '".toList ++ c :: "' encountered in format string".toList)]
    | c :: d :: rest =>
      if c = d then .literal (plain ++ [c]) :: pieces fuel rest
      else if c = '}' then [.malformed "Single '\x7d' encountered in format string".toList]
      else match readField (d :: rest) with
        | .error reason => [.literal plain, .malformed reason]
        | .ok (f, rest) => .literal plain :: .field f :: pieces fuel rest

/-- The pieces of a whole template. -/
def ofText (t : Text) : List Piece := pieces (t.length + 1) t

/-! ## Looking up values -/

/-- The number that a path component spells with digits of any script, if it is one, after the
number that the digits before it spell. A number that is too large for a position is refused as soon
as it is, whatever follows. -/
def readPosition (before : Nat) : Text → Except TemplateError (Option Nat)
  | [] => .ok (some before)
  | c :: rest =>
    match Text.digitValue? c with
    | none => .ok none
    | some d =>
      if Layout.numberLimit < 10 * before + d then
        .error (.malformed "Too many decimal digits in format string".toList)
      else readPosition (10 * before + d) rest

/-- The position that a path component is, if it is one. -/
def position (t : Text) : Except TemplateError (Option Nat) :=
  if t.isEmpty then .ok none else readPosition 0 t

/-- The item of a value that a bracketed component selects. -/
def select (v : Json) (component : Text) : Except TemplateError Json :=
  match position component with
  | .error e => .error e
  | .ok none =>
    match v with
    | .obj members =>
      match Json.member? component members with
      | some item => .ok item
      | none => .error (.missingKey (.str component))
    | _ => .error .unsuited
  | .ok (some n) =>
    match v with
    | .obj _ => .error (.missingKey (.int n))
    | .arr items => (items[n]?).elim (.error .outOfRange) .ok
    | .str t => (t[n]?).elim (.error .outOfRange) fun c => .ok (.str [c])
    | _ => .error .unsuited

/-- The part of a number under a name: a part of it as a complex number or, if it is whole, as a
fraction. -/
def part? (v : Json) (name : Text) : Option Json :=
  match v with
  | .bool b => whole? (if b then 1 else 0)
  | .int n => whole? n
  | .real x =>
    if name = "real".toList then some (.real x)
    else if name = "imag".toList then some (.real (Binary64.ofRatio false 0 1))
    else none
  | _ => none
where
  /-- The part of a whole number. -/
  whole? (n : Int) : Option Json :=
    if name = "real".toList ∨ name = "numerator".toList then some (.int n)
    else if name = "imag".toList then some (.int 0)
    else if name = "denominator".toList then some (.int 1)
    else none

/-- What a path leads to. -/
inductive Target where
  | value (v : Json)
  /-- An object that is no data, by what it looks like plainly and as a literal. -/
  | object (plain literal : Text)
  deriving Repr

/-- Where the attributes of values lead that are no parts of numbers: from a value, along a path
that starts with such an attribute. -/
abbrev Attributes := Json → Text → Except TemplateError Target

/-- No attributes but the parts of numbers. -/
def Attributes.none : Attributes := fun _ _ => .error .noAttribute

/-- Follow the components of a path from a value. The fuel is the length of the path. -/
def follow (attributes : Attributes) : Nat → Json → Text → Except TemplateError Target
  | 0, v, _ => .ok (.value v)
  | _, v, [] => .ok (.value v)
  | fuel + 1, v, c :: rest =>
    if c = '[' then
      let component := rest.takeWhile (· ≠ ']')
      match rest.dropWhile (· ≠ ']') with
      | [] => .error (.malformed "Missing ']' in format string".toList)
      | _ :: rest =>
        if component.isEmpty then .error (.malformed "Empty attribute in format string".toList)
        else do follow attributes fuel (← select v component) rest
    else if c = '.' then
      let name := rest.takeWhile fun c => c ≠ '.' && c ≠ '['
      if name.isEmpty then .error (.malformed "Empty attribute in format string".toList)
      else match part? v name with
        | some part => follow attributes fuel part (rest.dropWhile fun c => c ≠ '.' && c ≠ '[')
        | none => attributes v (c :: rest)
    else .error (.malformed "Only '.' or '[' may follow ']' in format field specifier".toList)

/-- What is at a path. A path without a name, or with a number for a name, asks for a position, and
there are none. -/
def lookup (attributes : Attributes) (values : List (Text × Json)) (path : Text) :
    Except TemplateError Target :=
  let name := path.takeWhile fun c => c ≠ '.' && c ≠ '['
  let rest := path.dropWhile fun c => c ≠ '.' && c ≠ '['
  if name.isEmpty then .error .outOfRange
  else match position name with
    | .error e => .error e
    | .ok (some _) => .error .outOfRange
    | .ok none =>
      match Json.member? name values with
      | none => .error (.missingKey (.str name))
      | some v => follow attributes (rest.length + 1) v rest

/-! ## Filling -/

/-- The look of a value, if the value can be written. -/
def written (v : Json) (look : Text) : Except TemplateError Text :=
  if v.writable then .ok look else .error .tooManyDigits

/-- What is at a path as it looks plainly. -/
def Target.plain : Target → Except TemplateError Text
  | value v => written v v.plain
  | object plain _ => .ok plain

/-- The literal of what is at a path. -/
def Target.literal : Target → Except TemplateError Text
  | value v => written v v.literal
  | object _ literal => .ok literal

/-- A text with escapes for all that is not ASCII. -/
def escaped (t : Text) : Text := t.flatMap fun c =>
  if c.toNat < 0x80 then [c]
  else if c.toNat < 0x100 then Text.hexEscape 'x' 2 c
  else if c.toNat < 0x10000 then Text.hexEscape 'u' 4 c
  else Text.hexEscape 'U' 8 c

/-- What is at a path, under a conversion. -/
def convert (target : Target) : Option Char → Except TemplateError Target
  | none => .ok target
  | some 's' => target.plain.map fun t => .value (.str t)
  | some 'r' => target.literal.map fun t => .value (.str t)
  | some 'a' => target.literal.map fun t => .value (.str (escaped t))
  | some c => .error (.malformed ("Unknown conversion specifier ".toList ++ Layout.shownChar c))

/-- What is at a path, in a layout; only texts and numbers have layouts. -/
def present (target : Target) (layout : Text) : Except TemplateError Text :=
  if layout.isEmpty then target.plain
  else match target with
    | .value (.str t) => lift (Layout.read Layout.textKind layout >>= (·.text t))
    | .value (.int n) => integer "int" n
    | .value (.bool b) => integer "bool" (if b then 1 else 0)
    | .value (.real x) => lift (Layout.read Layout.realKind layout >>= (·.real x))
    | _ => .error .unsuited
where
  /-- A failed layout as a failed template. -/
  lift (r : Except LayoutError Text) : Except TemplateError Text := r.mapError fun
    | .refused reason => .malformed reason
    | .overflow => .overflow
    | .tooLong => .tooLong
    | .tooManyDigits => .tooManyDigits
  /-- A whole number in the layout. -/
  integer (name : String) (n : Int) : Except TemplateError Text :=
    let value : Presented := ⟨name.toList, some 'd'⟩
    lift (Layout.read value layout >>= (·.whole value n))

/-- Pieces filled with named values. Fields inside a layout are filled first, but not in turn inside
theirs: `depth` counts the levels that are left. -/
def fill (attributes : Attributes) (depth : Nat) (values : List (Text × Json)) :
    List Piece → Except TemplateError Text
  | [] => .ok []
  | .literal t :: rest => (fill attributes depth values rest).map (t ++ ·)
  | .malformed reason :: _ => .error (.malformed reason)
  | .field f :: rest =>
    match lookup attributes values f.path with
    | .error e => .error e
    | .ok found =>
      match convert found f.conversion with
      | .error e => .error e
      | .ok converted =>
        match expand depth f.layout with
        | .error e => .error e
        | .ok layout =>
          match present converted layout with
          | .error e => .error e
          | .ok shown => (fill attributes depth values rest).map (shown ++ ·)
where
  /-- A layout with its own fields filled. -/
  expand : Nat → Text → Except TemplateError Text
    | depth, layout =>
      if layout.contains '{' then
        match depth with
        | 0 => .error (.malformed "Max string recursion exceeded".toList)
        | depth + 1 => fill attributes depth values (ofText layout)
      else .ok layout

/-- The template filled with named values. -/
def format (template : Text) (values : List (Text × Json))
    (attributes : Attributes := Attributes.none) : Except TemplateError Text :=
  fill attributes 1 values (ofText template)

/-- A template without braces is its own text, whatever the values are. -/
theorem format_of_no_braces {t : Text} (h : t.all (fun c => c ≠ '{' && c ≠ '}') = true)
    (values : List (Text × Json)) {attributes : Attributes} :
    format t values attributes = .ok t := by
  have hp := List.all_eq_true.mp h
  have htake : (t ++ []).takeWhile (fun c => c ≠ '{' && c ≠ '}') = t ++ [] :=
    List.takeWhile_append_of_pos hp
  have hdrop : (t ++ []).dropWhile (fun c => c ≠ '{' && c ≠ '}') = [] :=
    List.dropWhile_append_of_pos hp
  rw [List.append_nil] at htake hdrop
  have hpieces : ofText t = [.literal t] := by rw [ofText, pieces, htake, hdrop]
  rw [format, hpieces, fill, fill]
  exact congrArg Except.ok (List.append_nil t)

end Template

end MaskPolicy
