import MaskPolicy.Json.Reader
import MaskPolicy.Yaml.Cursor
import MaskPolicy.Yaml.Token

/-!
# Texts of scalars

How the text of a scalar is read: plain, between quotes, or as an indented block. Line breaks inside
a scalar are folded: a single one becomes a blank, and of several the first one is dropped.
-/

namespace MaskPolicy.Yaml

/-- The two sets of rules for documents. -/
inductive Rules where
  /-- Version 1.1. -/
  | classic
  /-- Version 1.2. -/
  | current
  deriving DecidableEq, Repr

/-! ## Plain scalars -/

/-- The length of the part of a plain scalar without blanks that starts here. -/
def plainLength (rules : Rules) (inFlow : Bool) : Text → Nat
  | [] => 0
  | c :: rest =>
    let next := rest.head?.getD '\x00'
    if (c = ':' && !isGap next) || (c = '?' && rules = .current) then
      plainLength rules inFlow rest + 1
    else if isGap c || (!inFlow && c = ':') ||
        (inFlow && c ∈ [',', ':', '?', '[', ']', '{', '}']) then 0
    else plainLength rules inFlow rest + 1

/-- What separates two parts of a plain scalar, as it stands in the value; whether a line was ended.
-/
def plainSpaces (c : Cursor) : Text × Cursor × Bool :=
  let (blanks, c) := c.run (· = ' ')
  if isBreak c.first then
    let (first, c) := c.lineBreak
    if c.atSeparator then ([], c, true)
    else
      let (more, c, stopped) := Cursor.breaks (· = ' ') (c.rest.length + 1) c
      if stopped then ([], c, true)
      else if first ≠ ['\n'] then (first ++ more, c, true)
      else if more = [] then ([' '], c, true)
      else (more, c, true)
  else (blanks, c, false)

/-- A plain scalar with lines indented by at least `indent`: its text, the cursor after it, and
whether the last thing read was the end of a line. The fuel is the length of the rest. -/
def readPlain (rules : Rules) (inFlow : Bool) (indent : Int) : Nat → Cursor → Text × Cursor × Bool
  | 0, c => ([], c, false)
  | fuel + 1, c =>
    let length := plainLength rules inFlow c.rest
    if c.first = '#' ∨ length = 0 then ([], c, false)
    else
      let part := c.rest.take length
      let (spaces, after, ended) := plainSpaces (c.skip length)
      let stop := spaces = [] || after.first = '#' || (!inFlow && (after.column : Int) < indent) ||
        plainLength rules inFlow after.rest = 0
      if stop then (part, after, ended)
      else
        let (more, last, ended) := readPlain rules inFlow indent fuel after
        (part ++ spaces ++ more, last, ended)

/-! ## Quoted scalars -/

/-- The character that a letter after a backslash stands for. -/
def escape? : Char → Option Char
  | '0' => some '\x00'
  | 'a' => some '\x07'
  | 'b' => some '\x08'
  | 't' => some '\t'
  | '\t' => some '\t'
  | 'n' => some '\n'
  | 'v' => some '\x0b'
  | 'f' => some '\x0c'
  | 'r' => some '\r'
  | 'e' => some '\x1b'
  | ' ' => some ' '
  | '"' => some '"'
  | '/' => some '/'
  | '\\' => some '\\'
  | 'N' => some '\x85'
  | '_' => some '\xa0'
  | 'L' => some '\u2028'
  | 'P' => some '\u2029'
  | _ => none

/-- How many hexadecimal digits follow a letter after a backslash. -/
def escapeWidth? : Char → Option Nat
  | 'x' => some 2
  | 'u' => some 4
  | 'U' => some 8
  | _ => none

/-- The line breaks inside a quoted scalar, which may not hold a separator of documents. -/
def quotedBreaks (c : Cursor) : Except SyntaxError (Text × Cursor) :=
  if c.atSeparator then .error .unclosedQuote
  else
    let (breaks, c, stopped) := Cursor.breaks (fun x => x = ' ' || x = '\t') (c.rest.length + 1) c
    if stopped then .error .unclosedQuote else .ok (breaks, c)

/-- An escape after its backslash: the text it stands for. -/
def readEscape (c : Cursor) : Except SyntaxError (Text × Cursor) :=
  match escape? c.first, escapeWidth? c.first with
  | some x, _ => .ok ([x], c.next)
  | none, some width =>
    let digits := c.next.rest.take width
    match Json.hexNumber? digits with
    | some n =>
      if digits.length = width ∧ n.isValidChar then .ok ([Char.ofNat n], c.next.skip width)
      else .error .badEscape
    | none => .error .badEscape
  | none, none => if isBreak c.first then quotedBreaks c.lineBreak.2 else .error .badEscape

/-- Blanks and line breaks inside a quoted scalar. -/
def quotedSpaces (c : Cursor) : Except SyntaxError (Text × Cursor) :=
  let (blanks, c) := c.run fun x => x = ' ' || x = '\t'
  if c.first = '\x00' then .error .unclosedQuote
  else if isBreak c.first then do
    let (first, c) := c.lineBreak
    let (more, c) ← quotedBreaks c
    if first ≠ ['\n'] then return (first ++ more, c)
    else if more = [] then return ([' '], c)
    else return (more, c)
  else .ok (blanks, c)

/-- A quoted scalar after its opening quote: its text and the cursor after the closing quote. The
fuel is the length of the rest. -/
def readQuoted (quote : Char) : Nat → Cursor → Except SyntaxError (Text × Cursor)
  | 0, _ => .error .unclosedQuote
  | fuel + 1, c =>
    let x := c.first
    if quote = '\'' ∧ x = '\'' ∧ c.peek 1 = '\'' then do
      let (rest, c) ← readQuoted quote fuel (c.skip 2)
      return ('\'' :: rest, c)
    else if x = quote then .ok ([], c.next)
    else if quote = '"' ∧ x = '\\' then do
      let (part, c) ← readEscape c.next
      let (rest, c) ← readQuoted quote fuel c
      return (part ++ rest, c)
    else if x = ' ' ∨ x = '\t' ∨ x = '\x00' ∨ isBreak x then do
      let (part, c) ← quotedSpaces c
      let (rest, c) ← readQuoted quote fuel c
      return (part ++ rest, c)
    else do
      let (rest, c) ← readQuoted quote fuel c.next
      return (x :: rest, c)

/-! ## Block scalars -/

/-- What becomes of the line breaks at the end of a block scalar. -/
inductive Chomping where
  | strip
  | clip
  | keep
  deriving DecidableEq, Repr

/-- The chomping that an indicator asks for. -/
def Chomping.ofChar? : Char → Option Chomping
  | '+' => some keep
  | '-' => some strip
  | _ => none

/-- The indentation that a digit asks for; zero is refused. -/
def increment? (c : Cursor) : Except SyntaxError (Option Nat × Cursor) :=
  if c.first = '0' then .error .badBlockHeader
  else if c.first.isDigit then .ok (some (c.first.toNat - '0'.toNat), c.next)
  else .ok (none, c)

/-- The header of a block scalar through the end of its line. -/
def readHeader (c : Cursor) : Except SyntaxError (Chomping × Option Nat × Cursor) := do
  let (chomping, increment, c) ←
    match Chomping.ofChar? c.first with
    | some chomping => do
      let (increment, c) ← increment? c.next
      pure (chomping, increment, c)
    | none => do
      let (increment, c) ← increment? c
      match increment, Chomping.ofChar? c.first with
      | some _, some chomping => pure (chomping, increment, c.next)
      | _, _ => pure (Chomping.clip, increment, c)
  if !endsWord c.first then throw .badBlockHeader
  let c := c.skipRun (· = ' ')
  let c := if c.first = '#' then c.skipRun (!isLineEnd ·) else c
  if !isLineEnd c.first then throw .badBlockHeader
  return (chomping, increment, c.lineBreak.2)

/-- The empty lines before a block scalar without an indentation of its own, and the deepest of
their indentations. -/
def leadingBreaks : Nat → Cursor → Text × Nat × Cursor
  | 0, c => ([], 0, c)
  | fuel + 1, c =>
    if isBreak c.first then
      let (first, c) := c.lineBreak
      let (more, deepest, c) := leadingBreaks fuel c
      (first ++ more, deepest, c)
    else if c.first = ' ' then
      let c := c.next
      let (more, deepest, last) := leadingBreaks fuel c
      (more, max c.column deepest, last)
    else ([], 0, c)

/-- Blanks up to an indentation. -/
def indentTo (indent : Nat) (c : Cursor) : Cursor :=
  c.skip ((c.rest.takeWhile (· = ' ')).take (indent - c.column)).length

/-- Empty lines of a block scalar, each with blanks up to the indentation. -/
def blockBreaks (indent : Nat) : Nat → Cursor → Text × Cursor
  | 0, c => ([], c)
  | fuel + 1, c =>
    let c := indentTo indent c
    if isBreak c.first then
      let (first, c) := c.lineBreak
      let (more, c) := blockBreaks indent fuel c
      (first ++ more, c)
    else ([], c)

/-- The lines of a block scalar at an indentation, given the empty lines before them. -/
def readBlockLines (folded topLevel : Bool) (chomping : Chomping) (indent : Nat) :
    Nat → Text → Cursor → Text × Cursor
  | 0, _, c => ([], c)
  | fuel + 1, before, c =>
    let leadsText := !(c.first = ' ' || c.first = '\t')
    let (line, c) := c.run (!isLineEnd ·)
    let (lineBreak, c) := c.lineBreak
    let (breaks, c) := blockBreaks indent (c.rest.length + 1) c
    let stops :=
      (topLevel && c.column = 0 && c.atSeparator) || c.column ≠ indent || c.first = '\x00'
    if stops then
      let ending := match chomping with
        | .strip => []
        | .clip => lineBreak
        | .keep => lineBreak ++ breaks
      (before ++ line ++ ending, c)
    else
      let joined :=
        if folded && lineBreak = ['\n'] && leadsText && !(c.first = ' ' || c.first = '\t') then
          if breaks = [] then [' '] else []
        else lineBreak
      let (rest, c) := readBlockLines folded topLevel chomping indent fuel breaks c
      (before ++ line ++ joined ++ rest, c)

/-- A block scalar after its indicator, in a collection with the given indentation. -/
def readBlock (folded : Bool) (parent : Int) (c : Cursor) : Except SyntaxError (Text × Cursor) := do
  let (chomping, increment, c) ← readHeader c
  let least := (parent + 1).toNat
  let (breaks, indent, c) := match increment with
    | none =>
      let (breaks, deepest, c) := leadingBreaks (c.rest.length + 1) c
      (breaks, max least deepest, c)
    | some n =>
      let indent := max least 1 + n - 1
      let (breaks, c) := blockBreaks indent (c.rest.length + 1) c
      (breaks, indent, c)
  if c.column = indent ∧ c.first ≠ '\x00' then
    let topLevel := least = 0 && increment.isNone
    return readBlockLines folded topLevel chomping indent (c.rest.length + 1) breaks c
  else
    return (if chomping = .keep then breaks else [], c)

end MaskPolicy.Yaml
