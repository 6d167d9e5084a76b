import MaskPolicy.Yaml.Scalar

/-!
# The tokens of a document

Tokens are read from left to right. In block collections the indentation opens and closes
collections, and a token may turn out to be a key when a colon follows on its line; the place of
each token that may be a key is kept until then. A key token is put in at that place when the colon
is found.
-/

namespace MaskPolicy.Yaml

/-- The place of a token that may be a key: how many tokens come before it, and where it starts. -/
structure KeyPlace where
  level : Nat
  before : Nat
  required : Bool
  index : Nat
  line : Nat
  column : Nat

/-- What has been read so far. -/
structure TokenStream where
  cursor : Cursor
  tokens : Array Token := #[]
  rules : Rules := .current
  /-- May a key start here? -/
  keyAllowed : Bool := true
  /-- The column of the innermost block collection, and of those around it. -/
  indent : Int := -1
  outer : List Int := []
  /-- The brackets and braces that are open, the innermost first. -/
  flow : List Char := []
  /-- At most one place for each level of brackets. -/
  keys : List KeyPlace := []
  done : Bool := false

namespace TokenStream

/-- Are some brackets open? -/
def inFlow (s : TokenStream) : Bool := !s.flow.isEmpty

/-- One more token. -/
def push (s : TokenStream) (t : Token) : TokenStream := { s with tokens := s.tokens.push t }

/-- A token put in before others. -/
def insertAt (s : TokenStream) (place : Nat) (t : Token) : TokenStream :=
  { s with tokens := s.tokens.extract 0 place ++ #[t] ++ s.tokens.extract place s.tokens.size }

/-- The cursor some characters on. -/
def advance (s : TokenStream) (n : Nat) : TokenStream := { s with cursor := s.cursor.skip n }

/-- The place at the current level of brackets that may be a key. -/
def key? (s : TokenStream) : Option KeyPlace := s.keys.find? (·.level = s.flow.length)

/-- Give up the place at the current level. -/
def dropKey (s : TokenStream) : TokenStream :=
  { s with keys := s.keys.filter (·.level ≠ s.flow.length) }

/-- The next token ends the search for the colon of the place at the current level. -/
def closeKey (s : TokenStream) : Except SyntaxError TokenStream :=
  match s.key? with
  | some k => if k.required then .error .missingColon else .ok s.dropKey
  | none => .ok s

/-- The next token may be a key, if a key is allowed here. -/
def saveKey (s : TokenStream) : Except SyntaxError TokenStream :=
  if s.keyAllowed then do
    let s ← s.closeKey
    return { s with keys := {
      level := s.flow.length
      before := s.tokens.size
      required := !s.inFlow && s.indent = s.cursor.column
      index := s.cursor.index
      line := s.cursor.line
      column := s.cursor.column } :: s.keys }
  else .ok s

/-- A key ends on the line on which it starts, and within 1024 characters. -/
def dropStaleKeys (s : TokenStream) : Except SyntaxError TokenStream :=
  let stale (k : KeyPlace) : Bool := k.line ≠ s.cursor.line || 1024 < s.cursor.index - k.index
  if s.keys.any fun k => stale k && k.required then .error .missingColon
  else .ok { s with keys := s.keys.filter fun k => !stale k }

/-- Close the block collections that are indented by more than a column. -/
def unwind (column : Int) : List Int → TokenStream → TokenStream
  | [], s => s
  | previous :: outer, s =>
    if !s.inFlow && column < s.indent then
      unwind column outer { s.push .blockEnd with indent := previous, outer }
    else s

/-- Close the block collections that end at a column. -/
def unwindTo (s : TokenStream) (column : Int) : TokenStream := unwind column s.outer s

/-- Open a block collection if the column is further in. -/
def indentAt (s : TokenStream) (column : Nat) (place : Nat) (opening : Token) : TokenStream :=
  if s.indent < column then
    { s.insertAt place opening with indent := column, outer := s.indent :: s.outer }
  else s

/-- The blanks, comments and line ends before the next token. A line end outside brackets allows a
key. The fuel is the length of the rest. -/
def skipToToken : Nat → TokenStream → TokenStream
  | 0, s => s
  | fuel + 1, s =>
    let c := s.cursor.skipRun fun x => x = ' ' || (s.inFlow && x = '\t')
    let c := if c.first = '#' then c.skipRun (!isLineEnd ·) else c
    if isBreak c.first then
      skipToToken fuel { s with cursor := c.lineBreak.2, keyAllowed := s.keyAllowed || !s.inFlow }
    else { s with cursor := c }

/-! ## Names, tags and directives -/

/-- The characters of the names of anchors. -/
def isNameChar (c : Char) : Bool :=
  !(c ∈ [',', '[', ']', '{', '}']) &&
    Text.inRanges [(0x21, 0x7e), (0xa0, 0xd7ff), (0xe000, 0xfefe), (0xff00, 0xfffd),
      (0x10000, 0x10ffff)] c.toNat

/-- The characters of tag handles. -/
def isHandleChar (c : Char) : Bool := c.isAlphanum || c = '-' || c = '_'

/-- The characters of tags. -/
def isTagChar (rules : Rules) (c : Char) : Bool :=
  c.isAlphanum || c ∈ "-;/?:@&=+$,_.!~*'()[]%".toList || (c = '#' && rules = .current)

/-- The name of an anchor or an alias after its indicator. -/
def readName (c : Cursor) : Except SyntaxError (Text × Cursor) :=
  let (name, c) := c.run isNameChar
  if name.isEmpty then .error .badName
  else if endsWord c.first || c.first ∈ "\t?:,[]\x7b\x7d%@\x60".toList then .ok (name, c)
  else .error .badName

/-- A tag without its escapes; escapes are bytes of encoded text. -/
def unescapeTag : Nat → Text → Option (List UInt8)
  | 0, _ => some []
  | _, [] => some []
  | fuel + 1, '%' :: a :: b :: rest => do
    let n ← Json.hexNumber? [a, b]
    return UInt8.ofNat n :: (← unescapeTag fuel rest)
  | _, '%' :: _ => none
  | fuel + 1, c :: rest => do
    return (String.singleton c).toUTF8.toList ++ (← unescapeTag fuel rest)

/-- The characters of a tag from here on. -/
def readTagChars (rules : Rules) (c : Cursor) : Except SyntaxError (Text × Cursor) :=
  let (raw, c) := c.run (isTagChar rules)
  if raw.isEmpty then .error .badTag
  else
    let decoded := (unescapeTag raw.length raw).bind fun bytes =>
      String.fromUTF8? (ByteArray.mk bytes.toArray)
    match decoded with
    | some t => .ok (t.toList, c)
    | none => .error .badTag

/-- A tag handle: an exclamation mark, or a name between two. -/
def readHandle (c : Cursor) : Except SyntaxError (Text × Cursor) :=
  if c.first ≠ '!' then .error .badTag
  else if c.peek 1 = ' ' then .ok (['!'], c.next)
  else
    let (name, c) := c.next.run isHandleChar
    if c.first = '!' then .ok ('!' :: name ++ ['!'], c.next) else .error .badTag

/-- A tag, its handle and what follows the handle. -/
def readTag (rules : Rules) (c : Cursor) : Except SyntaxError (Token × Cursor) := do
  let (token, c) ←
    if c.peek 1 = '<' then do
      let (suffix, c) ← readTagChars rules (c.skip 2)
      if c.first = '>' then pure (Token.tag none suffix, c.next) else throw .badTag
    else if isGap (c.peek 1) then pure (Token.tag none ['!'], c.next)
    else do
      let word := (c.next.run (!endsWord ·)).1
      let (handle, c) ← if word.contains '!' then readHandle c else pure (['!'], c.next)
      let (suffix, c) ← readTagChars rules c
      pure (Token.tag (some handle) suffix, c)
  if endsWord c.first then return (token, c) else throw .badTag

/-- The number in a version. -/
def readVersionNumber (c : Cursor) : Except SyntaxError (Nat × Cursor) :=
  let (digits, c) := c.run Char.isDigit
  match Decimal.toNat? digits with
  | some n => .ok (n, c)
  | none => .error .badDirective

/-- A directive after its percent sign, through the end of its line. -/
def readDirective (rules : Rules) (c : Cursor) : Except SyntaxError (Token × Cursor) := do
  let (name, c) := c.run fun x => isHandleChar x || x = ':' || x = '.'
  if name.isEmpty || !endsWord c.first then throw .badDirective
  let (token, c) ←
    if name = "YAML".toList then do
      let (major, c) ← readVersionNumber (c.skipRun (· = ' '))
      if c.first ≠ '.' then throw .badDirective
      let (minor, c) ← readVersionNumber c.next
      if !endsWord c.first then throw .badDirective
      pure (Token.version major minor, c)
    else if name = "TAG".toList then do
      let (handle, c) ← readHandle (c.skipRun (· = ' '))
      if c.first ≠ ' ' then throw .badDirective
      let (expansion, c) ← readTagChars rules (c.skipRun (· = ' '))
      if !endsWord c.first then throw .badDirective
      pure (Token.handle handle expansion, c)
    else pure (Token.directive, c.skipRun (!isLineEnd ·))
  let c := c.skipRun (· = ' ')
  let c := if c.first = '#' then c.skipRun (!isLineEnd ·) else c
  if isLineEnd c.first then return (token, c.lineBreak.2) else throw .badDirective

/-! ## One token -/

/-- The end of the document. -/
def endStream (s : TokenStream) : Except SyntaxError TokenStream := do
  let s ← (s.unwindTo (-1)).closeKey
  return { s.push .streamEnd with keyAllowed := false, keys := [], done := true }

/-- A directive. A version selects the rules for what follows. -/
def addDirective (s : TokenStream) : Except SyntaxError TokenStream := do
  let s ← (s.unwindTo (-1)).closeKey
  let (token, cursor) ← readDirective s.rules s.cursor.next
  let rules := match token with
    | .version major minor => if major = 1 ∧ minor ≤ 1 then .classic else .current
    | _ => s.rules
  return { s.push token with keyAllowed := false, cursor, rules }

/-- A line that starts or ends a document. -/
def addSeparator (s : TokenStream) (token : Token) : Except SyntaxError TokenStream := do
  let s ← (s.unwindTo (-1)).closeKey
  return { (s.advance 3).push token with keyAllowed := false }

/-- An opening bracket or brace, which may start a key. -/
def addOpening (s : TokenStream) (mark : Char) (token : Token) :
    Except SyntaxError TokenStream := do
  let s ← s.saveKey
  return { (s.advance 1).push token with flow := mark :: s.flow, keyAllowed := true }

/-- A closing bracket or brace. -/
def addClosing (s : TokenStream) (token : Token) : Except SyntaxError TokenStream := do
  let s ← s.closeKey
  return { (s.advance 1).push token with flow := s.flow.drop 1, keyAllowed := false }

/-- A comma. -/
def addComma (s : TokenStream) : Except SyntaxError TokenStream := do
  let s ← s.closeKey
  return { (s.advance 1).push .comma with keyAllowed := true }

/-- The dash of a sequence. -/
def addEntry (s : TokenStream) : Except SyntaxError TokenStream := do
  if !s.inFlow && !s.keyAllowed then throw .misplacedEntry
  let s := if s.inFlow then s else s.indentAt s.cursor.column s.tokens.size .blockSequence
  let s ← s.closeKey
  return { (s.advance 1).push .entry with keyAllowed := true }

/-- The question mark of a key. -/
def addKey (s : TokenStream) : Except SyntaxError TokenStream := do
  if !s.inFlow && !s.keyAllowed then throw .misplacedKey
  let s := if s.inFlow then s else s.indentAt s.cursor.column s.tokens.size .blockMapping
  let s ← s.closeKey
  return { (s.advance 1).push .key with keyAllowed := !s.inFlow }

/-- A colon. If a key may have started on this line, it did. -/
def addValue (s : TokenStream) : Except SyntaxError TokenStream :=
  match s.key? with
  | some k =>
    let s := s.dropKey.insertAt k.before .key
    let s := if s.inFlow then s else s.indentAt k.column k.before .blockMapping
    .ok { (s.advance 1).push .value with keyAllowed := false }
  | none => do
    if !s.inFlow && !s.keyAllowed then throw .misplacedValue
    let s := if s.inFlow then s else s.indentAt s.cursor.column s.tokens.size .blockMapping
    let s ← s.closeKey
    return { (s.advance 1).push .value with keyAllowed := !s.inFlow }

/-- A token that may be a key, read by `reader`. -/
def addWith (s : TokenStream) (reader : Cursor → Except SyntaxError (Token × Cursor)) :
    Except SyntaxError TokenStream := do
  let s ← s.saveKey
  let (token, cursor) ← reader s.cursor
  return { s.push token with cursor, keyAllowed := false }

/-- A plain scalar. A key may follow the end of its last line. -/
def addPlain (s : TokenStream) : Except SyntaxError TokenStream := do
  let s ← s.saveKey
  let (text, cursor, ended) :=
    readPlain s.rules s.inFlow (s.indent + 1) (s.cursor.rest.length + 1) s.cursor
  return { s.push (.scalar true text) with cursor, keyAllowed := ended }

/-- A block scalar. -/
def addBlock (s : TokenStream) (folded : Bool) : Except SyntaxError TokenStream := do
  let s ← s.closeKey
  let (text, cursor) ← readBlock folded s.indent s.cursor.next
  return { s.push (.scalar false text) with cursor, keyAllowed := true }

/-- Is the colon at the cursor a token of its own? -/
def atValue (s : TokenStream) : Bool :=
  let gap := isGap (s.cursor.peek 1)
  match s.flow, s.rules with
  | [], _ => gap
  | _, .classic => true
  | '[' :: _, .current => gap
  | _, .current => gap || !(s.tokens.back? = some .value && !s.keys.isEmpty)

/-- Can a plain scalar start at the cursor? -/
def atPlain (s : TokenStream) : Bool :=
  let c := s.cursor.first
  let next := s.cursor.peek 1
  if !(c ∈ "\x00 \t\r\n\u0085\u2028\u2029-?:,[]\x7b\x7d#&*!|>'\"%@\x60".toList) then true
  else if c = ':' && s.inFlow && s.rules = .current && next ≠ ' ' && next ≠ '\t' then true
  else !isGap next && (c = '-' || (!s.inFlow && (c = '?' || c = ':')))

/-- The next token. -/
def step (s : TokenStream) : Except SyntaxError TokenStream := do
  let s ← (skipToToken (s.cursor.rest.length + 1) s).dropStaleKeys
  let s := s.unwindTo s.cursor.column
  let c := s.cursor.first
  let gap := isGap (s.cursor.peek 1)
  if c = '\x00' then s.endStream
  else if c = '%' && s.cursor.column = 0 then s.addDirective
  else if s.cursor.column = 0 && s.cursor.atMark '-' then s.addSeparator .documentStart
  else if s.cursor.column = 0 && s.cursor.atMark '.' then s.addSeparator .documentEnd
  else if c = '[' then s.addOpening c .openBracket
  else if c = '{' then s.addOpening c .openBrace
  else if c = ']' then s.addClosing .closeBracket
  else if c = '}' then s.addClosing .closeBrace
  else if c = ',' then s.addComma
  else if c = '-' && gap then s.addEntry
  else if c = '?' && (s.inFlow || gap) then s.addKey
  else if c = ':' && s.atValue then s.addValue
  else if c = '*' then s.addWith fun c => (readName c.next).map fun (name, c) => (.alias name, c)
  else if c = '&' then s.addWith fun c => (readName c.next).map fun (name, c) => (.anchor name, c)
  else if c = '!' then s.addWith (readTag s.rules)
  else if c = '|' && !s.inFlow then s.addBlock false
  else if c = '>' && !s.inFlow then s.addBlock true
  else if c = '\'' || c = '"' then
    s.addWith fun start =>
      (readQuoted c (start.rest.length + 1) start.next).map fun (t, c) => (.scalar false t, c)
  else if s.atPlain then s.addPlain
  else throw .unexpectedCharacter

/-- Tokens up to the end of the document. Every step reads a character, so that the fuel is the
length of the rest. -/
def readAll : Nat → TokenStream → Except SyntaxError (List Token × Rules)
  | 0, _ => .error .unexpectedCharacter
  | fuel + 1, s => do
    let s ← s.step
    if s.done then return (s.tokens.toList, s.rules) else readAll fuel s

end TokenStream

/-- The tokens of a text, and the rules it is read by. A byte order mark at its start is dropped. -/
def tokensOf (t : Text) : Except SyntaxError (List Token × Rules) :=
  let cursor : Cursor := { rest := t }
  TokenStream.readAll (t.length + 2)
    { cursor := if cursor.first = '\ufeff' then cursor.next else cursor }

end MaskPolicy.Yaml
