import MaskPolicy.Yaml.TokenStream

/-!
# The nodes of a document

A document is a tree of nodes: scalars, sequences and mappings, each maybe with an anchor and a tag,
and aliases that stand for anchored nodes. Tokens are read into nodes by recursive descent; an
absent node is an empty plain scalar.
-/

namespace MaskPolicy.Yaml

/-- The anchor and the tag of a node. A tag is expanded, and `!` is a tag of its own. -/
structure Properties where
  anchor : Option Text := none
  tag : Option Text := none
  deriving DecidableEq, Repr

/-- A node of a document. -/
inductive Node where
  | alias (name : Text)
  | scalar (properties : Properties) (isPlain : Bool) (text : Text)
  | sequence (properties : Properties) (items : List Node)
  | mapping (properties : Properties) (pairs : List (Node × Node))
  deriving Repr, Inhabited

/-- The node that stands where there is none. -/
def Node.absent : Node := .scalar {} true []

/-- The handles of tags and what they stand for. -/
abbrev Handles := List (Text × Text)

/-- The handles that need no directive. -/
def standardHandles : Handles := [(['!'], ['!']), (['!', '!'], "tag:yaml.org,2002:".toList)]

/-- The expansion of a tag. -/
def expandTag (handles : Handles) (handle : Option Text) (suffix : Text) :
    Except SyntaxError Text :=
  match handle with
  | none => .ok suffix
  | some h =>
    match handles.find? fun e => decide (e.1 = h) with
    | some e => .ok (e.2 ++ suffix)
    | none => .error .undefinedHandle

/-- The anchor and the tag in front of a node, in either order. -/
def readProperties (handles : Handles) : List Token → Except SyntaxError (Properties × List Token)
  | .anchor a :: .tag h t :: rest => do
    return ({ anchor := some a, tag := some (← expandTag handles h t) }, rest)
  | .tag h t :: .anchor a :: rest => do
    return ({ anchor := some a, tag := some (← expandTag handles h t) }, rest)
  | .anchor a :: rest => .ok ({ anchor := some a }, rest)
  | .tag h t :: rest => do
    return ({ tag := some (← expandTag handles h t) }, rest)
  | rest => .ok ({}, rest)

/-- What kind of place a node stands at. -/
inductive Place where
  /-- Inside brackets. -/
  | flow
  /-- In a block collection. -/
  | block
  /-- As the key or the value of a block mapping, where dashes need no further indentation. -/
  | mapped
  deriving DecidableEq, Repr

/-- Does a token end an item of a sequence that has no indentation of its own? -/
def endsLooseItem : Token → Bool
  | .entry | .key | .value | .blockEnd => true
  | _ => false

/-- Does a token end an item of a block sequence? -/
def endsItem : Token → Bool
  | .entry | .blockEnd => true
  | _ => false

/-- Does a token end the key or the value of a block mapping? -/
def endsPart : Token → Bool
  | .key | .value | .blockEnd => true
  | _ => false

/-- Does a token end the key in a flow mapping? -/
def endsFlowKey : Token → Bool
  | .value | .comma | .closeBrace => true
  | _ => false

/-- Does a token end the value in a flow mapping? -/
def endsFlowValue : Token → Bool
  | .comma | .closeBrace => true
  | _ => false

/-- Does a token end the key of a pair in a flow sequence? -/
def endsPairKey : Token → Bool
  | .value | .comma | .closeBracket => true
  | _ => false

/-- Does a token end the value of a pair in a flow sequence? -/
def endsPairValue : Token → Bool
  | .comma | .closeBracket => true
  | _ => false

/-- A node that has nothing but properties, if it has any. -/
def bareNode (properties : Properties) (rest : List Token) :
    Except SyntaxError (Node × List Token) :=
  if properties = {} then .error .expectedNode
  else .ok (.scalar properties (properties.tag.isNone || properties.tag = some ['!']) [], rest)

mutual

/-- A node. -/
def readNode (handles : Handles) (place : Place) :
    Nat → List Token → Except SyntaxError (Node × List Token)
  | 0, _ => .error .expectedNode
  | _ + 1, .alias name :: rest => .ok (.alias name, rest)
  | fuel + 1, tokens => do
    let (properties, rest) ← readProperties handles tokens
    match place, rest with
    | .mapped, .entry :: _ => readLooseItems handles properties fuel rest
    | _, .scalar isPlain text :: rest =>
      let resolved := (isPlain && properties.tag.isNone) || properties.tag = some ['!']
      return (.scalar properties resolved text, rest)
    | _, .openBracket :: rest => readFlowItems handles properties true [] fuel rest
    | _, .openBrace :: rest => readFlowPairs handles properties true [] fuel rest
    | .flow, _ => bareNode properties rest
    | _, .blockSequence :: rest => readItems handles properties [] fuel rest
    | _, .blockMapping :: rest => readPairs handles properties [] fuel rest
    | _, _ => bareNode properties rest

/-- A node, unless the next token says that there is none. -/
def readPart (handles : Handles) (place : Place) (ends : Token → Bool) :
    Nat → List Token → Except SyntaxError (Node × List Token)
  | 0, _ => .error .expectedNode
  | fuel + 1, tokens =>
    match tokens with
    | t :: _ => if ends t then .ok (.absent, tokens) else readNode handles place fuel tokens
    | [] => .error .expectedNode

/-- The items of a block sequence after those that are read, the latest first. -/
def readItems (handles : Handles) (properties : Properties) (items : List Node) :
    Nat → List Token → Except SyntaxError (Node × List Token)
  | 0, _ => .error .expectedBlockEnd
  | fuel + 1, .entry :: rest => do
    let (item, rest) ← readPart handles .block endsItem fuel rest
    readItems handles properties (item :: items) fuel rest
  | _, .blockEnd :: rest => .ok (.sequence properties items.reverse, rest)
  | _, _ => .error .expectedBlockEnd

/-- The items of a sequence that has no indentation of its own. -/
def readLooseItems (handles : Handles) (properties : Properties) :
    Nat → List Token → Except SyntaxError (Node × List Token)
  | 0, _ => .error .expectedBlockEnd
  | fuel + 1, tokens => do
    let (items, rest) ← readLooseList handles fuel tokens
    return (.sequence properties items, rest)

/-- The list of those items. -/
def readLooseList (handles : Handles) :
    Nat → List Token → Except SyntaxError (List Node × List Token)
  | 0, _ => .error .expectedBlockEnd
  | fuel + 1, .entry :: rest => do
    let (item, rest) ← readPart handles .block endsLooseItem fuel rest
    let (items, rest) ← readLooseList handles fuel rest
    return (item :: items, rest)
  | _, tokens => .ok ([], tokens)

/-- The pairs of a block mapping after those that are read, the latest first. -/
def readPairs (handles : Handles) (properties : Properties) (pairs : List (Node × Node)) :
    Nat → List Token → Except SyntaxError (Node × List Token)
  | 0, _ => .error .expectedBlockEnd
  | fuel + 1, .key :: rest => do
    let (key, rest) ← readPart handles .mapped endsPart fuel rest
    let (value, rest) ← readValueOf handles .mapped endsPart fuel rest
    readPairs handles properties ((key, value) :: pairs) fuel rest
  | fuel + 1, .value :: rest => do
    let (value, rest) ← readValueOf handles .mapped endsPart fuel (.value :: rest)
    readPairs handles properties ((.absent, value) :: pairs) fuel rest
  | _, .blockEnd :: rest => .ok (.mapping properties pairs.reverse, rest)
  | _, _ => .error .expectedBlockEnd

/-- The value of a key, if there is a colon. -/
def readValueOf (handles : Handles) (place : Place) (ends : Token → Bool) :
    Nat → List Token → Except SyntaxError (Node × List Token)
  | 0, _ => .error .expectedNode
  | fuel + 1, .value :: rest => readPart handles place ends fuel rest
  | _, tokens => .ok (.absent, tokens)

/-- The items in brackets after those that are read. An item may be a single pair. -/
def readFlowItems (handles : Handles) (properties : Properties) (isFirst : Bool)
    (items : List Node) : Nat → List Token → Except SyntaxError (Node × List Token)
  | 0, _ => .error .expectedFlowEnd
  | _, .closeBracket :: rest => .ok (.sequence properties items.reverse, rest)
  | fuel + 1, tokens => do
    let rest ← match isFirst, tokens with
      | true, rest => pure rest
      | false, .comma :: rest => pure rest
      | false, _ => throw .expectedFlowEnd
    match rest with
    | .closeBracket :: rest => return (.sequence properties items.reverse, rest)
    | .key :: rest =>
      let (key, rest) ← readPart handles .flow endsPairKey fuel rest
      let (value, rest) ← readValueOf handles .flow endsPairValue fuel rest
      readFlowItems handles properties false (.mapping {} [(key, value)] :: items) fuel rest
    | rest =>
      let (item, rest) ← readNode handles .flow fuel rest
      readFlowItems handles properties false (item :: items) fuel rest

/-- The pairs in braces after those that are read. -/
def readFlowPairs (handles : Handles) (properties : Properties) (isFirst : Bool)
    (pairs : List (Node × Node)) : Nat → List Token → Except SyntaxError (Node × List Token)
  | 0, _ => .error .expectedFlowEnd
  | _, .closeBrace :: rest => .ok (.mapping properties pairs.reverse, rest)
  | fuel + 1, tokens => do
    let rest ← match isFirst, tokens with
      | true, rest => pure rest
      | false, .comma :: rest => pure rest
      | false, _ => throw .expectedFlowEnd
    match rest with
    | .closeBrace :: rest => return (.mapping properties pairs.reverse, rest)
    | .key :: rest =>
      let (key, rest) ← readPart handles .flow endsFlowKey fuel rest
      let (value, rest) ← readValueOf handles .flow endsFlowValue fuel rest
      readFlowPairs handles properties false ((key, value) :: pairs) fuel rest
    | .value :: rest =>
      let (value, rest) ← readValueOf handles .flow endsFlowValue fuel (.value :: rest)
      readFlowPairs handles properties false ((.absent, value) :: pairs) fuel rest
    | rest =>
      let (key, rest) ← readNode handles .flow fuel rest
      readFlowPairs handles properties false ((key, .absent) :: pairs) fuel rest

end

/-- The directives in front of a document: the handles they define, and the tokens after them. -/
def readDirectives (versioned : Bool) (handles : Handles) :
    List Token → Except SyntaxError (Handles × List Token)
  | .version major _ :: rest =>
    if versioned || major ≠ 1 then .error .badDirective else readDirectives true handles rest
  | .handle name expansion :: rest =>
    if handles.any fun e => e.1 = name then .error .badDirective
    else readDirectives versioned ((name, expansion) :: handles) rest
  | .directive :: rest => readDirectives versioned handles rest
  | rest => .ok (handles, rest)

/-- The node of an explicit document after its start, which may be absent. -/
def readContent (handles : Handles) (fuel : Nat) (tokens : List Token) :
    Except SyntaxError (Node × List Token) :=
  let ends : Token → Bool
    | .version .. | .handle .. | .directive | .documentStart | .documentEnd | .streamEnd => true
    | _ => false
  readPart handles .block ends fuel tokens

/-- The one document that some tokens make, if any: further documents are refused. -/
def readDocument (tokens : List Token) : Except SyntaxError (Option Node) := do
  let fuel := 4 * tokens.length + 8
  match tokens with
  | .streamEnd :: _ => return none
  | .version .. :: _ | .handle .. :: _ | .directive :: _ | .documentStart :: _ =>
    let (defined, rest) ← readDirectives false [] tokens
    match rest with
    | .documentStart :: rest =>
      let (node, rest) ← readContent (defined ++ standardHandles) fuel rest
      finish node rest
    | _ => throw .expectedDocument
  | _ =>
    let (node, rest) ← readNode standardHandles .block fuel tokens
    finish node rest
where
  /-- The end of the document, which is the end of the stream. -/
  finish (node : Node) (rest : List Token) : Except SyntaxError (Option Node) :=
    match if rest.head? = some .documentEnd then rest.drop 1 else rest with
    | .streamEnd :: _ => .ok (some node)
    | .documentStart :: _ => .error .severalDocuments
    | _ => .error .expectedDocument

end MaskPolicy.Yaml
