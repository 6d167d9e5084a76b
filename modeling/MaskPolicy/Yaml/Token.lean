import MaskPolicy.Text.Basic

/-!
# Tokens of a document

The tokens that a document is made of, and what can be wrong with a document.
-/

namespace MaskPolicy.Yaml

/-- A token. The starts and ends of block collections come from the indentation. -/
inductive Token where
  | version (major minor : Nat)
  | handle (name expansion : Text)
  | directive
  | documentStart
  | documentEnd
  | streamEnd
  | blockSequence
  | blockMapping
  | blockEnd
  | openBracket
  | closeBracket
  | openBrace
  | closeBrace
  | entry
  | comma
  | key
  | value
  | alias (name : Text)
  | anchor (name : Text)
  | tag (handle : Option Text) (suffix : Text)
  | scalar (isPlain : Bool) (text : Text)
  deriving DecidableEq, Repr

/-- What is wrong with a document. -/
inductive SyntaxError where
  | encoding
  | unprintable
  | unexpectedCharacter
  | missingColon
  | misplacedEntry
  | misplacedKey
  | misplacedValue
  | badName
  | badTag
  | badDirective
  | badEscape
  | unclosedQuote
  | badBlockHeader
  | expectedDocument
  | severalDocuments
  | expectedNode
  | expectedBlockEnd
  | expectedFlowEnd
  | undefinedHandle
  | undefinedAlias
  | unknownTag
  | wrongKind
  | duplicateKey
  | unusableKey
  | badMerge
  | badBinary
  deriving DecidableEq, Repr

/-- The wording of an error. -/
def SyntaxError.message : SyntaxError → Text
  | encoding => "the document is not encoded text".toList
  | unprintable => "special characters are not allowed".toList
  | unexpectedCharacter => "a character cannot start any token".toList
  | missingColon => "a key has no colon".toList
  | misplacedEntry => "sequence entries are not allowed here".toList
  | misplacedKey => "mapping keys are not allowed here".toList
  | misplacedValue => "mapping values are not allowed here".toList
  | badName => "an anchor or an alias has no name".toList
  | badTag => "a tag is malformed".toList
  | badDirective => "a directive is malformed".toList
  | badEscape => "an escape is unknown or incomplete".toList
  | unclosedQuote => "a quoted scalar is not closed".toList
  | badBlockHeader => "the header of a block scalar is malformed".toList
  | expectedDocument => "a document start is expected".toList
  | severalDocuments => "a single document is expected".toList
  | expectedNode => "a node is expected".toList
  | expectedBlockEnd => "the end of a block collection is expected".toList
  | expectedFlowEnd => "a comma or the end of a collection is expected".toList
  | undefinedHandle => "a tag handle is undefined".toList
  | undefinedAlias => "an alias is undefined".toList
  | unknownTag => "a tag has no meaning".toList
  | wrongKind => "a node is of another kind than its tag".toList
  | duplicateKey => "a key occurs twice".toList
  | unusableKey => "a collection cannot be a key".toList
  | badMerge => "only mappings can be merged".toList
  | badBinary => "binary data is malformed".toList

end MaskPolicy.Yaml
