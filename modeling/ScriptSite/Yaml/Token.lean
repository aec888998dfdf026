import ScriptSite.Yaml.Mark

/-!
# Tokens of documents

The marks and words that a document is made of. Blocks are told by their indentation, so that some
tokens have no characters of their own.
-/

namespace ScriptSite.Yaml

/-- A line that says something about the documents that follow. -/
inductive Directive
  | version (major minor : Nat)
  /-- What a handle in front of a tag stands for. -/
  | handle (handle start : Text)
  | other
  deriving DecidableEq, Repr

/-- What a token is. -/
inductive TokenKind
  | streamEnd
  | directive (content : Directive)
  | documentStart
  | documentEnd
  | blockSequenceStart
  | blockMappingStart
  | blockEnd
  | flowSequenceStart
  | flowSequenceEnd
  | flowMappingStart
  | flowMappingEnd
  | blockEntry
  | flowEntry
  | key
  | value
  /-- A second use of an anchored node. -/
  | reference (name : Text)
  | anchor (name : Text)
  /-- The type of a node; without a handle it is complete. -/
  | tag (handle : Option Text) (suffix : Text)
  /-- A text, and whether it is written without quotes or other marks. -/
  | scalar (text : Text) (plain : Bool)
  deriving DecidableEq, Repr

/-- A token between two places. -/
structure Token where
  kind : TokenKind
  start : Mark
  stop : Mark
  deriving DecidableEq, Repr

/-- A token as it is named in messages. -/
def TokenKind.shown : TokenKind → Text
  | .streamEnd => "<stream end>".toList
  | .directive _ => "<directive>".toList
  | .documentStart => "<document start>".toList
  | .documentEnd => "<document end>".toList
  | .blockSequenceStart => "<block sequence start>".toList
  | .blockMappingStart => "<block mapping start>".toList
  | .blockEnd => "<block end>".toList
  | .flowSequenceStart => ['[']
  | .flowSequenceEnd => [']']
  | .flowMappingStart => ['{']
  | .flowMappingEnd => ['}']
  | .blockEntry => ['-']
  | .flowEntry => [',']
  | .key => ['?']
  | .value => [':']
  | .reference _ => "<alias>".toList
  | .anchor _ => "<anchor>".toList
  | .tag _ _ => "<tag>".toList
  | .scalar _ _ => "<scalar>".toList

end ScriptSite.Yaml
