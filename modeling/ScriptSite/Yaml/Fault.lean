import ScriptSite.Text.Base64
import ScriptSite.Text.Quoted
import ScriptSite.Yaml.Mark

/-!
# Faults of documents

A text is no document for one reason, which is told with what was being read. Both have a place, and
the place of the former is left out if it says no more than that of the reason.
-/

namespace ScriptSite.Yaml

/-- What was being read or built when a fault was found. -/
inductive Context
  | nextToken
  | simpleKey
  | directive
  | directiveUri
  | anchor
  | reference
  | tag
  | tagUri
  | blockScalar
  | quotedScalar
  | doubleQuotedScalar
  | node
  | blockNode
  | flowNode
  | blockCollection
  | blockMapping
  | flowSequence
  | flowMapping
  /-- The first use of the name of an anchor. -/
  | firstAnchor (name : Text)
  | onlyDocument
  | mapping
  | orderedMap
  | pairs
  deriving DecidableEq, Repr

/-- The words for what was being read. -/
def Context.message : Context → Text
  | .nextToken => "while scanning for the next token".toList
  | .simpleKey => "while scanning a simple key".toList
  | .directive => "while scanning a directive".toList
  | .directiveUri => "while parsing a directive".toList
  | .anchor => "while scanning an anchor".toList
  | .reference => "while scanning an alias".toList
  | .tag => "while scanning a tag".toList
  | .tagUri => "while parsing a tag".toList
  | .blockScalar => "while scanning a block scalar".toList
  | .quotedScalar => "while scanning a quoted scalar".toList
  | .doubleQuotedScalar => "while scanning a double-quoted scalar".toList
  | .node => "while parsing a node".toList
  | .blockNode => "while parsing a block node".toList
  | .flowNode => "while parsing a flow node".toList
  | .blockCollection => "while parsing a block collection".toList
  | .blockMapping => "while parsing a block mapping".toList
  | .flowSequence => "while parsing a flow sequence".toList
  | .flowMapping => "while parsing a flow mapping".toList
  | .firstAnchor name =>
    "found duplicate anchor ".toList ++ Text.quoted name ++ "; first occurrence".toList
  | .onlyDocument => "expected a single document in the stream".toList
  | .mapping => "while constructing a mapping".toList
  | .orderedMap => "while constructing an ordered map".toList
  | .pairs => "while constructing pairs".toList

/-- What is wrong. Where a character or a token was found instead of another, it is kept. -/
inductive Complaint
  | cannotStartToken (found : Char)
  | noColon
  | entryNotAllowed
  | keyNotAllowed
  | valueNotAllowed
  | notNameChar (found : Char)
  | notDigit (found : Char)
  | notDigitOrPoint (found : Char)
  | notDigitOrSpace (found : Char)
  | notSpace (found : Char)
  | notCommentOrBreak (found : Char)
  | notHandle (found : Char)
  | notClosed (found : Char)
  | notUri (found : Char)
  | notUriEscape (found : Char)
  | notUtf8 (fault : Utf8.Fault)
  | zeroIndentation
  | notBlockIndicator (found : Char)
  | endOfText
  | documentSeparator
  | notHexadecimal (digits : Nat) (found : Char)
  | unknownEscape (found : Char)
  | notContent (found : Text)
  | notBlockEnd (found : Text)
  | notSequenceEnd (found : Text)
  | notMappingEnd (found : Text)
  | notDocumentStart (found : Text)
  | secondVersion
  | wrongVersion
  | secondHandle (handle : Text)
  | undefinedHandle (handle : Text)
  | undefinedReference (name : Text)
  | secondAnchor
  | anotherDocument
  | notScalar (found : Text)
  | notSequence (found : Text)
  | notMapping (found : Text)
  | notMergeable (found : Text)
  | notMergeableEntry (found : Text)
  | notSequenceOfEntries (found : Text)
  | notOneEntry (found : Text)
  | severalEntries (count : Nat)
  | unhashableKey
  | unknownTag (tag : Text)
  | notAscii (start stop : Nat) (first : Char)
  | notBase64 (fault : Base64.Fault)
  deriving DecidableEq, Repr

def shownChar (c : Char) : Text :=
  Text.quoted [c]

/-- The characters of a text from `start` up to but not including `stop` that are not ASCII, the
first of which is `first`. -/
def notAsciiMessage (start stop : Nat) (first : Char) : Text :=
  let characters :=
    if stop = start + 1 then
      "character '".toList ++ Text.escapeCode first ++ "' in position ".toList ++ Text.ofNat start
    else "characters in position ".toList ++ Text.ofNat start ++ '-' :: Text.ofNat (stop - 1)
  "failed to convert base64 data into ascii: 'ascii' codec can't encode ".toList ++ characters ++
    ": ordinal not in range(128)".toList

/-- The words for what is wrong. -/
def Complaint.message : Complaint → Text
  | .cannotStartToken found =>
    "found character ".toList ++ shownChar found ++ " that cannot start any token".toList
  | .noColon => "could not find expected ':'".toList
  | .entryNotAllowed => "sequence entries are not allowed here".toList
  | .keyNotAllowed => "mapping keys are not allowed here".toList
  | .valueNotAllowed => "mapping values are not allowed here".toList
  | .notNameChar found =>
    "expected alphabetic or numeric character, but found ".toList ++ shownChar found
  | .notDigit found => "expected a digit, but found ".toList ++ shownChar found
  | .notDigitOrPoint found => "expected a digit or '.', but found ".toList ++ shownChar found
  | .notDigitOrSpace found => "expected a digit or ' ', but found ".toList ++ shownChar found
  | .notSpace found => "expected ' ', but found ".toList ++ shownChar found
  | .notCommentOrBreak found =>
    "expected a comment or a line break, but found ".toList ++ shownChar found
  | .notHandle found => "expected '!', but found ".toList ++ shownChar found
  | .notClosed found => "expected '>', but found ".toList ++ shownChar found
  | .notUri found => "expected URI, but found ".toList ++ shownChar found
  | .notUriEscape found =>
    "expected URI escape sequence of 2 hexadecimal numbers, but found ".toList ++ shownChar found
  | .notUtf8 fault => fault.message
  | .zeroIndentation => "expected indentation indicator in the range 1-9, but found 0".toList
  | .notBlockIndicator found =>
    "expected chomping or indentation indicators, but found ".toList ++ shownChar found
  | .endOfText => "found unexpected end of stream".toList
  | .documentSeparator => "found unexpected document separator".toList
  | .notHexadecimal digits found =>
    "expected escape sequence of ".toList ++ Text.ofNat digits ++
      " hexadecimal numbers, but found ".toList ++ shownChar found
  | .unknownEscape found => "found unknown escape character ".toList ++ shownChar found
  | .notContent found => "expected the node content, but found ".toList ++ Text.quoted found
  | .notBlockEnd found => "expected <block end>, but found ".toList ++ Text.quoted found
  | .notSequenceEnd found => "expected ',' or ']', but got ".toList ++ Text.quoted found
  | .notMappingEnd found => "expected ',' or '\x7d', but got ".toList ++ Text.quoted found
  | .notDocumentStart found =>
    "expected '<document start>', but found ".toList ++ Text.quoted found
  | .secondVersion => "found duplicate YAML directive".toList
  | .wrongVersion => "found incompatible YAML document (version 1.* is required)".toList
  | .secondHandle handle => "duplicate tag handle ".toList ++ Text.quoted handle
  | .undefinedHandle handle => "found undefined tag handle ".toList ++ Text.quoted handle
  | .undefinedReference name => "found undefined alias ".toList ++ Text.quoted name
  | .secondAnchor => "second occurrence".toList
  | .anotherDocument => "but found another document".toList
  | .notScalar found => "expected a scalar node, but found ".toList ++ found
  | .notSequence found => "expected a sequence node, but found ".toList ++ found
  | .notMapping found => "expected a mapping node, but found ".toList ++ found
  | .notMergeable found =>
    "expected a mapping or list of mappings for merging, but found ".toList ++ found
  | .notMergeableEntry found => "expected a mapping for merging, but found ".toList ++ found
  | .notSequenceOfEntries found => "expected a sequence, but found ".toList ++ found
  | .notOneEntry found => "expected a mapping of length 1, but found ".toList ++ found
  | .severalEntries count =>
    "expected a single mapping item, but found ".toList ++ Text.ofNat count ++ " items".toList
  | .unhashableKey => "found unhashable key".toList
  | .unknownTag tag => "could not determine a constructor for the tag ".toList ++ Text.quoted tag
  | .notAscii start stop first => notAsciiMessage start stop first
  | .notBase64 fault => "failed to decode base64 data: ".toList ++ fault.message

/-- What is wrong with a document, and where. -/
structure Problem where
  context : Option Context := none
  contextMark : Option Mark := none
  complaint : Complaint
  mark : Mark
  deriving DecidableEq, Repr

/-- Whether two places are in one line and column. -/
def Mark.samePlace (left right : Mark) : Bool :=
  left.line == right.line && left.column == right.column

/-- All that is to tell about what is wrong with a text. -/
def Problem.message (problem : Problem) (text : Text) : Text :=
  let context := (problem.context.map Context.message).toList
  let contextPlace :=
    (problem.contextMark.filter (!Mark.samePlace · problem.mark)).map (Mark.message · text)
  Text.unlines (context ++ contextPlace.toList ++
    [problem.complaint.message, problem.mark.message text])

/-- Why a text stands for no value. -/
inductive Fault
  /-- A character that no document holds, and the number of characters before it. -/
  | unacceptable (found : Char) (index : Nat)
  | problem (trouble : Problem)
  /-- An escape names a number that no character has. -/
  | noSuchCharacter (number : Nat)
  /-- A scalar that is said to be a number is none, or a number has too many digits to be read or
  written. -/
  | notNumber
  /-- A number with a base of sixty has more parts than there are powers of sixty of double
  precision. -/
  | tooManyParts
  /-- A scalar that is said to be a number is empty. -/
  | emptyNumber
  /-- A scalar that is said to be a truth value is none. -/
  | notTruthValue
  /-- A scalar that is said to be a time is none. -/
  | notTime
  /-- A mapping is said to be a time. -/
  | timeOfMapping
  /-- A day or time that does not exist. -/
  | impossibleTime
  /-- A scalar that refers to itself. -/
  | endless
  deriving DecidableEq, Repr

/-- The words for a fault of a text; those of values that cannot be built need none. -/
def Fault.message (text : Text) : Fault → Text
  | .unacceptable found index =>
    "unacceptable character #x".toList ++ Text.hex 4 found.toNat ++
      ": special characters are not allowed\n  in \"<unicode string>\", position ".toList ++
      Text.ofNat index
  | .problem trouble => trouble.message text
  | _ => []

end ScriptSite.Yaml
