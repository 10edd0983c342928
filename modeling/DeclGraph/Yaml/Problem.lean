import DeclGraph.Text.Numeral

/-!
What can be wrong with a YAML text.
-/

namespace DeclGraph.Yaml

inductive Problem where
  | unprintable
  | strayCharacter
  | unfinishedKey
  | misplacedEntry
  | misplacedKey
  | misplacedValue
  | unclosedScalar
  | badEscape
  | badBlockIndicator
  | badAnchor
  | badTag
  | badDirective
  | unexpectedToken
  | undefinedAlias
  | duplicateAnchor
  | undefinedHandle
  | secondDocument
  | unknownTag
  | unhashableKey
  | badMerge
  | badPair
  | badBinary
  | wrongKind
  /-- A text that is no whole number in the base that its form asks for. -/
  | notInteger (text : String) (base : Nat)
  | tooManyDigits (digits : Nat)
  | notNumber (text : String)
  /-- A number of which nothing is left but a sign. -/
  | noNumber
  | notBoolean
  | notTimestamp
  /-- A mapping in the place of a timestamp. -/
  | timestampMapping
  | codePointTooLarge
  /-- A code point that does not even fit into a signed word of 32 bits. -/
  | codePointTooWide
  /-- A power of sixty that is no double-precision number. -/
  | weightTooLarge
  /-- A date or time outside the calendar. -/
  | notInCalendar (reason : String)
  /-- A mapping that has itself for its value. -/
  | endless
deriving DecidableEq, Repr

namespace Problem

/-- Values that have a readable form and no meaning are told apart from mistakes of form. -/
def isSyntactic : Problem → Bool
  | notInteger .. | tooManyDigits _ | notNumber _ | noNumber | notBoolean | notTimestamp
  | timestampMapping | codePointTooLarge | codePointTooWide | weightTooLarge | notInCalendar _
  | endless => false
  | _ => true

def message : Problem → String
  | unprintable => "special characters are not allowed"
  | strayCharacter => "found a character that cannot start any token"
  | unfinishedKey => "could not find expected ':'"
  | misplacedEntry => "sequence entries are not allowed here"
  | misplacedKey => "mapping keys are not allowed here"
  | misplacedValue => "mapping values are not allowed here"
  | unclosedScalar => "found the end of the text inside a scalar"
  | badEscape => "found an unknown escape"
  | badBlockIndicator => "expected chomping or indentation indicators"
  | badAnchor => "expected an anchor name"
  | badTag => "expected a tag"
  | badDirective => "expected a directive"
  | unexpectedToken => "expected the node content"
  | undefinedAlias => "found an undefined alias"
  | duplicateAnchor => "found a duplicate anchor"
  | undefinedHandle => "found an undefined tag handle"
  | secondDocument => "expected a single document"
  | unknownTag => "could not determine a constructor for the tag"
  | unhashableKey => "found an unhashable key"
  | badMerge => "expected a mapping or list of mappings for merging"
  | badPair => "expected a mapping of one entry"
  | badBinary => "failed to decode binary data"
  | wrongKind => "expected another kind of node"
  | notInteger text base =>
    "invalid literal for int() with base " ++ toString base ++ ": " ++ text
  | tooManyDigits digits =>
    Text.NumeralProblem.limitText ++ ": value has " ++ toString digits ++ " digits" ++
      Text.NumeralProblem.adviceText
  | notNumber text => "could not convert string to float: " ++ text
  | noNumber => "expected a number after the sign"
  | notBoolean => "expected a truth value"
  | notTimestamp => "expected a timestamp"
  | timestampMapping => "expected the text of a timestamp"
  | codePointTooLarge => "chr() arg not in range(0x110000)"
  | codePointTooWide => "the code point is too wide"
  | weightTooLarge => "int too large to convert to float"
  | notInCalendar reason => reason
  | endless => "found a mapping that is its own value"

end Problem

end DeclGraph.Yaml
