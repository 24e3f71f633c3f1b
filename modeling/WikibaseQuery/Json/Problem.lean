/-!
# What can be wrong with a JSON text

`Problem` names what a reader finds where a text stops being JSON.  The problems fall in two
classes: the text ends too early, or something stands in it that may not stand there.
-/

namespace WikibaseQuery

/-- What a reader finds where a text stops being JSON. -/
inductive Problem where
  | endInValue
  | endInString
  | endInArray
  | endInObject
  | expectedValue
  | expectedWord
  | expectedColon
  | expectedArrayEnd
  | expectedObjectEnd
  | expectedTextKey
  | trailingComma
  | trailingText
  | invalidNumber
  | numberOutOfRange
  | invalidEscape
  | loneSurrogate
  | controlCharacter
  | nestedTooDeep
  deriving DecidableEq, Repr

namespace Problem

/-- Whether the text ends too early. -/
def isEnd : Problem → Bool
  | endInValue | endInString | endInArray | endInObject => true
  | _ => false

/-- The problem in words. -/
def message : Problem → String
  | endInValue => "EOF while parsing a value"
  | endInString => "EOF while parsing a string"
  | endInArray => "EOF while parsing a list"
  | endInObject => "EOF while parsing an object"
  | expectedValue => "expected value"
  | expectedWord => "expected ident"
  | expectedColon => "expected `:`"
  | expectedArrayEnd => "expected `,` or `]`"
  | expectedObjectEnd => "expected `,` or `\x7d`"
  | expectedTextKey => "key must be a string"
  | trailingComma => "trailing comma"
  | trailingText => "trailing characters"
  | invalidNumber => "invalid number"
  | numberOutOfRange => "number out of range"
  | invalidEscape => "invalid escape"
  | loneSurrogate => "lone leading surrogate in hex escape"
  | controlCharacter => "control character (\\u0000-\\u001F) found while parsing a string"
  | nestedTooDeep => "recursion limit exceeded"

end Problem

end WikibaseQuery
