/-
What can be wrong with a text that should be JSON, and in which words it is
said.
-/

import WatInlay.Text.Printable

namespace WatInlay.Json

/-- What stands where a value of another kind was expected. -/
inductive Unexpected where
  | null
  | bool (b : Bool)
  | integer (n : Int)
  /-- A number with a fraction or an exponent, or too large an integer, by its
  shortest text. -/
  | float (shortest : Text)
  | string (t : Text)
  | sequence
  | map
  deriving DecidableEq, Repr

/-- Why a text is not the JSON that was expected. -/
inductive Fault where
  | endInValue
  | endInString
  | endInList
  | endInObject
  | expectedValue
  | expectedIdent
  | expectedColon
  | expectedCommaOrBracket
  | expectedCommaOrBrace
  | keyNotString
  | trailingComma
  | trailingCharacters
  | invalidNumber
  | numberOutOfRange
  | invalidEscape
  | loneSurrogate
  | unfinishedSurrogate
  | controlCharacter
  | invalidType (found : Unexpected) (expected : Text)
  | duplicateField (name : Text)
  deriving DecidableEq, Repr

/-! ### In words -/

/-- What is said behind the words of a fault about where in the text it is: the line
and the column, as the library counts them that reads JSON. -/
abbrev Whereabouts := Text → Text

/-- Nothing is said. -/
def Whereabouts.unsaid : Whereabouts := fun _ => []

/-- What was found, in words. -/
def Unexpected.text : Unexpected → Text
  | null => "null".toList
  | bool b => "boolean `".toList ++ (if b then "true".toList else "false".toList) ++ ['\u0060']
  | integer n => "integer `".toList ++ (toString n).toList ++ ['\u0060']
  | float shortest => "floating point `".toList ++ shortest ++ ['\u0060']
  | string t => "string ".toList ++ Text.quoted t
  | sequence => "sequence".toList
  | map => "map".toList

/-- The fault in words, without its whereabouts. -/
def Fault.message : Fault → Text
  | endInValue => "EOF while parsing a value".toList
  | endInString => "EOF while parsing a string".toList
  | endInList => "EOF while parsing a list".toList
  | endInObject => "EOF while parsing an object".toList
  | expectedValue => "expected value".toList
  | expectedIdent => "expected ident".toList
  | expectedColon => "expected `:`".toList
  | expectedCommaOrBracket => "expected `,` or `]`".toList
  | expectedCommaOrBrace => "expected `,` or `\x7d`".toList
  | keyNotString => "key must be a string".toList
  | trailingComma => "trailing comma".toList
  | trailingCharacters => "trailing characters".toList
  | invalidNumber => "invalid number".toList
  | numberOutOfRange => "number out of range".toList
  | invalidEscape => "invalid escape".toList
  | loneSurrogate => "lone leading surrogate in hex escape".toList
  | unfinishedSurrogate => "unexpected end of hex escape".toList
  | controlCharacter => "control character (\\u0000-\\u001F) found while parsing a string".toList
  | invalidType found expected =>
    "invalid type: ".toList ++ found.text ++ ", expected ".toList ++ expected
  | duplicateField name => "duplicate field `".toList ++ name ++ ['\u0060']

end WatInlay.Json
