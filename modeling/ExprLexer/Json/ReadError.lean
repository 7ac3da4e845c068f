import ExprLexer.Json.Source
import ExprLexer.Decimal.Shortest
import ExprLexer.Text.Quoted

/-!
Why a JSON document is refused, and where.
-/

namespace ExprLexer.Json

/-- A number, as it was written. -/
inductive Number where
  | unsigned (n : Nat)
  /-- The number `-n`. -/
  | negative (n : Nat)
  | float (negative : Bool) (value : Decimal.Binary64)
deriving DecidableEq

/-- A value of the wrong type. -/
inductive Found where
  | null
  | bool (b : Bool)
  | number (n : Number)
  | text (t : Text)
  | list
  | object
deriving DecidableEq

inductive Cause where
  | endInValue
  | endInObject
  | endInList
  | endInText
  | expectedValue
  | expectedKey
  | expectedColon
  | expectedCommaInObject
  | expectedCommaInList
  | trailingComma
  | trailingCharacters
  | invalidIdent
  | invalidNumber
  | numberOutOfRange
  | invalidEscape
  | controlCharacter
  | loneSurrogate
  | endOfSurrogate
  | invalidUnicode
  | wrongType (found : Found) (expected : String)
  | missingField (name : Text)
  | duplicateField (name : Text)
  | wrongLength (length : Nat) (expected : String)
  | unknownVariant (name : Text) (known : List Text)
deriving DecidableEq

structure ReadError where
  cause : Cause
  place : Place
deriving DecidableEq

def ticked (t : Text) : Text := '\x60' :: t ++ ['\x60']

def Found.describe : Found → Text
  | null => "null".toList
  | bool true => "boolean ".toList ++ ticked "true".toList
  | bool false => "boolean ".toList ++ ticked "false".toList
  | number (.unsigned n) => "integer ".toList ++ ticked (Text.ofNat n)
  | number (.negative n) => "integer ".toList ++ ticked ('-' :: Text.ofNat n)
  | number (.float s x) => "floating point ".toList ++ ticked (Decimal.render s x)
  | text t => "string ".toList ++ Text.quoted t
  | list => "sequence".toList
  | object => "map".toList

def Cause.message : Cause → Text
  | endInValue => "EOF while parsing a value".toList
  | endInObject => "EOF while parsing an object".toList
  | endInList => "EOF while parsing a list".toList
  | endInText => "EOF while parsing a string".toList
  | expectedValue => "expected value".toList
  | expectedKey => "key must be a string".toList
  | expectedColon => "expected `:`".toList
  | expectedCommaInObject => "expected `,` or `\x7d`".toList
  | expectedCommaInList => "expected `,` or `]`".toList
  | trailingComma => "trailing comma".toList
  | trailingCharacters => "trailing characters".toList
  | invalidIdent => "expected ident".toList
  | invalidNumber => "invalid number".toList
  | numberOutOfRange => "number out of range".toList
  | invalidEscape => "invalid escape".toList
  | controlCharacter =>
    "control character (\\u0000-\\u001F) found while parsing a string".toList
  | loneSurrogate => "lone leading surrogate in hex escape".toList
  | endOfSurrogate => "unexpected end of hex escape".toList
  | invalidUnicode => "invalid unicode code point".toList
  | wrongType found expected =>
    "invalid type: ".toList ++ found.describe ++ ", expected ".toList ++ expected.toList
  | missingField name => "missing field ".toList ++ ticked name
  | duplicateField name => "duplicate field ".toList ++ ticked name
  | wrongLength n expected =>
    "invalid length ".toList ++ Text.ofNat n ++ ", expected ".toList ++ expected.toList
  | unknownVariant name known =>
    "unknown variant ".toList ++ ticked name ++ ", expected one of ".toList ++
      Text.join ", ".toList (known.map ticked)

/-- The cause, with line and column. -/
def ReadError.message (e : ReadError) : Text :=
  e.cause.message ++ " at line ".toList ++ Text.ofNat e.place.line ++ " column ".toList ++
    Text.ofNat e.place.column

end ExprLexer.Json
