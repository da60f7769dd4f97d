import ToolGateway.Json.Printer
import ToolGateway.Text.Quoted

/-!
What can be wrong with a JSON text, and with a JSON value that should have been a document of some type.

A `Fault` is a cause; its wording is `Fault.message`. A `ReadError` adds the place: the line, counted from one, and how
many octets of the line had been looked at.
-/

namespace ToolGateway

/-- what stood where a document of a type was expected -/
inductive Found where
  | unit
  | flag (value : Bool)
  | integer (value : Int)
  | real (value : Binary64)
  | text (value : String)
  | list
  | map
  deriving DecidableEq, Repr

/-- the kind of a value, with its content when it is a scalar -/
def Json.found : Json → Found
  | .null => .unit
  | .bool b => .flag b
  | .number (.int i) => .integer i
  | .number (.real x) => .real x
  | .string s => .text s
  | .array _ => .list
  | .object _ => .map

def Found.describe : Found → String
  | .unit => "null"
  | .flag b => "boolean `" ++ toString b ++ "`"
  | .integer i => "integer `" ++ String.ofList (intChars i) ++ "`"
  | .real x => "floating point `" ++ String.ofList (Number.layout.text x) ++ "`"
  | .text s => "string " ++ Text.quoted s
  | .list => "sequence"
  | .map => "map"

/-- why a value is no document of a type -/
inductive Misfit where
  | wrongType (found : Found) (expected : String)
  | wrongValue (found : Found) (expected : String)
  | wrongLength (length : Nat) (expected : String)
  | unknownVariant (name : String) (known : List String)
  | missingField (name : String)
  | repeatedField (name : String)
  /-- a cause worded by the type itself -/
  | other (message : String)
  deriving DecidableEq, Repr

/-- names in grave accents, with commas between them -/
def listNames (names : List String) : String :=
  String.intercalate ", " (names.map fun name => "`" ++ name ++ "`")

def Misfit.message : Misfit → String
  | .wrongType found expected => "invalid type: " ++ found.describe ++ ", expected " ++ expected
  | .wrongValue found expected => "invalid value: " ++ found.describe ++ ", expected " ++ expected
  | .wrongLength length expected => "invalid length " ++ toString length ++ ", expected " ++ expected
  | .unknownVariant name known => "unknown variant `" ++ name ++ "`, expected one of " ++ listNames known
  | .missingField name => "missing field `" ++ name ++ "`"
  | .repeatedField name => "duplicate field `" ++ name ++ "`"
  | .other message => message

/-- what is wrong with a JSON text -/
inductive Fault where
  | endInValue
  | endInList
  | endInObject
  | endInString
  | noValue
  | noWord
  | noColon
  | noListComma
  | noObjectComma
  | noKey
  | trailingComma
  | trailingText
  | badNumber
  | numberOutOfRange
  | badEscape
  | badCodePoint
  | loneSurrogate
  | halfSurrogate
  | controlCharacter
  | tooDeep
  /-- well formed, but no document of the type that was asked for -/
  | misfit (cause : Misfit)
  deriving DecidableEq, Repr

inductive Fault.Kind where
  /-- against the grammar -/
  | grammar
  /-- the text ends too early -/
  | ending
  /-- the wrong type of document -/
  | document
  deriving DecidableEq, Repr

def Fault.kind : Fault → Fault.Kind
  | .endInValue | .endInList | .endInObject | .endInString => .ending
  | .misfit _ => .document
  | _ => .grammar

def Fault.message : Fault → String
  | .endInValue => "EOF while parsing a value"
  | .endInList => "EOF while parsing a list"
  | .endInObject => "EOF while parsing an object"
  | .endInString => "EOF while parsing a string"
  | .noValue => "expected value"
  | .noWord => "expected ident"
  | .noColon => "expected `:`"
  | .noListComma => "expected `,` or `]`"
  | .noObjectComma => "expected `,` or `\x7d`"
  | .noKey => "key must be a string"
  | .trailingComma => "trailing comma"
  | .trailingText => "trailing characters"
  | .badNumber => "invalid number"
  | .numberOutOfRange => "number out of range"
  | .badEscape => "invalid escape"
  | .badCodePoint => "invalid unicode code point"
  | .loneSurrogate => "lone leading surrogate in hex escape"
  | .halfSurrogate => "unexpected end of hex escape"
  | .controlCharacter => "control character (\\u0000-\\u001F) found while parsing a string"
  | .tooDeep => "recursion limit exceeded"
  | .misfit cause => cause.message

structure ReadError where
  fault : Fault
  line : Nat
  column : Nat
  deriving DecidableEq, Repr

def ReadError.message (e : ReadError) : String :=
  e.fault.message ++ " at line " ++ toString e.line ++ " column " ++ toString e.column

end ToolGateway
