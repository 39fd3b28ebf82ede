/-!
# Why a text is not JSON

A fault is a cause and the place where reading stopped, counted in lines and in
bytes since the start of the line.
-/

namespace ScriptHost.Json

/-- What is wrong with a text. -/
inductive Cause where
  | endInValue
  | endInString
  | endInList
  | endInObject
  | expectedIdent
  | expectedValue
  | expectedColon
  | expectedListEnd
  | expectedObjectEnd
  | keyNotString
  | trailingComma
  | trailingCharacters
  | invalidNumber
  | numberOutOfRange
  | controlCharacter
  | invalidEscape
  | loneSurrogate
  | unfinishedSurrogate
  | tooDeep
deriving DecidableEq, Repr

/-- The wording of a cause. -/
def Cause.text : Cause → String
  | endInValue => "EOF while parsing a value"
  | endInString => "EOF while parsing a string"
  | endInList => "EOF while parsing a list"
  | endInObject => "EOF while parsing an object"
  | expectedIdent => "expected ident"
  | expectedValue => "expected value"
  | expectedColon => "expected `:`"
  | expectedListEnd => "expected `,` or `]`"
  | expectedObjectEnd => "expected `,` or `\x7d`"
  | keyNotString => "key must be a string"
  | trailingComma => "trailing comma"
  | trailingCharacters => "trailing characters"
  | invalidNumber => "invalid number"
  | numberOutOfRange => "number out of range"
  | controlCharacter => "control character (\\u0000-\\u001F) found while parsing a string"
  | invalidEscape => "invalid escape"
  | loneSurrogate => "lone leading surrogate in hex escape"
  | unfinishedSurrogate => "unexpected end of hex escape"
  | tooDeep => "recursion limit exceeded"

/-- A cause and where it was noticed. -/
structure Fault where
  /-- What is wrong. -/
  cause : Cause
  /-- One more than the newlines before the place. -/
  line : Nat
  /-- The bytes between the last newline and the place. -/
  column : Nat
deriving DecidableEq, Repr

/-- The wording of a fault. -/
def Fault.text (fault : Fault) : String :=
  fault.cause.text ++ " at line " ++ toString fault.line ++ " column " ++ toString fault.column

/-- The fault at the end of the bytes read so far. -/
def Fault.after (cause : Cause) (consumed : List UInt8) : Fault :=
  { cause
    line := 1 + consumed.count 10
    column := (consumed.reverse.takeWhile (· ≠ 10)).length }

end ScriptHost.Json
