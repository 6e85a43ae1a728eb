/-!
# Why a text is not JSON

A fault is a cause and a place. Reading notes the place as the number of bytes from it to the end;
`SyntaxFault.locate` turns that into a line and a column, both counted in bytes, where a line break
belongs to the line it ends and starts column zero.
-/

namespace ClusterConsole.Json

inductive Cause where
  | endInValue
  | endInList
  | endInObject
  | endInString
  | noValue
  | noKeyword
  | noColon
  | noListSeparator
  | noObjectSeparator
  | keyNotString
  | trailingComma
  | trailingCharacters
  | badNumber
  | numberTooLarge
  | badEscape
  | unpairedEscape
  | loneSurrogate
  | controlCharacter
  | tooDeep
  deriving DecidableEq, Repr

def Cause.message : Cause → String
  | .endInValue => "EOF while parsing a value"
  | .endInList => "EOF while parsing a list"
  | .endInObject => "EOF while parsing an object"
  | .endInString => "EOF while parsing a string"
  | .noValue => "expected value"
  | .noKeyword => "expected ident"
  | .noColon => "expected `:`"
  | .noListSeparator => "expected `,` or `]`"
  | .noObjectSeparator => "expected `,` or `\x7d`"
  | .keyNotString => "key must be a string"
  | .trailingComma => "trailing comma"
  | .trailingCharacters => "trailing characters"
  | .badNumber => "invalid number"
  | .numberTooLarge => "number out of range"
  | .badEscape => "invalid escape"
  | .unpairedEscape => "unexpected end of hex escape"
  | .loneSurrogate => "lone leading surrogate in hex escape"
  | .controlCharacter => "control character (\\u0000-\\u001F) found while parsing a string"
  | .tooDeep => "recursion limit exceeded"

structure Stop where
  cause : Cause
  bytesLeft : Nat
  deriving DecidableEq, Repr

def byteCount (cs : List Char) : Nat := cs.foldl (fun n c => n + c.utf8Size) 0

structure SyntaxFault where
  cause : Cause
  line : Nat
  column : Nat
  deriving DecidableEq, Repr

namespace SyntaxFault

def message (f : SyntaxFault) : String :=
  f.cause.message ++ " at line " ++ toString f.line ++ " column " ++ toString f.column

/-- The line and the column after `n` bytes. A place inside a character counts its bytes so far. -/
def position (line column n : Nat) : List Char → Nat × Nat
  | [] => (line, column + n)
  | c :: cs =>
    if n < c.utf8Size then (line, column + n)
    else if c = '\n' then position (line + 1) 0 (n - c.utf8Size) cs
    else position line (column + c.utf8Size) (n - c.utf8Size) cs

def locate (text : List Char) (s : Stop) : SyntaxFault :=
  let place := position 1 0 (byteCount text - s.bytesLeft) text
  ⟨s.cause, place.1, place.2⟩

end SyntaxFault

end ClusterConsole.Json
