/-!
# Places in a text and syntax errors

A reader that gives up says why and how much of the text lies beyond the place it complains about. The place is
then given as a line and a column; columns count bytes.
-/

namespace PanelBridge.Json

/-- Why a text is no JSON value. -/
inductive SyntaxCause where
  | endInValue
  | endInList
  | endInObject
  | endInString
  | valueExpected
  | wordExpected
  | colonExpected
  | listEndExpected
  | objectEndExpected
  | trailingComma
  | keyNotString
  | trailingCharacters
  | invalidNumber
  | numberOutOfRange
  | invalidEscape
  | controlCharacter
  | unfinishedSurrogate
  | loneSurrogate
  | tooDeep
deriving DecidableEq, Repr

def SyntaxCause.message : SyntaxCause → String
  | .endInValue => "EOF while parsing a value"
  | .endInList => "EOF while parsing a list"
  | .endInObject => "EOF while parsing an object"
  | .endInString => "EOF while parsing a string"
  | .valueExpected => "expected value"
  | .wordExpected => "expected ident"
  | .colonExpected => "expected `:`"
  | .listEndExpected => "expected `,` or `]`"
  | .objectEndExpected => "expected `,` or `\x7d`"
  | .trailingComma => "trailing comma"
  | .keyNotString => "key must be a string"
  | .trailingCharacters => "trailing characters"
  | .invalidNumber => "invalid number"
  | .numberOutOfRange => "number out of range"
  | .invalidEscape => "invalid escape"
  | .controlCharacter => "control character (\\u0000-\\u001F) found while parsing a string"
  | .unfinishedSurrogate => "unexpected end of hex escape"
  | .loneSurrogate => "lone leading surrogate in hex escape"
  | .tooDeep => "recursion limit exceeded"

/-- A cause with the line and the byte column of its place. -/
structure SyntaxError where
  cause : SyntaxCause
  line : Nat
  column : Nat
deriving DecidableEq, Repr

/-- The wording of an error with its place. -/
def SyntaxError.message (e : SyntaxError) : String :=
  e.cause.message ++ " at line " ++ toString e.line ++ " column " ++ toString e.column

/-- Why reading stopped, and how many bytes of the text lie beyond the place it stopped at. -/
structure Stop where
  cause : SyntaxCause
  beyond : Nat
deriving DecidableEq, Repr

/-- The number of bytes that encode the characters. -/
def byteCount (cs : List Char) : Nat := cs.foldl (fun n c => n + c.utf8Size) 0

/-- Stops just before `rest`. -/
def stopBefore (cause : SyntaxCause) (rest : List Char) : Stop := ⟨cause, byteCount rest⟩

/-- Stops on the first byte of `rest`, or at the end of the text. -/
def stopOn (cause : SyntaxCause) (rest : List Char) : Stop := ⟨cause, byteCount rest - 1⟩

/-- Counts the lines that end before byte `place` and finds the byte where the last line starts. `offset` bytes
come before `cs`. -/
def lineStart (place : Nat) : (cs : List Char) → (offset line start : Nat) → Nat × Nat
  | [], _, line, start => (line, start)
  | c :: cs, offset, line, start =>
    if place ≤ offset then (line, start)
    else if c = '\n' then lineStart place cs (offset + 1) (line + 1) (offset + 1)
    else lineStart place cs (offset + c.utf8Size) line start

/-- The error that a stop in the given text stands for. -/
def Stop.locate (stop : Stop) (text : List Char) : SyntaxError :=
  let place := byteCount text - stop.beyond
  let (line, start) := lineStart place text 0 1 0
  ⟨stop.cause, line, place - start⟩

end PanelBridge.Json
