import Gazette.Text.Utf8

/-! # Why and where a text stops being JSON -/
namespace Gazette.Json
open Gazette.Text

inductive Cause where
  | endInList | endInObject | endInString | endInValue
  | noColon | noCommaInList | noCommaInObject | noKeyword | noValue | noKey
  | badEscape | badNumber | badBytes | control | loneSurrogate | endInSurrogates
  | tooLarge | tooDeep | commaAtEnd | surplus
  deriving DecidableEq, Repr

def Cause.message : Cause → String
  | .endInList => "EOF while parsing a list"
  | .endInObject => "EOF while parsing an object"
  | .endInString => "EOF while parsing a string"
  | .endInValue => "EOF while parsing a value"
  | .noColon => "expected `:`"
  | .noCommaInList => "expected `,` or `]`"
  | .noCommaInObject => "expected `,` or `\x7d`"
  | .noKeyword => "expected ident"
  | .noValue => "expected value"
  | .noKey => "key must be a string"
  | .badEscape => "invalid escape"
  | .badNumber => "invalid number"
  | .badBytes => "invalid unicode code point"
  | .control => "control character (\\u0000-\\u001F) found while parsing a string"
  | .loneSurrogate => "lone leading surrogate in hex escape"
  | .endInSurrogates => "unexpected end of hex escape"
  | .tooLarge => "number out of range"
  | .tooDeep => "recursion limit exceeded"
  | .commaAtEnd => "trailing comma"
  | .surplus => "trailing characters"

/-- A fault met while reading, with the number of bytes of the text beyond it. -/
structure Break where
  cause : Cause
  beyond : Nat
  deriving DecidableEq, Repr

/-- A fault between the characters read and those not read. -/
def Break.here (cause : Cause) (rest : List Char) : Break := ⟨cause, Utf8.size rest⟩

/-- A fault at the next byte, which counts as read; at the end of the text there is none. -/
def Break.ahead (cause : Cause) (rest : List Char) : Break := ⟨cause, Utf8.size rest - 1⟩

/-- A fault with its line, from one, and the number of bytes of that line up to it. -/
structure SyntaxFault where
  cause : Cause
  line : Nat
  column : Nat
  deriving DecidableEq, Repr

/-- The place of one fault is in front of that of another. -/
def SyntaxFault.before (f g : SyntaxFault) : Bool :=
  f.line < g.line || f.line = g.line && f.column < g.column

def SyntaxFault.message (f : SyntaxFault) : String :=
  f.cause.message ++ " at line " ++ toString f.line ++ " column " ++ toString f.column

/-- Line and column after some bytes of a text, counting on from given ones. -/
def locate (bytes line column : Nat) : List Char → Nat × Nat
  | [] => (line, column)
  | c :: cs =>
    if bytes < c.utf8Size then (line, column + bytes)
    else if c = '\n' then locate (bytes - 1) (line + 1) 0 cs
    else locate (bytes - c.utf8Size) line (column + c.utf8Size) cs

def Break.fault (b : Break) (text : List Char) : SyntaxFault :=
  let (line, column) := locate (Utf8.size text - b.beyond) 1 0 text
  ⟨b.cause, line, column⟩

end Gazette.Json
