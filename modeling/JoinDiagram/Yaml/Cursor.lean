import JoinDiagram.Text.CharClass

namespace JoinDiagram.Yaml

def isBlank (c : Char) : Bool := c == ' ' || c == '\t'

def isBreak (c : Char) : Bool :=
  c == '\n' || c == '\r' || c == '\u0085' || c == '\u2028' || c == '\u2029'

def isSpace (c : Char) : Bool := isBlank c || isBreak c

def isNameChar (c : Char) : Bool :=
  Text.isAsciiLetter c || Text.isAsciiDigit c || c == '_' || c == '-'

def isAllowed (c : Char) : Bool :=
  c == '\t' || c == '\n' || c == '\r' || c == '\u0085' ||
    Text.inRanges [(0x20, 0x7E), (0xA0, 0xD7FF), (0xE000, 0xFFFD), (0x10000, 0x10FFFF)] c.toNat

def byteOrderMark : Char := '\ufeff'

/-- The rest of a text and where it begins. Lines and columns count from 0. No loop over the text
    takes more than `bound` steps. -/
structure Cursor where
  bound : Nat
  rest : List Char
  index : Nat
  line : Nat
  column : Nat
deriving Repr

namespace Cursor

def start (text : String) : Cursor := ⟨text.length + 1, text.toList, 0, 0, 0⟩

def skip (c : Cursor) (count : Nat) : Cursor :=
  { c with rest := c.rest.drop count, index := c.index + count, column := c.column + count }

def skipBreak (c : Cursor) : Cursor :=
  match c.rest with
  | '\r' :: '\n' :: rest => ⟨c.bound, rest, c.index + 2, c.line + 1, 0⟩
  | _ :: rest => ⟨c.bound, rest, c.index + 1, c.line + 1, 0⟩
  | [] => c

def breakText (c : Cursor) : List Char :=
  match c.rest with
  | '\u2028' :: _ => ['\u2028']
  | '\u2029' :: _ => ['\u2029']
  | _ :: _ => ['\n']
  | [] => []

def span (c : Cursor) (p : Char → Bool) : List Char × Cursor :=
  let taken := c.rest.takeWhile p
  (taken, c.skip taken.length)

def skipWhile (c : Cursor) (p : Char → Bool) : Cursor := (c.span p).2

def skipBlanks (c : Cursor) : Cursor := c.skipWhile isBlank

def skipLineRest (c : Cursor) : Cursor := c.skipWhile fun d => !isBreak d

def head? (c : Cursor) : Option Char := c.rest.head?

def headIs (c : Cursor) (p : Char → Bool) : Bool := c.head?.any p

def endsWord (c : Cursor) (offset : Nat) : Bool := (c.rest.drop offset).head?.all isSpace

def endsLine (c : Cursor) : Bool := c.head?.all isBreak

def isMarker (c : Cursor) (marker : Char) : Bool :=
  c.column == 0 && c.rest.take 3 == [marker, marker, marker] && c.endsWord 3

def isDocumentMarker (c : Cursor) : Bool := c.isMarker '-' || c.isMarker '.'

def finishLine (c : Cursor) : Option Cursor :=
  let c := c.skipBlanks
  let c := if c.headIs (· == '#') then c.skipLineRest else c
  if c.endsLine then some (if c.rest.isEmpty then c else c.skipBreak) else none

end Cursor

end JoinDiagram.Yaml
