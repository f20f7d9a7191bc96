import JoinDiagram.Failure.Basic
import JoinDiagram.Text.Trim

namespace JoinDiagram.Failure

def digitsAfter? (keyword cs : List Char) : Option (List Char) :=
  if Text.sameIgnoringCase (cs.take keyword.length) keyword then
    let rest := cs.drop keyword.length
    let rest := if rest.head? == some ':' then rest.tail else rest
    let digits := (rest.dropWhile Text.isBlank).takeWhile Text.isDecimalDigit
    if digits.isEmpty then none else some digits
  else none

/-- The digits at the first place where the keyword begins a word and a number follows it. -/
def scanDigits (keyword : List Char) : Option Char → List Char → Option (List Char)
  | _, [] => none
  | last, c :: cs =>
    if last.any Text.isWordChar then scanDigits keyword (some c) cs
    else match digitsAfter? keyword (c :: cs) with
      | some digits => some digits
      | none => scanDigits keyword (some c) cs

def pushDigit? (n : Nat) (digit : Char) : Option Nat :=
  if Text.isAsciiDigit digit then
    let next := n * 10 + (digit.toNat - '0'.toNat)
    if next < UInt32.size then some next else none
  else none

/-- Positions fit 32 bits and are written with ASCII digits; other numbers are no position. -/
def positionValue? (digits : List Char) : Option Nat := digits.foldlM pushDigit? 0

def positionAfter? (keyword message : String) : Option Nat :=
  (scanDigits keyword.toList none message.toList).bind positionValue?

def fallbackMessage : String := "SQL parse error"

def headline (message : String) : String :=
  let line := Text.trimChars (Text.firstLineChars message.toList)
  if line.isEmpty then fallbackMessage else String.ofList line

def ofMessage (message : String) : Failure :=
  parseError (headline message) (positionAfter? "line" message) (positionAfter? "column" message)

end JoinDiagram.Failure
