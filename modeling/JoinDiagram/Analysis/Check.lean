import JoinDiagram.Text.Trim
import JoinDiagram.Trace.Event

namespace JoinDiagram

abbrev Check := String → Option Failure

namespace Check

def notEmpty : Check := fun sql => if (Text.trim sql).isEmpty then some .emptyInput else none

/-- Lengths count characters. A text whose bytes are within the limit is not counted, since no
    character takes less than one byte. -/
def length (max : Nat) : Check := fun sql =>
  if sql.utf8ByteSize ≤ max then none
  else if sql.length > max then some (.tooLong sql.length max)
  else none

def supportedKeywords : List String := ["SELECT", "WITH"]

/-- The text of the first `n` bytes, if there are so many and the last of them ends a character. -/
def firstBytes? : Nat → List Char → Option (List Char)
  | 0, _ => some []
  | _ + 1, [] => none
  | n + 1, c :: cs =>
    if c.utf8Size ≤ n + 1 then (firstBytes? (n + 1 - c.utf8Size) cs).map (c :: ·) else none

def startsWith (keyword : String) (cs : List Char) : Bool :=
  (firstBytes? keyword.utf8ByteSize cs).any fun head => Text.sameIgnoringCase head keyword.toList

def statementKind : Check := fun sql =>
  let head := Text.trimStartChars sql.toList
  if supportedKeywords.any (startsWith · head) then none else some .unsupportedStatement

def firstFailure (checks : List Check) (sql : String) : Option Failure :=
  checks.findSome? fun check => check sql

/-- What the checks report, each by its position, up to the first that fails. -/
def notes (report : Nat → String → List Note) (sql : String) : Nat → List Check → List Note
  | _, [] => []
  | i, check :: checks =>
    report i sql ++ if (check sql).isSome then [] else notes report sql (i + 1) checks

def standard (max : Nat) : List Check := [notEmpty, length max, statementKind]

end Check

end JoinDiagram
