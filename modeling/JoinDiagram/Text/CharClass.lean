import JoinDiagram.Text.Alphabetic
import JoinDiagram.Text.Numeric
import JoinDiagram.Text.Recent
import JoinDiagram.Text.WordMark

namespace JoinDiagram.Text

def inRanges (ranges : List (Nat × Nat)) (point : Nat) : Bool :=
  ranges.any fun (low, high) => low ≤ point && point ≤ high

/-- White space is the property White_Space; every blank test of the library uses this class. -/
def isBlank (c : Char) : Bool :=
  inRanges [(0x9, 0xD), (0x20, 0x20), (0x85, 0x85), (0xA0, 0xA0), (0x1680, 0x1680),
    (0x2000, 0x200A), (0x2028, 0x2029), (0x202F, 0x202F), (0x205F, 0x205F), (0x3000, 0x3000)] c.toNat

def isAsciiDigit (c : Char) : Bool := '0' ≤ c && c ≤ '9'

def isAsciiHexDigit (c : Char) : Bool :=
  isAsciiDigit c || ('a' ≤ c && c ≤ 'f') || ('A' ≤ c && c ≤ 'F')

def isAsciiLetter (c : Char) : Bool := ('a' ≤ c && c ≤ 'z') || ('A' ≤ c && c ≤ 'Z')

def isAlphabetic (c : Char) : Bool :=
  if c.toNat < 0x80 then isAsciiLetter c
  else inRanges alphabeticRanges c.toNat || inRanges recentLetterRanges c.toNat

def isDecimalDigit (c : Char) : Bool :=
  if c.toNat < 0x80 then isAsciiDigit c else inRanges decimalDigitRanges c.toNat

def isNumeric (c : Char) : Bool :=
  isDecimalDigit c || inRanges otherNumberRanges c.toNat || inRanges recentNumberRanges c.toNat

def isAlphanumeric (c : Char) : Bool := isAlphabetic c || isNumeric c

def isWordChar (c : Char) : Bool :=
  c == '_' || isAsciiLetter c || inRanges alphabeticRanges c.toNat || isDecimalDigit c ||
    inRanges wordMarkRanges c.toNat

def asciiUpper (c : Char) : Char :=
  if 'a' ≤ c && c ≤ 'z' then Char.ofNat (c.toNat - 32) else c

def asciiLower (c : Char) : Char :=
  if 'A' ≤ c && c ≤ 'Z' then Char.ofNat (c.toNat + 32) else c

def sameIgnoringCase (s t : List Char) : Bool := s.map asciiUpper == t.map asciiUpper

end JoinDiagram.Text
