import JoinDiagram.Text.CharClass

namespace JoinDiagram.Json

def isBlank (c : Char) : Bool := c == ' ' || c == '\n' || c == '\t' || c == '\r'

def skipBlanks (cs : List Char) : List Char := cs.dropWhile isBlank

def hexValue (c : Char) : Nat :=
  if Text.isAsciiDigit c then c.toNat - 48 else (Text.asciiLower c).toNat - 87

def hexUnit : List Char → Option (Nat × List Char)
  | a :: b :: c :: d :: rest =>
    if [a, b, c, d].all Text.isAsciiHexDigit then
      some ([a, b, c, d].foldl (fun n digit => n * 16 + hexValue digit) 0, rest)
    else none
  | _ => none

def isLeadingSurrogate (unit : Nat) : Bool := 0xD800 ≤ unit && unit ≤ 0xDBFF

def isTrailingSurrogate (unit : Nat) : Bool := 0xDC00 ≤ unit && unit ≤ 0xDFFF

def unicodeEscape (cs : List Char) : Option (Char × List Char) := do
  let (unit, rest) ← hexUnit cs
  if isTrailingSurrogate unit then none
  else if isLeadingSurrogate unit then
    match rest with
    | '\\' :: 'u' :: more =>
      let (second, rest) ← hexUnit more
      if isTrailingSurrogate second then
        some (Char.ofNat (0x10000 + (unit - 0xD800) * 0x400 + (second - 0xDC00)), rest)
      else none
    | _ => none
  else some (Char.ofNat unit, rest)

def letterEscape? : Char → Option Char
  | '"' => some '"'
  | '\\' => some '\\'
  | '/' => some '/'
  | 'b' => some '\x08'
  | 'f' => some '\x0c'
  | 'n' => some '\n'
  | 'r' => some '\r'
  | 't' => some '\t'
  | _ => none

def escape : List Char → Option (Char × List Char)
  | 'u' :: rest => unicodeEscape rest
  | c :: rest => (letterEscape? c).map fun value => (value, rest)
  | [] => none

def isControl (c : Char) : Bool := c.toNat < 0x20

/-- The string whose opening quote was read, and the text after its closing quote. The string has
    fewer characters than the first argument says. -/
def stringBody : Nat → List Char → List Char → Option (String × List Char)
  | fuel + 1, read, c :: cs =>
    if c == '"' then some (String.ofList read.reverse, cs)
    else if c == '\\' then
      match escape cs with
      | some (value, rest) => stringBody fuel (value :: read) rest
      | none => none
    else if isControl c then none
    else stringBody fuel (c :: read) cs
  | _, _, _ => none

def readString (bound : Nat) (cs : List Char) : Option (String × List Char) :=
  match cs with
  | '"' :: rest => stringBody bound [] rest
  | _ => none

def skipStringBody : List Char → Option (List Char)
  | '"' :: rest => some rest
  | '\\' :: 'u' :: a :: b :: c :: d :: rest =>
    if [a, b, c, d].all Text.isAsciiHexDigit then skipStringBody rest else none
  | '\\' :: c :: rest => if (letterEscape? c).isSome then skipStringBody rest else none
  | c :: rest => if isControl c || c == '\\' then none else skipStringBody rest
  | [] => none

def skipDigits (cs : List Char) : Option (List Char) :=
  if cs.head?.any Text.isAsciiDigit then some (cs.dropWhile Text.isAsciiDigit) else none

def skipFraction : List Char → Option (List Char)
  | '.' :: rest => skipDigits rest
  | cs => some cs

def skipExponent : List Char → Option (List Char)
  | c :: rest =>
    if c == 'e' || c == 'E' then
      match rest with
      | s :: digits => if s == '+' || s == '-' then skipDigits digits else skipDigits rest
      | [] => none
    else some (c :: rest)
  | [] => some []

def skipNumber (cs : List Char) : Option (List Char) := do
  let unsigned := if cs.head? == some '-' then cs.tail else cs
  let whole ← if unsigned.head? == some '0' then some unsigned.tail else skipDigits unsigned
  skipExponent (← skipFraction whole)

def skipWord (word : List Char) (cs : List Char) : Option (List Char) :=
  if cs.take word.length == word then some (cs.drop word.length) else none

inductive Container where
  | array
  | object
deriving DecidableEq, Repr

inductive Next where
  | value
  | firstItem
  | firstKey
  | key
  | separator
deriving DecidableEq, Repr

/-- Skips the rest of a value, of which the given containers are open. They may nest to any depth. -/
def skipRest : Nat → List Container → Next → List Char → Option (List Char)
  | fuel + 1, stack, .separator, cs =>
    match stack, skipBlanks cs with
    | [], _ => some cs
    | .array :: _, ',' :: rest => skipRest fuel stack .value rest
    | .object :: _, ',' :: rest => skipRest fuel stack .key rest
    | .array :: outer, ']' :: rest => skipRest fuel outer .separator rest
    | .object :: outer, '}' :: rest => skipRest fuel outer .separator rest
    | _, _ => none
  | fuel + 1, stack, .firstItem, cs =>
    match skipBlanks cs with
    | ']' :: rest => skipRest fuel stack.tail .separator rest
    | rest => skipRest fuel stack .value rest
  | fuel + 1, stack, .firstKey, cs =>
    match skipBlanks cs with
    | '}' :: rest => skipRest fuel stack.tail .separator rest
    | rest => skipRest fuel stack .key rest
  | fuel + 1, stack, .key, cs =>
    match skipBlanks cs with
    | '"' :: rest => do
      match skipBlanks (← skipStringBody rest) with
      | ':' :: rest => skipRest fuel stack .value rest
      | _ => none
    | _ => none
  | fuel + 1, stack, .value, cs =>
    match skipBlanks cs with
    | '[' :: rest => skipRest fuel (.array :: stack) .firstItem rest
    | '{' :: rest => skipRest fuel (.object :: stack) .firstKey rest
    | '"' :: rest => do skipRest fuel stack .separator (← skipStringBody rest)
    | 'n' :: rest => do skipRest fuel stack .separator (← skipWord ['u', 'l', 'l'] rest)
    | 't' :: rest => do skipRest fuel stack .separator (← skipWord ['r', 'u', 'e'] rest)
    | 'f' :: rest => do skipRest fuel stack .separator (← skipWord ['a', 'l', 's', 'e'] rest)
    | rest => do skipRest fuel stack .separator (← skipNumber rest)
  | 0, _, _, _ => none

def skipValue (bound : Nat) (cs : List Char) : Option (List Char) :=
  skipRest (2 * bound + 2) [] .value cs

end JoinDiagram.Json
