import JoinDiagram.Yaml.Cursor
import JoinDiagram.Yaml.Token

namespace JoinDiagram.Yaml

def isNameEnd (c : Char) : Bool := isSpace c || ['?', ':', ',', ']', '}', '%', '@', '\x60'].contains c

def anchorName (c : Cursor) : Option (String × Cursor) :=
  let (name, c) := (c.skip 1).span isNameChar
  if name.isEmpty || !c.head?.all isNameEnd then none else some (String.ofList name, c)

def isTagChar (isVerbatim : Bool) (c : Char) : Bool :=
  isNameChar c || [';', '/', '?', ':', '@', '&', '=', '+', '$', '.', '!', '~', '*', '\'', '(', ')'].contains c ||
    isVerbatim && [',', '[', ']'].contains c

def hexByte? : List Char → Option Nat
  | '%' :: a :: b :: _ =>
    if Text.isAsciiHexDigit a && Text.isAsciiHexDigit b then
      let value (d : Char) : Nat :=
        if Text.isAsciiDigit d then d.toNat - 48 else (Text.asciiLower d).toNat - 87
      some (value a * 16 + value b)
    else none
  | _ => none

def encodedLength? (byte : Nat) : Option Nat :=
  if byte < 0x80 then some 1
  else if 0xC0 ≤ byte && byte < 0xE0 then some 2
  else if 0xE0 ≤ byte && byte < 0xF0 then some 3
  else if 0xF0 ≤ byte && byte < 0xF8 then some 4
  else none

def isContinuation (byte : Nat) : Bool := 0x80 ≤ byte && byte < 0xC0

def escapedBytes (c : Cursor) : Option (Char × Cursor) := do
  let first ← hexByte? c.rest
  let length ← encodedLength? first
  let more ← ((List.range (length - 1)).mapM fun i => hexByte? (c.rest.drop (3 * (i + 1))))
  if !more.all isContinuation then none
  let value ← String.fromUTF8? ⟨((first :: more).map UInt8.ofNat).toArray⟩
  return (← value.toList.head?, c.skip (3 * length))

def tagText (isVerbatim : Bool) : Nat → List Char → Cursor → Option (List Char × Cursor)
  | 0, read, c => some (read.reverse, c)
  | fuel + 1, read, c =>
    match c.rest with
    | '%' :: _ => do
      let (value, c) ← escapedBytes c
      tagText isVerbatim fuel (value :: read) c
    | d :: _ =>
      if isTagChar isVerbatim d then tagText isVerbatim fuel (d :: read) (c.skip 1)
      else some (read.reverse, c)
    | [] => some (read.reverse, c)

def tagHandle (c : Cursor) : Option (List Char × Cursor) :=
  if c.headIs (· == '!') then
    let (name, after) := (c.skip 1).span isNameChar
    if after.headIs (· == '!') then some ('!' :: name ++ ['!'], after.skip 1)
    else some ('!' :: name, after)
  else none

def verbatimTag (c : Cursor) : Option (Token × Cursor) := do
  let (text, c) ← tagText true c.bound [] (c.skip 2)
  if text.isEmpty || !c.headIs (· == '>') then none
  else return (.tag "" (String.ofList text), c.skip 1)

/-- A tag without a handle belongs to the handle `!`; that mark alone is a tag of its own. -/
def shorthandTag (c : Cursor) : Option (Token × Cursor) := do
  let (handle, c) ← tagHandle c
  let (text, c) ← tagText false c.bound [] c
  if handle.length > 1 && handle.getLast? == some '!' then
    if text.isEmpty then none
    else return (.tag (String.ofList handle) (String.ofList text), c)
  else
    let suffix := handle.tail ++ text
    if suffix.isEmpty then return (.tag "" "!", c) else return (.tag "!" (String.ofList suffix), c)

def tag (inFlow : Bool) (c : Cursor) : Option (Token × Cursor) := do
  let isVerbatim := (c.rest.drop 1).head? == some '<'
  let (t, c) ← if isVerbatim then verbatimTag c else shorthandTag c
  if c.endsWord 0 || inFlow && c.headIs (· == ',') then return (t, c) else none

def versionNumber (c : Cursor) : Option (Nat × Cursor) :=
  let (digits, c) := c.span Text.isAsciiDigit
  if digits.isEmpty || digits.length > 9 then none
  else some (digits.foldl (fun n d => n * 10 + (d.toNat - 48)) 0, c)

def versionDirective (c : Cursor) : Option (Token × Cursor) := do
  let (major, c) ← versionNumber c.skipBlanks
  if !c.headIs (· == '.') then none
  let (minor, c) ← versionNumber (c.skip 1)
  return (.version major minor, c)

def tagDirective (c : Cursor) : Option (Token × Cursor) := do
  let (handle, c) ← tagHandle c.skipBlanks
  if handle.length > 1 && handle.getLast? != some '!' then none
  if !c.headIs isBlank then none
  let (expansion, c) ← tagText true c.bound [] c.skipBlanks
  if expansion.isEmpty || !c.endsWord 0 then none
  return (.tagHandle (String.ofList handle) (String.ofList expansion), c)

def directive (c : Cursor) : Option (Token × Cursor) := do
  let (name, c) := (c.skip 1).span isNameChar
  if !c.endsWord 0 then none
  let (t, c) ←
    if name == "YAML".toList then versionDirective c
    else if name == "TAG".toList then tagDirective c
    else none
  return (t, ← c.finishLine)

end JoinDiagram.Yaml
