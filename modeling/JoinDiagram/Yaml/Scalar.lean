import JoinDiagram.Yaml.Cursor
import JoinDiagram.Yaml.Token

namespace JoinDiagram.Yaml

/-- The blanks and line breaks between two words of a scalar, both in reverse. Blanks around line
    breaks do not count. -/
structure Gap where
  blanks : List Char
  breaks : List (List Char)

namespace Gap

def empty : Gap := ⟨[], []⟩

def crossesLines (g : Gap) : Bool := !g.breaks.isEmpty

/-- A single line feed folds to a blank, of several the first is left out. -/
def fold (first : List Char) (more : List (List Char)) : List Char :=
  if first == ['\n'] then (if more.isEmpty then [' '] else more.flatten) else first ++ more.flatten

def text (g : Gap) : List Char :=
  match g.breaks.reverse with
  | [] => g.blanks.reverse
  | first :: more => fold first more

def read (indent : Nat) : Nat → Gap → Cursor → Option (Gap × Cursor)
  | 0, g, c => some (g, c)
  | fuel + 1, g, c =>
    match c.rest with
    | [] => some (g, c)
    | d :: _ =>
      if isBlank d then
        if !g.crossesLines then read indent fuel { g with blanks := d :: g.blanks } (c.skip 1)
        else if d == '\t' && c.column < indent then none
        else read indent fuel g (c.skip 1)
      else if isBreak d then
        read indent fuel { g with breaks := c.breakText :: g.breaks } c.skipBreak
      else some (g, c)

end Gap

def isFlowIndicator (c : Char) : Bool := [',', '[', ']', '{', '}'].contains c

def plainWord (inFlow : Bool) : Nat → List Char → Cursor → Option (List Char × Cursor)
  | 0, read, c => some (read, c)
  | fuel + 1, read, c =>
    match c.rest with
    | [] => some (read, c)
    | d :: rest =>
      if isSpace d then some (read, c)
      else if inFlow && d == ':' && rest.head?.any (fun e => e == '?' || isFlowIndicator e) then none
      else if d == ':' && c.endsWord 1 then some (read, c)
      else if inFlow && isFlowIndicator d then some (read, c)
      else plainWord inFlow fuel (d :: read) (c.skip 1)

def plainWords (inFlow : Bool) (indent : Nat) :
    Nat → List Char → Gap → Cursor → Option (String × Bool × Cursor)
  | 0, read, g, c => some (String.ofList read.reverse, g.crossesLines, c)
  | fuel + 1, read, g, c =>
    if c.isDocumentMarker || c.headIs (· == '#') then
      some (String.ofList read.reverse, g.crossesLines, c)
    else do
      let (word, c) ← plainWord inFlow c.bound [] c
      let (read, g) := if word.isEmpty then (read, g) else (word ++ g.text.reverse ++ read, .empty)
      if !c.headIs isSpace then return (String.ofList read.reverse, g.crossesLines, c)
      let (g, c) ← Gap.read indent c.bound .empty c
      if !inFlow && c.column < indent then return (String.ofList read.reverse, g.crossesLines, c)
      plainWords inFlow indent fuel read g c

def plainScalar (inFlow : Bool) (indent : Nat) (c : Cursor) : Option (Token × Bool × Cursor) := do
  let (text, crossesLines, c) ← plainWords inFlow indent c.bound [] .empty c
  return (.scalar .plain text, crossesLines, c)

def simpleEscape? : Char → Option Char
  | '0' => some '\x00'
  | 'a' => some '\x07'
  | 'b' => some '\x08'
  | 't' | '\t' => some '\t'
  | 'n' => some '\n'
  | 'v' => some '\x0b'
  | 'f' => some '\x0c'
  | 'r' => some '\r'
  | 'e' => some '\x1b'
  | ' ' => some ' '
  | '"' => some '"'
  | '/' => some '/'
  | '\\' => some '\\'
  | 'N' => some '\u0085'
  | '_' => some '\u00a0'
  | 'L' => some '\u2028'
  | 'P' => some '\u2029'
  | _ => none

def codePointDigits? : Char → Option Nat
  | 'x' => some 2
  | 'u' => some 4
  | 'U' => some 8
  | _ => none

def hexValue (c : Char) : Nat :=
  if Text.isAsciiDigit c then c.toNat - 48 else (Text.asciiLower c).toNat - 87

def codePoint? (digits : List Char) (count : Nat) : Option Char :=
  if digits.length == count && digits.all Text.isAsciiHexDigit then
    let n := digits.foldl (fun n d => n * 16 + hexValue d) 0
    if n.isValidChar then some (Char.ofNat n) else none
  else none

def escape (c : Cursor) : Option (Char × Cursor) := do
  let d ← c.head?
  match codePointDigits? d with
  | some count =>
    let value ← codePoint? ((c.rest.drop 1).take count) count
    return (value, c.skip (count + 1))
  | none => return (← simpleEscape? d, c.skip 1)

def quotedBody (quote : Char) : Nat → List Char → Cursor → Option (String × Cursor)
  | 0, _, _ => none
  | fuel + 1, read, c =>
    if c.isDocumentMarker then none
    else match c.rest with
    | [] => none
    | d :: rest =>
      if isSpace d then do
        let (g, c) ← Gap.read 0 c.bound .empty c
        quotedBody quote fuel (g.text.reverse ++ read) c
      else if d == quote then
        if quote == '\'' && rest.head? == some '\'' then quotedBody quote fuel ('\'' :: read) (c.skip 2)
        else some (String.ofList read.reverse, c.skip 1)
      else if quote == '"' && d == '\\' then
        if rest.head?.any isBreak then do
          let (g, c) ← Gap.read 0 c.bound ⟨[], [[]]⟩ (c.skip 1).skipBreak
          quotedBody quote fuel (g.text.reverse ++ read) c
        else do
          let (value, c) ← escape (c.skip 1)
          quotedBody quote fuel (value :: read) c
      else quotedBody quote fuel (d :: read) (c.skip 1)

def quotedScalar (quote : Char) (c : Cursor) : Option (Token × Cursor) := do
  let (text, c) ← quotedBody quote c.bound [] (c.skip 1)
  return (.scalar (if quote == '\'' then .singleQuoted else .doubleQuoted) text, c)

inductive Chomping where
  | strip
  | clip
  | keep
deriving DecidableEq, Repr

def chomping? : Char → Option Chomping
  | '+' => some .keep
  | '-' => some .strip
  | _ => none

/-- A digit from 1 to 9 that gives the indentation of a block scalar; without one it is 0. -/
def indentation (c : Cursor) : Option (Nat × Cursor) :=
  match c.head? with
  | some d =>
    if d == '0' then none
    else if Text.isAsciiDigit d then some (d.toNat - 48, c.skip 1)
    else some (0, c)
  | none => some (0, c)

def chomping (c : Cursor) : Chomping × Cursor :=
  match c.head?.bind chomping? with
  | some chomp => (chomp, c.skip 1)
  | none => (.clip, c)

def blockHeader (c : Cursor) : Option (Nat × Chomping × Cursor) := do
  match c.head?.bind chomping? with
  | some chomp =>
    let (indent, c) ← indentation (c.skip 1)
    return (indent, chomp, c)
  | none =>
    let (indent, c) ← indentation c
    let (chomp, c) := if indent = 0 then (.clip, c) else chomping c
    return (indent, chomp, c)

/-- The blank lines before a line of a block scalar. With the indentation not known yet (0), all
    blanks count as indentation and the deepest column is found. -/
def blankLines (indent : Nat) :
    Nat → Nat → List (List Char) → Cursor → Option (Nat × List (List Char) × Cursor)
  | 0, deepest, breaks, c => some (deepest, breaks.reverse, c)
  | fuel + 1, deepest, breaks, c =>
    let blanks := (c.rest.takeWhile (· == ' ')).length
    let c := c.skip (if indent = 0 then blanks else min blanks (indent - c.column))
    let deepest := max deepest c.column
    if (indent = 0 || c.column < indent) && c.headIs (· == '\t') then none
    else if c.headIs isBreak then blankLines indent fuel deepest (c.breakText :: breaks) c.skipBreak
    else some (deepest, breaks.reverse, c)

structure BlockText where
  read : List Char
  lastBreak : List Char
  blankLines : List (List Char)
  lastLineWasIndented : Bool

namespace BlockText

/-- Between lines of a folded scalar that do not begin with a blank, a line feed becomes a blank. -/
def separator (b : BlockText) (isFolded lineIsIndented : Bool) : List Char :=
  if isFolded && b.lastBreak == ['\n'] && !b.lastLineWasIndented && !lineIsIndented then
    if b.blankLines.isEmpty then [' '] else b.blankLines.flatten
  else b.lastBreak ++ b.blankLines.flatten

def finish (b : BlockText) (chomp : Chomping) : String :=
  let ending := match chomp with
    | .strip => []
    | .clip => b.lastBreak
    | .keep => b.lastBreak ++ b.blankLines.flatten
  String.ofList (b.read.reverse ++ ending)

end BlockText

def blockLines (isFolded : Bool) (indent : Nat) : Nat → BlockText → Cursor → Option (BlockText × Cursor)
  | 0, b, c => some (b, c)
  | fuel + 1, b, c =>
    if c.column == indent && !c.rest.isEmpty then do
      let isIndented := c.headIs isBlank
      let (line, after) := c.span fun d => !isBreak d
      let read := line.reverse ++ (b.separator isFolded isIndented).reverse ++ b.read
      let next := if after.rest.isEmpty then after else after.skipBreak
      let (_, blank, next) ← blankLines indent next.bound 0 [] next
      blockLines isFolded indent fuel ⟨read, after.breakText, blank, isIndented⟩ next
    else some (b, c)

def blockScalar (isFolded : Bool) (parent : Option Nat) (c : Cursor) : Option (Token × Cursor) := do
  let (explicit, chomp, c) ← blockHeader (c.skip 1)
  let c ← c.finishLine
  let indent := if explicit = 0 then 0 else parent.getD 0 + explicit
  let (deepest, blank, c) ← blankLines indent c.bound 0 [] c
  let indent := if indent = 0 then max deepest (max ((parent.map (· + 1)).getD 0) 1) else indent
  let (b, c) ← blockLines isFolded indent c.bound ⟨[], [], blank, false⟩ c
  return (.scalar (if isFolded then .folded else .literal) (b.finish chomp), c)

end JoinDiagram.Yaml
