import JoinDiagram.Yaml.Directive
import JoinDiagram.Yaml.Scalar

namespace JoinDiagram.Yaml

/-- A place where a key may have begun: what follows is a key if a colon comes on the same line. -/
structure KeyCandidate where
  required : Bool
  number : Nat
  index : Nat
  line : Nat
  column : Nat

/-- A text that is read as tokens. The tokens come in reverse, and the columns of the open block
    mappings from the inside out. -/
structure Scan where
  cursor : Cursor
  inFlow : Bool
  columns : List Nat
  keyAllowed : Bool
  candidate : Option KeyCandidate
  tokens : List Token
  count : Nat

namespace Scan

def start (text : String) : Scan := ⟨.start text, false, [], true, none, [], 0⟩

def push (s : Scan) (t : Token) : Scan := { s with tokens := t :: s.tokens, count := s.count + 1 }

def insert (s : Scan) (number : Nat) (ts : List Token) : Scan :=
  let later := s.count - number
  { s with
    tokens := s.tokens.take later ++ ts.reverse ++ s.tokens.drop later
    count := s.count + ts.length }

/-- Gives up a candidate. Where a block mapping goes on there must be a key. -/
def dropCandidate (s : Scan) : Option Scan :=
  if s.candidate.any (·.required) then none else some { s with candidate := none }

def expireCandidate (s : Scan) : Option Scan :=
  if s.candidate.any fun k => k.line < s.cursor.line || k.index + 1024 < s.cursor.index then
    s.dropCandidate
  else some s

def saveCandidate (s : Scan) : Option Scan :=
  if s.keyAllowed then do
    let s ← s.dropCandidate
    let c := s.cursor
    let required := !s.inFlow && s.columns.head? == some c.column
    return { s with candidate := some ⟨required, s.count, c.index, c.line, c.column⟩ }
  else some s

def close (s : Scan) (isRightOf : Nat → Bool) : Scan :=
  if s.inFlow then s
  else
    let closed := s.columns.takeWhile isRightOf
    { closed.foldl (fun s _ => s.push .blockEnd) s with columns := s.columns.drop closed.length }

def closeAll (s : Scan) : Scan := s.close fun _ => true

def opensMapping (s : Scan) (column : Nat) : Bool := !s.inFlow && s.columns.head?.all (· < column)

def openMapping (s : Scan) : Scan :=
  let column := s.cursor.column
  if s.opensMapping column then { s.push .blockMappingStart with columns := column :: s.columns }
  else s

def skipToToken : Nat → Scan → Scan
  | 0, s => s
  | fuel + 1, s =>
    let c := s.cursor
    let c := if c.column == 0 && c.headIs (· == byteOrderMark) then c.skip 1 else c
    let c := c.skipWhile fun d => d == ' ' || d == '\t' && (s.inFlow || !s.keyAllowed)
    let c := if c.headIs (· == '#') then c.skipLineRest else c
    if c.headIs isBreak then
      skipToToken fuel { s with cursor := c.skipBreak, keyAllowed := s.keyAllowed || !s.inFlow }
    else { s with cursor := c }

def boundary (s : Scan) (t : Token) (next : Cursor) : Option Scan := do
  let s ← s.closeAll.dropCandidate
  return { s.push t with cursor := next, keyAllowed := false }

def keyPart (s : Scan) (read : Cursor → Option (Token × Cursor)) : Option Scan := do
  let s ← s.saveCandidate
  let (t, next) ← read s.cursor
  return { s.push t with cursor := next, keyAllowed := false }

def named (token : String → Token) (c : Cursor) : Option (Token × Cursor) :=
  (anchorName c).map fun (name, next) => (token name, next)

def flowStart (s : Scan) : Option Scan :=
  if s.inFlow || !s.columns.isEmpty then none
  else some { s.push .flowMappingStart with
    cursor := s.cursor.skip 1, inFlow := true, keyAllowed := true, candidate := none }

def flowEnd (s : Scan) : Option Scan := do
  let s ← s.dropCandidate
  return { s.push .flowMappingEnd with cursor := s.cursor.skip 1, inFlow := false, keyAllowed := false }

def flowEntry (s : Scan) : Option Scan := do
  let s ← s.dropCandidate
  return { s.push .flowEntry with cursor := s.cursor.skip 1, keyAllowed := true }

def explicitKey (s : Scan) : Option Scan := do
  if !s.inFlow && !s.keyAllowed then none
  let s ← s.openMapping.dropCandidate
  return { s.push .key with cursor := s.cursor.skip 1, keyAllowed := !s.inFlow }

def value (s : Scan) : Option Scan :=
  match s.candidate with
  | some k =>
    let isNew := s.opensMapping k.column
    let marked := s.insert k.number (if isNew then [.blockMappingStart, .key] else [.key])
    some { marked.push .value with
      columns := if isNew then k.column :: s.columns else s.columns
      cursor := s.cursor.skip 1, keyAllowed := false, candidate := none }
  | none =>
    if !s.inFlow && !s.keyAllowed then none
    else some { s.openMapping.push .value with cursor := s.cursor.skip 1, keyAllowed := !s.inFlow }

def block (s : Scan) (isFolded : Bool) : Option Scan := do
  let s ← s.dropCandidate
  let (t, next) ← blockScalar isFolded s.columns.head? s.cursor
  return { s.push t with cursor := next, keyAllowed := true }

def plain (s : Scan) : Option Scan := do
  let s ← s.saveCandidate
  let indent := (s.columns.head?.map (· + 1)).getD 0
  let (t, crossesLines, next) ← plainScalar s.inFlow indent s.cursor
  return { s.push t with cursor := next, keyAllowed := crossesLines }

def isIndicator (c : Char) : Bool :=
  [',', '[', ']', '{', '}', '#', '&', '*', '!', '|', '>', '\'', '"', '%', '@', '\x60'].contains c

def token (s : Scan) (d : Char) : Option Scan :=
  let c := s.cursor
  if d == '%' && c.column == 0 then do
    let (t, next) ← directive c
    s.boundary t next
  else if c.isMarker '-' then s.boundary .documentStart (c.skip 3)
  else if c.isMarker '.' then s.boundary .documentEnd (c.skip 3)
  else if d == '{' then s.flowStart
  else if d == '}' then s.flowEnd
  else if d == ',' then s.flowEntry
  else if d == '-' && c.endsWord 1 then none
  else if d == '?' && (s.inFlow || c.endsWord 1) then s.explicitKey
  else if d == ':' && (s.inFlow || c.endsWord 1) then s.value
  else if d == '*' then s.keyPart (named .reference)
  else if d == '&' then s.keyPart (named .anchor)
  else if d == '!' then s.keyPart (tag s.inFlow)
  else if d == '|' && !s.inFlow then s.block false
  else if d == '>' && !s.inFlow then s.block true
  else if d == '\'' || d == '"' then s.keyPart (quotedScalar d)
  else if isSpace d || isIndicator d then none
  else s.plain

def finish (s : Scan) : Option (List Token) := do
  let s ← s.closeAll.dropCandidate
  return s.tokens.reverse

def run : Nat → Scan → Option (List Token)
  | 0, _ => none
  | fuel + 1, s => do
    let s ← (skipToToken s.cursor.bound s).expireCandidate
    match s.cursor.head? with
    | none => s.finish
    | some d => run fuel (← (s.close (s.cursor.column < ·)).token d)

end Scan

def tokens? (text : String) : Option (List Token) :=
  if text.toList.all isAllowed then (Scan.start text).run (text.length + 1) else none

end JoinDiagram.Yaml
