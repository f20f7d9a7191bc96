import JoinDiagram.Yaml.Scan

namespace JoinDiagram.Yaml

structure Scalar where
  tag : String
  style : ScalarStyle
  text : String
deriving DecidableEq, Repr

def Scalar.missing : Scalar := ⟨"", .plain, ""⟩

inductive Node where
  | scalar (anchor : Option String) (value : Scalar)
  | reference (name : String)
deriving DecidableEq, Repr

/-- A document that holds nothing, or one mapping without further mappings or sequences in it. -/
inductive Document where
  | empty
  | mapping (anchor : Option String) (entries : List (Node × Node))
deriving DecidableEq, Repr

abbrev TagHandles := List (String × String)

def standardHandles : TagHandles := [("!", "!"), ("!!", "tag:yaml.org,2002:")]

def directives : Bool → TagHandles → List Token → Option (TagHandles × List Token)
  | hasVersion, handles, .version major minor :: ts =>
    if hasVersion || major != 1 || !(minor == 1 || minor == 2) then none
    else directives true handles ts
  | hasVersion, handles, .tagHandle handle expansion :: ts =>
    if handles.any (·.1 == handle) then none
    else directives hasVersion ((handle, expansion) :: handles) ts
  | _, handles, ts => some (handles ++ standardHandles, ts)

structure Properties where
  anchor : Option String
  tag : Option String
deriving DecidableEq, Repr

def Properties.isEmpty (p : Properties) : Bool := p.anchor.isNone && p.tag.isNone

def resolveTag (handles : TagHandles) (handle suffix : String) : Option String :=
  if handle.isEmpty then some suffix else (handles.lookup handle).map (· ++ suffix)

def properties (handles : TagHandles) : List Token → Option (Properties × List Token)
  | .anchor name :: .tag handle suffix :: ts | .tag handle suffix :: .anchor name :: ts => do
    return (⟨some name, some (← resolveTag handles handle suffix)⟩, ts)
  | .anchor name :: ts => some (⟨some name, none⟩, ts)
  | .tag handle suffix :: ts => do return (⟨none, some (← resolveTag handles handle suffix)⟩, ts)
  | ts => some (⟨none, none⟩, ts)

def node (handles : TagHandles) (ts : List Token) : Option (Node × List Token) := do
  match ts with
  | .reference name :: rest => return (.reference name, rest)
  | _ =>
    let (p, rest) ← properties handles ts
    match rest with
    | .scalar style text :: rest => return (.scalar p.anchor ⟨p.tag.getD "", style, text⟩, rest)
    | .blockMappingStart :: _ | .flowMappingStart :: _ => none
    | _ =>
      if p.isEmpty then none
      else return (.scalar p.anchor { Scalar.missing with tag := p.tag.getD "" }, rest)

def nodeBefore (handles : TagHandles) (ends : List Token) (ts : List Token) :
    Option (Node × List Token) :=
  if ts.head?.any ends.contains then some (.scalar none .missing, ts) else node handles ts

def entryValue (handles : TagHandles) (ends : List Token) : List Token → Option (Node × List Token)
  | .value :: ts => nodeBefore handles ends ts
  | ts => some (.scalar none .missing, ts)

def blockEntries (handles : TagHandles) :
    Nat → List (Node × Node) → List Token → Option (List (Node × Node) × List Token)
  | 0, _, _ => none
  | _ + 1, read, .blockEnd :: ts => some (read.reverse, ts)
  | fuel + 1, read, .key :: ts => do
    let ends := [.key, .value, .blockEnd]
    let (key, ts) ← nodeBefore handles ends ts
    let (value, ts) ← entryValue handles ends ts
    blockEntries handles fuel ((key, value) :: read) ts
  | _, _, _ => none

def flowEntry (handles : TagHandles) : List Token → Option ((Node × Node) × List Token)
  | .key :: ts => do
    let (key, ts) ← nodeBefore handles [.value, .flowEntry, .flowMappingEnd] ts
    let (value, ts) ← entryValue handles [.flowEntry, .flowMappingEnd] ts
    return ((key, value), ts)
  | ts => do
    let (key, ts) ← node handles ts
    return ((key, .scalar none .missing), ts)

def flowEntries (handles : TagHandles) :
    Nat → List (Node × Node) → List Token → Option (List (Node × Node) × List Token)
  | 0, _, _ => none
  | _ + 1, read, .flowMappingEnd :: ts | _ + 1, read, .flowEntry :: .flowMappingEnd :: ts =>
    some (read.reverse, ts)
  | fuel + 1, read, .flowEntry :: ts => do
    let (entry, ts) ← flowEntry handles ts
    flowEntries handles fuel (entry :: read) ts
  | _, _, _ => none

def flowMapping (handles : TagHandles) (ts : List Token) :
    Option (List (Node × Node) × List Token) := do
  match ts with
  | .flowMappingEnd :: ts => return ([], ts)
  | _ =>
    let (entry, ts) ← flowEntry handles ts
    flowEntries handles (ts.length + 1) [entry] ts

def root (handles : TagHandles) (ts : List Token) : Option (Document × List Token) := do
  let (p, ts) ← properties handles ts
  match ts with
  | .blockMappingStart :: ts =>
    let (entries, ts) ← blockEntries handles (ts.length + 1) [] ts
    return (.mapping p.anchor entries, ts)
  | .flowMappingStart :: ts =>
    let (entries, ts) ← flowMapping handles ts
    return (.mapping p.anchor entries, ts)
  | .scalar .. :: _ => none
  | _ => if p.isEmpty then none else return (.empty, ts)

namespace Document

def ofTokens? (ts : List Token) : Option Document := do
  let (handles, rest) ← directives false [] ts
  let (document, rest) ←
    match rest with
    | .documentStart :: more =>
      if more.head?.all (· == .documentEnd) then some (.empty, more) else root handles more
    | [] => if ts.isEmpty then some (.empty, []) else none
    | _ => if rest.length < ts.length then none else root handles rest
  if rest.all (· == .documentEnd) then some document else none

def ofText? (text : String) : Option Document := (tokens? text).bind ofTokens?

end Document

structure Anchors where
  numbers : List (String × Nat)
  scalars : List (Nat × Option Scalar)

namespace Anchors

def empty : Anchors := ⟨[], []⟩

/-- An anchor is numbered by the count of names before it. A number that comes again, because its
    name was defined twice, stands for its last node. -/
def define (a : Anchors) (anchor : Option String) (value : Option Scalar) : Anchors :=
  match anchor with
  | some name =>
    let number := a.numbers.length
    ⟨(name, number) :: a.numbers.filter (·.1 != name), (number, value) :: a.scalars⟩
  | none => a

abbrev Reference := Except Nat Scalar

def reference (a : Anchors) : Node → Option (Reference × Anchors)
  | .scalar anchor value => some (.ok value, a.define anchor (some value))
  | .reference name => (a.numbers.lookup name).map fun number => (.error number, a)

def scalar? (a : Anchors) : Reference → Option Scalar
  | .ok value => some value
  | .error number => (a.scalars.lookup number).bind id

end Anchors

def references : Anchors → List (Node × Node) →
    Option (List (Anchors.Reference × Anchors.Reference) × Anchors)
  | a, [] => some ([], a)
  | a, (key, value) :: rest => do
    let (key, a) ← a.reference key
    let (value, a) ← a.reference value
    let (more, a) ← references a rest
    return ((key, value) :: more, a)

def Document.scalars? : Document → Option (List (Scalar × Scalar))
  | empty => some []
  | mapping anchor entries => do
    let (found, a) ← references (Anchors.empty.define anchor none) entries
    found.mapM fun (key, value) => do return (← a.scalar? key, ← a.scalar? value)

end JoinDiagram.Yaml
