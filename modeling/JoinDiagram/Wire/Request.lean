import JoinDiagram.Json.Reader

namespace JoinDiagram

structure Request where
  sql : Option String
deriving DecidableEq, Repr

namespace Request

open Json

def empty : Request := ⟨none⟩

def query (r : Request) : String := r.sql.getD ""

def readQuery (bound : Nat) (cs : List Char) : Option (Option String × List Char) :=
  match skipBlanks cs with
  | 'n' :: rest => (skipWord ['u', 'l', 'l'] rest).map fun rest => (none, rest)
  | rest => (readString bound rest).map fun (s, rest) => (some s, rest)

/-- The fields of a request from a key on. Only `sql` counts, which must not come twice. -/
def readFields (bound : Nat) : Nat → Option Request → List Char → Option (Request × List Char)
  | fuel + 1, found, cs => do
    let (key, rest) ← readString bound (skipBlanks cs)
    match skipBlanks rest with
    | ':' :: rest =>
      let (found, rest) ←
        if key == "sql" then
          if found.isSome then none
          else (readQuery bound rest).map fun (sql, rest) => (some ⟨sql⟩, rest)
        else (skipValue bound rest).map fun rest => (found, rest)
      match skipBlanks rest with
      | ',' :: rest => readFields bound fuel found rest
      | '}' :: rest => some (found.getD empty, rest)
      | _ => none
    | _ => none
  | 0, _, _ => none

def read (cs : List Char) : Option (Request × List Char) :=
  let bound := cs.length
  match skipBlanks cs with
  | '{' :: rest =>
    match skipBlanks rest with
    | '}' :: rest => some (empty, rest)
    | rest => readFields bound bound none rest
  | '[' :: rest =>
    match skipBlanks rest with
    | ']' :: rest => some (empty, rest)
    | rest => do
      let (sql, rest) ← readQuery bound rest
      match skipBlanks rest with
      | ']' :: rest => some (⟨sql⟩, rest)
      | _ => none
  | _ => none

def ofJson? (text : String) : Option Request := do
  let (request, rest) ← read text.toList
  if (skipBlanks rest).isEmpty then some request else none

end Request

end JoinDiagram
