import JoinDiagram.Sql.Parser.Basic

namespace JoinDiagram.Sql

/-- The readings that nest: each of them takes one from the depth that is left to it, and the record
    holds the readings for the depth that remains. -/
structure Grammar where
  subexpr : Nat → Parser Expr
  query : Parser Query
  statement : Parser Statement

def Grammar.expr (g : Grammar) : Parser Expr := g.subexpr 0

namespace Parser

def wordPart (s : String) : List Part := [.word s]

def exprItems (es : List Expr) : Part := .items (es.map fun e => ⟨[.expr e]⟩)

def optionalClause (g : Grammar) (word : String) : Parser (List Part) := do
  if ← keyword word then return [.word word, .expr (← g.expr)]
  return []

def orderDirection : Parser (List Part) := do
  if ← keyword "ASC" then return wordPart "ASC"
  if ← keyword "DESC" then return wordPart "DESC"
  return []

def exprGroup (g : Grammar) : Parser (List Expr) := parenthesized (list g.expr)

def numberLiteral : Parser Literal := do
  let t ← peek
  match ← literal with
  | .number digits long => return .number digits long
  | .placeholder name => return .placeholder name
  | _ => expected "literal number" t

end Parser

end JoinDiagram.Sql
