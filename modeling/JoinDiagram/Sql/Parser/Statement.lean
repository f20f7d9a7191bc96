import JoinDiagram.Sql.Lexer
import JoinDiagram.Sql.Parser.Command.Access
import JoinDiagram.Sql.Parser.Command.Alter
import JoinDiagram.Sql.Parser.Command.Copy
import JoinDiagram.Sql.Parser.Command.Create
import JoinDiagram.Sql.Parser.Command.Prepared
import JoinDiagram.Sql.Parser.Command.Session
import JoinDiagram.Sql.Parser.Command.Upkeep

namespace JoinDiagram.Sql

namespace Parser

def explainOption (g : Grammar) : Parser Unit := do
  discard ident
  if ← nextIs fun t => t.isSymbol "," || t.isSymbol ")" then return ()
  discard g.expr

def explainFormat : Parser Unit := do
  let t ← next
  if (keywordOf t).any ["TEXT", "GRAPHVIZ", "JSON"].contains then return ()
  expected "fileformat" t

def explainMode (g : Grammar) (grouped : Bool) : Parser Unit := do
  if grouped && (← nextIsSymbol "(") then discard (parenthesized (list (explainOption g)))
  else if ← keywords ["QUERY", "PLAN"] then return ()
  else
    skipKeyword "ANALYZE"
    skipKeyword "VERBOSE"
    afterKeyword "FORMAT" explainFormat

def explaining : List String := ["EXPLAIN", "DESCRIBE", "DESC"]

def explainCommand (g : Grammar) (grouped : Bool) : Parser Unit := do
  explainMode g grouped
  match ← attempt g.statement with
  | some (.command k) =>
    if explaining.contains k then fail (.rejected "Explain must be root of the plan")
  | some (.query _) => return ()
  | none =>
    skipOneOf ["EXTENDED", "FORMATTED"]
    name

/-- Semicolons separate statements and may stand alone; the word `END` directly after a statement
    ends them. -/
def statementLoop (one : Parser Statement) : Nat → Bool → List Statement → Parser (List Statement)
  | 0, _, read => return read.reverse
  | fuel + 1, afterOne, read => do
    if ← symbol ";" then statementLoop one fuel false read
    else match ← peek with
    | none => return read.reverse
    | some t =>
      if !afterOne then statementLoop one fuel true ((← one) :: read)
      else if t.isKeyword "END" then return read.reverse
      else expected "end of statement" t

def statements (g : Grammar) : Parser (List Statement) := do
  statementLoop g.statement (← bound) false []

def commands (g : Grammar) : List (String × Parser Unit) :=
  [("EXPLAIN", explainCommand g true), ("DESCRIBE", explainCommand g false),
    ("DESC", explainCommand g false), ("INSERT", discard (insertCommand g)),
    ("REPLACE", discard (insertCommand g)), ("UPDATE", discard (updateCommand g)),
    ("DELETE", deleteCommand g), ("MERGE", mergeCommand g),
    ("CREATE", createCommand g (discard (statements g))), ("ALTER", alterCommand g),
    ("DROP", dropCommand g), ("GRANT", grantCommand), ("REVOKE", revokeCommand),
    ("COPY", copyCommand g), ("PREPARE", prepareCommand g), ("EXECUTE", executeCommand g),
    ("EXEC", executeCommand g), ("DEALLOCATE", deallocateCommand), ("CALL", callCommand g),
    ("DECLARE", declareCommand g), ("FETCH", fetchCommand), ("CLOSE", closeCommand),
    ("START", startCommand), ("BEGIN", beginCommand), ("END", endCommand),
    ("COMMIT", endCommand), ("ROLLBACK", rollbackCommand), ("SAVEPOINT", discard ident),
    ("RELEASE", releaseCommand), ("SET", setCommand g), ("SHOW", showCommand g), ("USE", name),
    ("DISCARD", discardCommand), ("PRAGMA", pragmaCommand), ("KILL", killCommand),
    ("FLUSH", flushCommand), ("ANALYZE", analyzeCommand g), ("TRUNCATE", truncateCommand g),
    ("ATTACH", attachCommand g), ("DETACH", detachCommand), ("MSCK", repairCommand),
    ("CACHE", cacheCommand g), ("UNCACHE", uncacheCommand), ("ASSERT", assertCommand g),
    ("UNLOAD", unloadCommand g), ("INSTALL", discard ident), ("LOAD", discard ident),
    ("OPTIMIZE", optimizeCommand g)]

def statement (g : Grammar) : Parser Statement := do
  let t ← peek
  match keywordOf t with
  | some k =>
    if ["SELECT", "WITH", "VALUES"].contains k then return .query (← g.query)
    match (commands g).lookup k with
    | some inside =>
      discard next
      inside
      return .command k
    | none => expected "an SQL statement" t
  | none =>
    if ← nextIsSymbol "(" then return .query (← g.query)
    expected "an SQL statement" t

end Parser

def grammar : Nat → Grammar
  | 0 => ⟨fun _ => throw .tooDeep, throw .tooDeep, throw .tooDeep⟩
  | depth + 1 =>
    let g := grammar depth
    ⟨Parser.subexpr g, Parser.query g (Parser.insertCommand g) (Parser.updateCommand g),
      Parser.statement g⟩

def maxDepth : Nat := 50

def parse (s : String) : Except SyntaxError (List Statement) := do
  let tokens ← lex s
  match (Parser.statements (grammar maxDepth)).run ⟨tokens, 2 * tokens.length + 2, false⟩ with
  | .ok read _ => return read
  | .error e _ => throw e

end JoinDiagram.Sql
