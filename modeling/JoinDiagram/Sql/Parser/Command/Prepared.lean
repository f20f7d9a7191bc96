import JoinDiagram.Sql.Parser.Command.Basic

namespace JoinDiagram.Sql.Parser

def prepareCommand (g : Grammar) : Parser Unit := do
  discard ident
  if ← symbol "(" then
    discard (list (dataType g))
    expectSymbol ")"
  expectKeyword "AS"
  discard g.statement

def executeCommand (g : Grammar) : Parser Unit := do
  name
  if ← symbol "(" then
    discard (listUntil ")" g.expr)
    expectSymbol ")"
  else
    match ← peek with
    | some t => if !(t.isKeyword "USING" || t.isSymbol ";") then discard (list g.expr)
    | none => pure ()
  afterKeyword "USING" (discard (list g.expr))

def deallocateCommand : Parser Unit := do
  skipKeyword "PREPARE"
  discard ident

def callCommand (g : Grammar) : Parser Unit := do
  let routine ← dottedName
  if ← nextIsSymbol "(" then discard (functionCall g (operand g) routine)

def declareCommand (g : Grammar) : Parser Unit := do
  discard ident
  skipKeyword "BINARY"
  skipOneOf ["INSENSITIVE", "ASENSITIVE"]
  if !(← keyword "SCROLL") then skipKeywords ["NO", "SCROLL"]
  expectKeyword "CURSOR"
  if (← oneOf ["WITH", "WITHOUT"]).isSome then expectKeyword "HOLD"
  expectKeyword "FOR"
  discard g.query

def fetchDirection : Parser Unit := do
  let count : Parser Unit := discard numberLiteral
  match ← oneOf ["NEXT", "PRIOR", "FIRST", "LAST", "ABSOLUTE", "RELATIVE", "FORWARD", "BACKWARD",
    "ALL"] with
  | some "ABSOLUTE" | some "RELATIVE" | none => count
  | some "FORWARD" | some "BACKWARD" =>
    if ← keyword "ALL" then return ()
    count
  | some _ => return ()

def fetchCommand : Parser Unit := do
  fetchDirection
  discard (expectOneOf ["FROM", "IN"])
  discard ident
  afterKeyword "INTO" name

def closeCommand : Parser Unit := do
  if ← keyword "ALL" then return ()
  discard ident

end JoinDiagram.Sql.Parser
