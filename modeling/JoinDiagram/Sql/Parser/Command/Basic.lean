import JoinDiagram.Sql.Parser.Query

namespace JoinDiagram.Sql.Parser

def ifExists : Parser Unit := skipKeywords ["IF", "EXISTS"]

def ifNotExists : Parser Unit := skipKeywords ["IF", "NOT", "EXISTS"]

def name : Parser Unit := discard dottedName

def names : Parser Unit := discard (list dottedName)

def idents : Parser Unit := discard (list ident)

def optionalColumns : Parser Unit := do
  if ← symbol "(" then
    discard (listUntil ")" ident)
    expectSymbol ")"

def onCluster : Parser Unit := afterKeywords ["ON", "CLUSTER"] (discard ident)

def dropBehavior : Parser Unit := skipOneOf ["CASCADE", "RESTRICT"]

def options (g : Grammar) (k : String) : Parser Unit := discard (optionsAfter g k)

def condition (g : Grammar) : Parser Unit := discard (parenthesized g.expr)

def partitionValues (g : Grammar) : Parser Unit := discard (exprGroup g)

def trailingListLoop (item : Parser Unit) (after : String) : Nat → Parser Unit
  | 0 => return ()
  | fuel + 1 => do
    item
    let comma ← symbol ","
    if ← symbol ")" then return ()
    if !comma then expectedHere s!"',' or ')' after {after} definition"
    trailingListLoop item after fuel

def trailingList (item : Parser Unit) (after : String) : Parser Unit := do
  if ← symbol "(" then
    if ← symbol ")" then return ()
    trailingListLoop item after (← bound)

def owner : Parser Unit := do
  match ← oneOf ["CURRENT_USER", "CURRENT_ROLE", "SESSION_USER"] with
  | some _ => return ()
  | none =>
    discard <| explain
      (fun fault => "Expected: CURRENT_USER, CURRENT_ROLE, SESSION_USER or identifier after " ++
        s!"OWNER TO. sql parser error: {fault}")
      ident

def routineArgument (g : Grammar) : Parser Unit := do
  skipOneOf ["IN", "OUT", "INOUT"]
  match ← dataType g with
  | .custom .. => discard (dataType g)
  | _ => pure ()
  let initial ← if ← keyword "DEFAULT" then pure true else symbol "="
  if initial then discard g.expr

def routineHeading (g : Grammar) : Parser Unit := do
  name
  if ← symbol "(" then
    discard (listUntil ")" (routineArgument g))
    expectSymbol ")"

def rowRules (g : Grammar) : Parser Unit := do
  afterKeyword "TO" (discard (list owner))
  afterKeyword "USING" (condition g)
  afterKeywords ["WITH", "CHECK"] (condition g)

end JoinDiagram.Sql.Parser
