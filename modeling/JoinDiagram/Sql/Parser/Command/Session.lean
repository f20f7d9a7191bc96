import JoinDiagram.Sql.Parser.Command.Basic

namespace JoinDiagram.Sql.Parser

def isolationLevel : Parser Unit :=
  let level (ks : List String) : List String × Parser Unit := (ks, return ())
  firstClause
    [level ["READ", "UNCOMMITTED"], level ["READ", "COMMITTED"], level ["REPEATABLE", "READ"],
      level ["SERIALIZABLE"]]
    (expectedHere "isolation level")

def transactionModeLoop : Nat → Bool → Parser Unit
  | 0, _ => return ()
  | fuel + 1, required => do
    let found ← firstClause
      [(["ISOLATION", "LEVEL"], do isolationLevel; return true),
        (["READ", "ONLY"], return true), (["READ", "WRITE"], return true)]
      (return false)
    if found then transactionModeLoop fuel (← symbol ",")
    else if required then expectedHere "transaction mode"

def transactionModes : Parser Unit := do transactionModeLoop (← bound) false

def startCommand : Parser Unit := do
  expectKeyword "TRANSACTION"
  transactionModes

def transactionWord : Parser Unit := skipOneOf ["TRANSACTION", "WORK"]

def beginCommand : Parser Unit := do
  skipOneOf ["DEFERRED", "IMMEDIATE", "EXCLUSIVE"]
  transactionWord
  transactionModes

def endCommand : Parser Unit := do
  transactionWord
  afterKeyword "AND" do
    skipKeyword "NO"
    expectKeyword "CHAIN"

def rollbackCommand : Parser Unit := do
  endCommand
  afterKeyword "TO" do
    skipKeyword "SAVEPOINT"
    discard ident

def releaseCommand : Parser Unit := do
  skipKeyword "SAVEPOINT"
  discard ident

def setRole : Parser Unit := do
  expectKeyword "ROLE"
  if ← keyword "NONE" then return ()
  discard ident

/-- A value for a variable. An expression that cannot be read is left where it fails. -/
def settingValue (g : Grammar) (what : String) : Parser Unit := do
  match ← tolerate g.expr with
  | some _ => return ()
  | none => expectedHere what

def variableValue (g : Grammar) : Parser Unit := do
  if ← nextIs fun t => t.isKeyword "SELECT" || t.isKeyword "WITH" then discard g.query
  else settingValue g "variable value"

def setCharset : Parser Unit := do
  if ← keyword "DEFAULT" then return ()
  discard literalText
  afterKeyword "COLLATE" (discard literalText)

def setWithoutSign (g : Grammar) (target : String) (modified : Bool) : Parser Unit := do
  if target.toList.map Text.asciiUpper == "TIMEZONE".toList then
    settingValue g "timezone value"
  else if target == "CHARACTERISTICS" then
    expectKeywords ["AS", "TRANSACTION"]
    transactionModes
  else if target == "TRANSACTION" && !modified then
    if ← keyword "SNAPSHOT" then discard literal
    else transactionModes
  else expectedHere "equals sign or TO"

def settingTarget : Parser (Option String) := do
  if ← keywords ["TIME", "ZONE"] then return some "TIMEZONE"
  if ← symbol "(" then
    idents
    expectSymbol ")"
    return none
  return some (dottedText (← dottedName))

def setVariable (g : Grammar) (modified : Bool) : Parser Unit := do
  let target ← settingTarget
  if target.any (·.toList.map Text.asciiUpper == "NAMES".toList) then setCharset
  else
    let assigned ← if ← symbol "=" then pure true else keyword "TO"
    match target with
    | some single =>
      if assigned then discard (list (variableValue g))
      else setWithoutSign g single modified
    | none =>
      if assigned then discard (parenthesized (list (variableValue g)))
      else expectedHere "set variable"

def setCommand (g : Grammar) : Parser Unit := do
  match ← oneOf ["SESSION", "LOCAL", "HIVEVAR"] with
  | some "HIVEVAR" =>
    expectSymbol ":"
    setVariable g true
  | modifier =>
    match ← attempt setRole with
    | some _ => return ()
    | none => setVariable g modifier.isSome

def showFilter (g : Grammar) : Parser Unit :=
  firstClause
    [(["LIKE"], discard literalText), (["ILIKE"], discard literalText),
      (["WHERE"], discard g.expr)]
    (discard (attempt literalText))

def showPlace : Parser Unit := do
  if (← oneOf ["FROM", "IN"]).isSome then discard ident

def showColumns (g : Grammar) : Parser Unit := do
  discard (expectOneOf ["FROM", "IN"])
  name
  showPlace
  showFilter g

def showPlaced (g : Grammar) : Parser Unit := do
  showPlace
  showFilter g

def variableNameLoop : Nat → Parser Unit
  | 0 => return ()
  | fuel + 1 => do
    match ← peek with
    | some t =>
      if t.isSymbol "=" then return ()
      discard next
      variableNameLoop fuel
    | none => return ()

def showCreated : Parser Unit := do
  discard (expectOneOf ["TABLE", "TRIGGER", "FUNCTION", "PROCEDURE", "EVENT", "VIEW"])
  name

def showCommand (g : Grammar) : Parser Unit := do
  let extended ← keyword "EXTENDED"
  let full ← keyword "FULL"
  skipKeyword "SESSION"
  skipKeyword "GLOBAL"
  let filtered (k : String) : List String × Parser Unit := ([k], showFilter g)
  firstClause
    [(["COLUMNS"], showColumns g), (["FIELDS"], showColumns g), (["TABLES"], showPlaced g),
      (["MATERIALIZED", "VIEWS"], showPlaced g), (["VIEWS"], showPlaced g), filtered "FUNCTIONS"] <|
    if extended || full then
      fail (.rejected "EXTENDED/FULL are not supported with this type of SHOW query")
    else
      firstClause
        [(["CREATE"], showCreated), filtered "COLLATION", filtered "VARIABLES", filtered "STATUS",
          filtered "DATABASES", filtered "SCHEMAS"]
        (do variableNameLoop (← bound))

def discardCommand : Parser Unit := do
  match ← oneOf ["ALL", "PLANS", "SEQUENCES", "TEMP", "TEMPORARY"] with
  | some _ => return ()
  | none => expectedHere "ALL, PLANS, SEQUENCES, TEMP or TEMPORARY after DISCARD"

def pragmaValue : Parser Unit := do
  let t ← peek
  match ← literal with
  | .text .plain _ | .text .doubleQuoted _ | .number .. | .placeholder _ => return ()
  | _ => expected "number or string or ? placeholder" t

def pragmaCommand : Parser Unit := do
  name
  if ← symbol "(" then
    pragmaValue
    expectSymbol ")"
  else if ← symbol "=" then pragmaValue

end JoinDiagram.Sql.Parser
