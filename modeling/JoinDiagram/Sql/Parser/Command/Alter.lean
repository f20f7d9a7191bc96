import JoinDiagram.Sql.Parser.Command.Table

namespace JoinDiagram.Sql.Parser

def columnPosition : Parser Unit := do
  if ← keyword "FIRST" then return ()
  afterKeyword "AFTER" (discard ident)

def projection (g : Grammar) : Parser Unit := do
  ifNotExists
  discard ident
  discard <| parenthesized do
    expectKeyword "SELECT"
    discard (list (selectItem g))
    discard (groupByClause g)
    discard (orderByClause g)

def addColumn (g : Grammar) : Parser Unit := do
  skipKeyword "COLUMN"
  ifNotExists
  discard (column g)
  columnPosition

def addElement (g : Grammar) : Parser Unit := do
  if ← tableConstraint g then return ()
  if ← keyword "PROJECTION" then projection g
  else
    ifNotExists
    let partitions ← many do
      if ← keyword "PARTITION" then return some (← partitionValues g)
      return none
    if partitions.isEmpty then addColumn g

def renameElement : Parser Unit := do
  if ← keyword "TO" then name
  else
    skipKeyword "COLUMN"
    discard ident
    expectKeyword "TO"
    discard ident

def rowSecurity : List String := ["ROW", "LEVEL", "SECURITY"]

def disableElement : Parser Unit :=
  firstClause
    [(rowSecurity, return ()), (["RULE"], discard ident), (["TRIGGER"], discard ident)]
    (expectedHere "ROW LEVEL SECURITY, RULE, or TRIGGER after DISABLE")

def enableElement : Parser Unit :=
  firstClause
    [(["ALWAYS", "RULE"], discard ident), (["ALWAYS", "TRIGGER"], discard ident),
      (rowSecurity, return ()), (["REPLICA", "RULE"], discard ident),
      (["REPLICA", "TRIGGER"], discard ident), (["RULE"], discard ident),
      (["TRIGGER"], discard ident)]
    (expectedHere "ALWAYS, REPLICA, ROW LEVEL SECURITY, RULE, or TRIGGER after ENABLE")

def refreshProjection : Parser Unit := do
  ifExists
  discard ident
  afterKeywords ["IN", "PARTITION"] (discard ident)

def dropPart : Parser Unit := do
  ifExists
  discard ident
  skipKeyword "CASCADE"

def dropElement (g : Grammar) : Parser Unit :=
  firstClause
    [(["IF", "EXISTS", "PARTITION"], partitionValues g), (["PARTITION"], partitionValues g),
      (["CONSTRAINT"], dropPart), (["PRIMARY", "KEY"], return ()),
      (["PROJECTION"], do ifExists; discard ident),
      (["COLUMN"], dropPart)]
    dropPart

def renamePartition (g : Grammar) : Parser Unit := do
  partitionValues g
  expectKeywords ["RENAME", "TO", "PARTITION"]
  partitionValues g

def redefinition (g : Grammar) : Parser Unit := do
  discard (dataType g)
  discard (many (columnOption g))
  columnPosition

def changeColumn (g : Grammar) : Parser Unit := do
  skipKeyword "COLUMN"
  discard ident
  discard ident
  redefinition g

def modifyColumn (g : Grammar) : Parser Unit := do
  skipKeyword "COLUMN"
  discard ident
  redefinition g

def numberColumn : Parser Unit := do
  firstClause [(["ALWAYS"], return ()), (["BY", "DEFAULT"], return ())] (return ())
  expectKeywords ["AS", "IDENTITY"]
  if ← nextIsSymbol "(" then discard (parenthesized sequenceOptions)

def alterColumn (g : Grammar) : Parser Unit := do
  skipKeyword "COLUMN"
  discard ident
  firstClause
    [(["SET", "NOT", "NULL"], return ()), (["DROP", "NOT", "NULL"], return ()),
      (["SET", "DEFAULT"], discard g.expr), (["DROP", "DEFAULT"], return ()),
      (["SET", "DATA", "TYPE"], discard (dataType g)), (["ADD", "GENERATED"], numberColumn)]
    (expectedHere "SET/DROP NOT NULL, SET DEFAULT, or SET DATA TYPE after ALTER COLUMN")

def tablePart (g : Grammar) : Parser Unit := do
  discard (expectOneOf ["PART", "PARTITION"])
  discard g.expr

def freezePart (g : Grammar) : Parser Unit := do
  tablePart g
  afterKeyword "WITH" do
    expectKeyword "NAME"
    discard ident

def alterOperation (g : Grammar) : Parser Unit :=
  firstClause
    [(["ADD"], addElement g), (["RENAME"], renameElement), (["DISABLE"], disableElement),
      (["ENABLE"], enableElement), (["CLEAR", "PROJECTION"], refreshProjection),
      (["MATERIALIZE", "PROJECTION"], refreshProjection), (["DROP"], dropElement g),
      (["PARTITION"], renamePartition g), (["CHANGE"], changeColumn g),
      (["MODIFY"], modifyColumn g), (["ALTER"], alterColumn g),
      (["SWAP"], do expectKeyword "WITH"; name),
      (["OWNER", "TO"], owner), (["ATTACH"], tablePart g), (["DETACH"], tablePart g),
      (["FREEZE"], freezePart g), (["UNFREEZE"], freezePart g),
      (["SET", "TBLPROPERTIES"], discard (parenthesized (list (tableOption g))))]
    (expectedHere ("ADD, RENAME, PARTITION, SWAP, DROP, or SET TBLPROPERTIES after ALTER " ++
      "TABLE"))

def alterTable (g : Grammar) : Parser Unit := do
  ifExists
  skipKeyword "ONLY"
  name
  onCluster
  discard (list (alterOperation g))
  firstClause
    [(["LOCATION"], discard ident), (["SET", "LOCATION"], discard ident)]
    (return ())

def alterView (g : Grammar) : Parser Unit := do
  name
  discard optionalColumnList
  options g "WITH"
  expectKeyword "AS"
  discard g.query

def alterIndex : Parser Unit := do
  name
  if !(← keyword "RENAME") then expectedHere "RENAME after ALTER INDEX"
  if !(← keyword "TO") then expectedHere "TO after RENAME"
  name

def alterPolicy (g : Grammar) : Parser Unit := do
  discard ident
  expectKeyword "ON"
  name
  if ← keyword "RENAME" then
    expectKeyword "TO"
    discard ident
  else rowRules g

def alterCommand (g : Grammar) : Parser Unit := do
  match ← expectOneOf ["VIEW", "TABLE", "INDEX", "ROLE", "POLICY"] with
  | "VIEW" => alterView g
  | "TABLE" => alterTable g
  | "INDEX" => alterIndex
  | "ROLE" => fail (.rejected "ALTER ROLE is only support for PostgreSqlDialect, MsSqlDialect")
  | _ => alterPolicy g

def droppable : List String :=
  ["TABLE", "VIEW", "INDEX", "ROLE", "SCHEMA", "DATABASE", "SEQUENCE", "STAGE", "TYPE"]

def dropObjects (kind : String) : Parser Unit := do
  ifExists
  names
  let t ← peek
  let cascade ← keyword "CASCADE"
  let restrict ← keyword "RESTRICT"
  let purge ← keyword "PURGE"
  if cascade && restrict then
    fail (.misplaced "Cannot specify both CASCADE and RESTRICT in DROP" t)
  if kind == "ROLE" && (cascade || restrict || purge) then
    fail (.misplaced "Cannot specify CASCADE, RESTRICT, or PURGE in DROP ROLE" t)

def dropRoutine (g : Grammar) : Parser Unit := do
  ifExists
  discard (list (routineHeading g))
  dropBehavior

def dropFromTable (object : Parser Unit) : Parser Unit := do
  ifExists
  object
  expectKeyword "ON"
  name
  dropBehavior

def dropSecret : Parser Unit := do
  ifExists
  discard ident
  afterKeyword "FROM" (discard (tolerate ident))

def dropCommand (g : Grammar) : Parser Unit := do
  skipKeyword "TEMPORARY"
  match ← oneOf droppable with
  | some kind => dropObjects kind
  | none =>
    firstClause
      [(["FUNCTION"], dropRoutine g), (["POLICY"], dropFromTable (discard ident)),
        (["PROCEDURE"], dropRoutine g), (["SECRET"], dropSecret), (["TRIGGER"], dropFromTable name)]
      (expectedHere ("TABLE, VIEW, INDEX, ROLE, SCHEMA, DATABASE, FUNCTION, PROCEDURE, STAGE, " ++
        "TRIGGER, SECRET, SEQUENCE, or TYPE after DROP"))

end JoinDiagram.Sql.Parser
