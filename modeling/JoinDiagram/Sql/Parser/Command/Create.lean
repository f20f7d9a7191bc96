import JoinDiagram.Sql.Parser.Command.Routine
import JoinDiagram.Sql.Parser.Command.Table

namespace JoinDiagram.Sql.Parser

def viewColumn (g : Grammar) : Parser Unit := do
  discard ident
  if ← nextIs fun t => t.isKeyword "OPTIONS" || t.isKeyword "COMMENT" then
    discard (columnOption g)

def viewColumns (g : Grammar) : Parser Unit := do
  if ← symbol "(" then
    discard (listUntil ")" (viewColumn g))
    expectSymbol ")"

def createView (g : Grammar) : Parser Unit := do
  skipKeyword "MATERIALIZED"
  expectKeyword "VIEW"
  ifNotExists
  name
  viewColumns g
  options g "WITH"
  afterKeyword "CLUSTER" do
    expectKeyword "BY"
    discard optionalColumnList
  options g "OPTIONS"
  afterKeyword "TO" name
  afterKeyword "COMMENT" do
    expectSymbol "="
    plainText "string literal"
  expectKeyword "AS"
  discard g.query
  skipKeywords ["WITH", "NO", "SCHEMA", "BINDING"]

def createPolicy (g : Grammar) : Parser Unit := do
  discard ident
  expectKeyword "ON"
  name
  afterKeyword "AS" (discard (expectOneOf ["PERMISSIVE", "RESTRICTIVE"]))
  afterKeyword "FOR" (discard (expectOneOf ["ALL", "SELECT", "INSERT", "UPDATE", "DELETE"]))
  rowRules g

def createSecret : Parser Unit := do
  ifNotExists
  if !(← nextIsSymbol "(") then
    let inside ← keyword "IN"
    let first ← tolerate ident
    if !(inside && first.isSome) && !(← nextIsSymbol "(") then
      afterKeyword "IN" (discard (tolerate ident))
  discard <| parenthesized do
    expectKeyword "TYPE"
    discard ident
    if ← symbol "," then
      discard <| list do
        discard ident
        discard ident

def createExtension : Parser Unit := do
  ifNotExists
  discard ident
  afterKeyword "WITH" do
    afterKeyword "SCHEMA" (discard ident)
    afterKeyword "VERSION" (discard ident)
    skipKeyword "CASCADE"

def createIndex (g : Grammar) : Parser Unit := do
  skipKeyword "CONCURRENTLY"
  let named ← if ← keywords ["IF", "NOT", "EXISTS"] then pure true
    else pure !(← keyword "ON")
  if named then
    name
    expectKeyword "ON"
  name
  afterKeyword "USING" (discard ident)
  discard (parenthesized (orderItems g))
  afterKeyword "INCLUDE" (discard (parenthesized idents))
  afterKeyword "NULLS" do
    skipKeyword "NOT"
    expectKeyword "DISTINCT"
  afterKeyword "WITH" (discard (exprGroup g))
  discard (optionalClause g "WHERE")

def createVirtualTable : Parser Unit := do
  expectKeyword "TABLE"
  ifNotExists
  name
  expectKeyword "USING"
  discard ident
  optionalColumns

def createSchema : Parser Unit := do
  ifNotExists
  if ← keyword "AUTHORIZATION" then discard ident
  else
    name
    afterKeyword "AUTHORIZATION" (discard ident)

def createDatabase : Parser Unit := do
  ifNotExists
  name
  discard <| many do
    match ← oneOf ["LOCATION", "MANAGEDLOCATION"] with
    | some _ => return some (← literalText)
    | none => return none

def createRole : Parser Unit := do
  ifNotExists
  names
  skipKeyword "WITH"

def createSequence (g : Grammar) : Parser Unit := do
  ifNotExists
  name
  afterKeyword "AS" (discard (dataType g))
  discard sequenceOptions
  afterKeywords ["OWNED", "BY"] do
    if ← keyword "NONE" then return ()
    name

def typeAttribute (g : Grammar) : Parser Unit := do
  discard ident
  discard (dataType g)
  afterKeyword "COLLATE" name

def createType (g : Grammar) : Parser Unit := do
  name
  expectKeyword "AS"
  if ← keyword "ENUM" then discard (parenthesized (listUntil ")" ident))
  else trailingList (typeAttribute g) "attribute"

def replaceable (g : Grammar) : List (List String × Parser Unit) :=
  [(["TABLE"], createTable g), (["POLICY"], createPolicy g),
    (["EXTERNAL"], createExternalTable g), (["FUNCTION"], createFunction g),
    (["TRIGGER"], createTrigger g), (["CONSTRAINT", "TRIGGER"], createTrigger g),
    (["MACRO"], createMacro g), (["SECRET"], createSecret)]

def creatable (g : Grammar) (statements : Parser Unit) : List (List String × Parser Unit) :=
  [(["EXTENSION"], createExtension), (["INDEX"], createIndex g),
    (["UNIQUE", "INDEX"], createIndex g), (["VIRTUAL"], createVirtualTable),
    (["SCHEMA"], createSchema), (["DATABASE"], createDatabase), (["ROLE"], createRole),
    (["SEQUENCE"], createSequence g), (["TYPE"], createType g),
    (["PROCEDURE"], createProcedure g statements)]

def createCommand (g : Grammar) (statements : Parser Unit) : Parser Unit := do
  let replaces ← keywords ["OR", "REPLACE"]
  skipKeywords ["OR", "ALTER"]
  skipKeyword "LOCAL"
  skipKeyword "GLOBAL"
  skipKeyword "TRANSIENT"
  skipOneOf ["TEMP", "TEMPORARY"]
  if ← nextIs fun t => t.isKeyword "MATERIALIZED" || t.isKeyword "VIEW" then createView g
  else
    firstClause (replaceable g) <|
      if replaces then
        expectedHere ("[EXTERNAL] TABLE or [MATERIALIZED] VIEW or FUNCTION after CREATE OR " ++
          "REPLACE")
      else firstClause (creatable g statements) (expectedHere "an object type after CREATE")

end JoinDiagram.Sql.Parser
