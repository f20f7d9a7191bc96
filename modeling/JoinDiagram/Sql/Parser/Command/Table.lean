import JoinDiagram.Sql.Parser.Change
import JoinDiagram.Sql.Parser.Command.Basic

namespace JoinDiagram.Sql.Parser

def indexMethod : Parser Bool := do
  if ← keyword "USING" then
    match ← oneOf ["BTREE", "HASH"] with
    | some _ => return true
    | none => expectedHere "index type \x7bBTREE | HASH\x7d"
  return false

def indexOption : Parser (Option Unit) := do
  if ← indexMethod then return some ()
  if ← keyword "COMMENT" then
    discard literalText
    return some ()
  return none

def keyConstraint : Parser Unit := do
  discard (attempt ident)
  discard indexMethod
  discard columnList
  discard (many indexOption)
  discard characteristics

def foreignKey : Parser Unit := do
  expectKeyword "KEY"
  discard columnList
  expectKeyword "REFERENCES"
  name
  discard columnList
  discard referenceRules

def tableIndex : Parser Unit := do
  if !(← nextIsKeyword "USING") then discard (attempt ident)
  discard indexMethod
  discard columnList

def specialIndex (constraint : Option Ident) (t : Option Located) : Parser Unit := do
  match constraint with
  | some name =>
    expected "FULLTEXT or SPATIAL option without constraint name"
      (t.map fun located => { located with token := .word name.render none })
  | none =>
    skipOneOf ["KEY", "INDEX"]
    discard (attempt ident)
    discard columnList

def tableConstraint (g : Grammar) : Parser Bool := do
  let constraint ← if ← keyword "CONSTRAINT" then pure (some (← ident)) else pure none
  let t ← peek
  let one (inside : Parser Unit) : Parser Bool := do
    let _ ← next
    inside
    return true
  let none? : Parser Bool := do
    if constraint.isSome then
      let _ ← next
      expected "PRIMARY, UNIQUE, FOREIGN, or CHECK" t
    return false
  match keywordOf t with
  | some "UNIQUE" => one do
    skipOneOf ["KEY", "INDEX"]
    keyConstraint
  | some "PRIMARY" => one do
    expectKeyword "KEY"
    keyConstraint
  | some "FOREIGN" => one foreignKey
  | some "CHECK" => one (condition g)
  | some "INDEX" | some "KEY" => if constraint.isNone then one tableIndex else none?
  | some "FULLTEXT" | some "SPATIAL" => one (specialIndex constraint t)
  | _ => none?

def tableElement (g : Grammar) : Parser Unit := do
  if ← tableConstraint g then return ()
  match tokenOf (← peek) with
  | some (.word ..) => discard (column g)
  | _ => expectedHere "column name or constraint definition"

def tableElementLoop (g : Grammar) : Nat → Parser Unit
  | 0 => return ()
  | fuel + 1 => do
    tableElement g
    if ← symbol "," then tableElementLoop g fuel
    else if ← symbol ")" then return ()
    else expectedHere "',' or ')' after column definition"

def tableElements (g : Grammar) : Parser Unit := do
  if ← symbol "(" then
    if ← symbol ")" then return ()
    tableElementLoop g (← bound)

def rowDelimiter : Parser (Option Unit) := do
  let mark (rest : List String) : Parser (Option Unit) := do
    if ← keywords rest then
      discard ident
      return some ()
    return none
  match ← oneOf ["FIELDS", "COLLECTION", "MAP", "LINES", "NULL"] with
  | some "FIELDS" =>
    let found ← mark ["TERMINATED", "BY"]
    if found.isSome then afterKeywords ["ESCAPED", "BY"] (discard ident)
    return found
  | some "COLLECTION" => mark ["ITEMS", "TERMINATED", "BY"]
  | some "MAP" => mark ["KEYS", "TERMINATED", "BY"]
  | some "LINES" => mark ["TERMINATED", "BY"]
  | some _ => mark ["DEFINED", "AS"]
  | none => return none

def rowFormat : Parser Unit := do
  expectKeyword "FORMAT"
  if ← keyword "SERDE" then discard literalText
  else
    skipKeyword "DELIMITED"
    discard (many rowDelimiter)

def storageFormat (g : Grammar) : Parser Unit := do
  expectKeyword "AS"
  if ← keyword "INPUTFORMAT" then
    discard g.expr
    expectKeyword "OUTPUTFORMAT"
    discard g.expr
  else discard fileFormat

def fileClause (g : Grammar) : Parser (Option Unit) := do
  match ← oneOf ["ROW", "STORED", "LOCATION"] with
  | some "ROW" => return some (← rowFormat)
  | some "STORED" => return some (← storageFormat g)
  | some _ => return some (← discard literalText)
  | none =>
    if (← someOptionsAfter g ["WITH", "SERDEPROPERTIES"]).isEmpty then return none
    return some ()

def fileClauses (g : Grammar) : Parser Unit := discard (many (fileClause g))

def partitionedBy (g : Grammar) : Parser Unit :=
  afterKeywords ["PARTITIONED", "BY"] (discard (parenthesized (list (column g))))

def clusteredBy (g : Grammar) : Parser Unit :=
  afterKeywords ["CLUSTERED", "BY"] do
    discard columnList
    afterKeywords ["SORTED", "BY"] (discard (parenthesized (orderItems g)))
    expectKeyword "INTO"
    discard numberLiteral
    expectKeyword "BUCKETS"

def wordSetting (ks : List String) (after : Parser Unit) : Parser Unit :=
  afterKeywords ks do
    expectSymbol "="
    let t ← next
    match tokenOf t with
    | some (.word ..) => after
    | _ => expected "identifier" t

def tableOrder (g : Grammar) : Parser Unit := do
  if ← symbol "(" then
    discard (listUntil ")" g.expr)
    expectSymbol ")"
  else discard g.expr

def commitRule : Parser Unit :=
  let rule (rest : List String) : List String × Parser Unit := ("ON" :: "COMMIT" :: rest, return ())
  firstClause [rule ["DELETE", "ROWS"], rule ["PRESERVE", "ROWS"], rule ["DROP"]] (return ())

def plainText (what : String) : Parser Unit := do
  let t ← next
  match tokenOf t with
  | some (.text .plain _) => return ()
  | _ => expected what t

def tableClauses (g : Grammar) : Parser Unit := do
  skipKeywords ["WITHOUT", "ROWID"]
  partitionedBy g
  clusteredBy g
  fileClauses g
  options g "WITH"
  options g "TBLPROPERTIES"
  wordSetting ["ENGINE"] do
    if ← nextIsSymbol "(" then discard (parenthesized (list ident))
  afterKeyword "AUTO_INCREMENT" do
    discard (symbol "=")
    discard (boundedNumber 32)
  afterKeywords ["PRIMARY", "KEY"] (discard g.expr)
  afterKeywords ["ORDER", "BY"] (tableOrder g)
  afterKeywords ["PARTITION", "BY"] (discard g.expr)
  afterKeywords ["CLUSTER", "BY"] idents
  options g "OPTIONS"
  wordSetting ["DEFAULT", "CHARSET"] (return ())
  wordSetting ["COLLATE"] (return ())
  commitRule
  skipKeyword "STRICT"
  afterKeyword "COMMENT" do
    discard (symbol "=")
    plainText "comment"
  afterKeyword "AS" (discard g.query)

def createTable (g : Grammar) : Parser Unit := do
  ifNotExists
  name
  onCluster
  let like ← oneOf ["LIKE", "ILIKE"]
  if like.isSome then discard (tolerate dottedName)
  afterKeyword "CLONE" (discard (tolerate dottedName))
  tableElements g
  tableClauses g

def createExternalTable (g : Grammar) : Parser Unit := do
  expectKeyword "TABLE"
  ifNotExists
  name
  tableElements g
  partitionedBy g
  fileClauses g
  options g "TBLPROPERTIES"

end JoinDiagram.Sql.Parser
