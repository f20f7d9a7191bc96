import JoinDiagram.Sql.Parser.Query

namespace JoinDiagram.Sql.Parser

def assignment (g : Grammar) : Parser Phrase := do
  let target ← nameOrNames dottedName dottedText
  expectSymbol "="
  return ⟨[.word target, .word "=", .expr (← g.expr)]⟩

def assignments (g : Grammar) : Parser Part := do return .items (← list (assignment g))

def returning (g : Grammar) : Parser (List Part) := do
  if ← keyword "RETURNING" then return [.word "RETURNING", .items (← list (selectItem g))]
  return []

def columnsPart (columns : List Ident) : List Part :=
  if columns.isEmpty then [] else wordPart s!"({identsText columns})"

def fileFormat : Parser String := do
  let t ← next
  match keywordOf t with
  | some k =>
    if ["AVRO", "JSONFILE", "ORC", "PARQUET", "RCFILE", "SEQUENCEFILE", "TEXTFILE"].contains k then
      return k
    expected "fileformat" t
  | none => expected "fileformat" t

/-- What happens to rows that are there already. The columns follow `CONFLICT` without a blank. -/
def onConflict (g : Grammar) : Parser (List Part) := do
  if ← keyword "ON" then
    if ← keyword "CONFLICT" then
      let target ← if ← keywords ["ON", "CONSTRAINT"] then
          pure (" ON CONSTRAINT " ++ dottedText (← dottedName))
        else
          let columns ← optionalColumnList
          pure (if columns.isEmpty then "" else s!"({identsText columns})")
      let head := Part.word ("ON CONFLICT" ++ target)
      expectKeyword "DO"
      if ← keyword "NOTHING" then return head :: wordPart "DO NOTHING"
      expectKeywords ["UPDATE", "SET"]
      let changes ← assignments g
      return [head, .word "DO UPDATE SET", changes] ++ (← optionalClause g "WHERE")
    else
      expectKeywords ["DUPLICATE", "KEY", "UPDATE"]
      return [.word "ON DUPLICATE KEY UPDATE", ← assignments g]
  else return []

def partitionClause (g : Grammar) : Parser (List Part) := do
  if ← keyword "PARTITION" then
    return [.word "PARTITION", .group ⟨[exprItems (← exprGroup g)]⟩]
  return []

def insertSource (g : Grammar) : Parser (List Part) := do
  if ← keywords ["DEFAULT", "VALUES"] then return wordPart "DEFAULT VALUES"
  let second ← peekAt 1
  let columns ← if (← nextIsSymbol "(") && second.any (·.isKeyword "SELECT") then pure []
    else pure (columnsPart (← optionalColumnList) ++ (← partitionClause g))
  return columns ++ [.query (← g.query)]

def insertDirectory (g : Grammar) (overwrite isLocal : List Part) : Parser Phrase := do
  let path ← literalText
  let format ← if ← keywords ["STORED", "AS"] then pure (wordPart ("STORED AS " ++ (← fileFormat)))
    else pure []
  return ⟨.word "INSERT" :: overwrite ++ isLocal ++ .word s!"DIRECTORY '{path}'" :: format ++
    [.query (← g.query)]⟩

def insertCommand (g : Grammar) : Parser Phrase := do
  let given (k : String) : Parser (List Part) := do
    return if ← keyword k then wordPart k else []
  let priority ← oneOf ["LOW_PRIORITY", "DELAYED", "HIGH_PRIORITY"]
  let ignored ← given "IGNORE"
  let overwrite ← given "OVERWRITE"
  let into ← given "INTO"
  let isLocal ← given "LOCAL"
  if ← keyword "DIRECTORY" then insertDirectory g overwrite isLocal
  else
    let table ← given "TABLE"
    let name ← dottedName
    let rows ← insertSource g
    let rowAlias ← if ← keyword "AS" then do
        let row ← dottedName
        pure (wordPart ("AS " ++ dottedText row) ++ columnsPart (← optionalColumnList))
      else pure []
    let conflict ← onConflict g
    return ⟨.word "INSERT" :: (priority.map wordPart).getD [] ++ ignored ++ overwrite ++ into ++ table ++
      .word (dottedText name) :: rows ++ rowAlias ++ conflict ++ (← returning g)⟩

def updateCommand (g : Grammar) : Parser Phrase := do
  let target ← source g
  expectKeyword "SET"
  let changes ← assignments g
  let others ← if ← keyword "FROM" then pure [.word "FROM", .source (← source g)] else pure []
  let selection ← optionalClause g "WHERE"
  return ⟨[.word "UPDATE", .source target, .word "SET", changes] ++ others ++ selection ++
    (← returning g)⟩

def deleteCommand (g : Grammar) : Parser Unit := do
  skipKeyword "FROM"
  discard (list (source g))
  afterKeyword "USING" (discard (list (source g)))
  discard (optionalClause g "WHERE")
  discard (returning g)
  afterKeywords ["ORDER", "BY"] (discard (orderItems g))
  discard (limitValue g)

inductive MergeRows where
  | matched
  | notMatched
  | notMatchedBySource
  | notMatchedByTarget

def MergeRows.name : MergeRows → String
  | matched => "MATCHED"
  | notMatched => "NOT MATCHED"
  | notMatchedBySource => "NOT MATCHED BY SOURCE"
  | notMatchedByTarget => "NOT MATCHED BY TARGET"

def MergeRows.missing : MergeRows → Bool
  | matched | notMatchedBySource => false
  | notMatched | notMatchedByTarget => true

def mergeRows : Parser MergeRows := do
  let negated ← keyword "NOT"
  expectKeyword "MATCHED"
  if !negated then return .matched
  firstClause
    [(["BY", "SOURCE"], return .notMatchedBySource), (["BY", "TARGET"], return .notMatchedByTarget)]
    (return .notMatched)

def mergeAction (g : Grammar) (rows : MergeRows) : Parser Unit := do
  let check (k : String) (allowed : Bool) : Parser Unit := do
    if !allowed then fail (.rejected s!"{k} is not allowed in a {rows.name} merge clause")
  match ← oneOf ["UPDATE", "INSERT", "DELETE"] with
  | some "UPDATE" =>
    check "UPDATE" !rows.missing
    expectKeyword "SET"
    discard (assignments g)
  | some "DELETE" => check "DELETE" !rows.missing
  | some _ =>
    check "INSERT" rows.missing
    discard optionalColumnList
    if ← keyword "ROW" then return ()
    expectKeyword "VALUES"
    discard (valuesRows g)
  | none => fail (.rejected "expected UPDATE, DELETE or INSERT in merge clause")

def mergeCommand (g : Grammar) : Parser Unit := do
  skipKeyword "INTO"
  discard (relation g)
  expectKeyword "USING"
  discard (relation g)
  expectKeyword "ON"
  discard g.expr
  discard <| many do
    match ← peek with
    | none => return none
    | some t =>
      if t.isSymbol ";" then return none
      expectKeyword "WHEN"
      let rows ← mergeRows
      discard (optionalClause g "AND")
      expectKeyword "THEN"
      return some (← mergeAction g rows)

end JoinDiagram.Sql.Parser
