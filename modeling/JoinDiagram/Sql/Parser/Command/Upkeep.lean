import JoinDiagram.Sql.Parser.Command.Basic

namespace JoinDiagram.Sql.Parser

def killCommand : Parser Unit := do
  skipOneOf ["CONNECTION", "QUERY", "MUTATION"]
  discard wholeNumber

/-- Tables to flush and how. The first token that is no word ends them and is lost. -/
def flushedTableLoop : Nat → Parser Unit
  | 0 => return ()
  | fuel + 1 => do
    let t ← peek
    match tokenOf t with
    | some (.word w quote) =>
      if (Token.word w quote).freeWord?.isSome then names
      else
        discard next
        if keywordOf t == some "WITH" then skipKeywords ["READ", "LOCK"]
        else if keywordOf t == some "FOR" then skipKeyword "EXPORT"
      flushedTableLoop fuel
    | _ => discard next

def flushCommand : Parser Unit := do
  skipOneOf ["NO_WRITE_TO_BINLOG", "LOCAL"]
  let simple (ks : List String) : List String × Parser Unit := (ks, return ())
  firstClause
    [simple ["BINARY", "LOGS"], simple ["ENGINE", "LOGS"], simple ["ERROR", "LOGS"],
      simple ["GENERAL", "LOGS"], simple ["HOSTS"], simple ["PRIVILEGES"],
      simple ["OPTIMIZER_COSTS"], (["RELAY", "LOGS"], afterKeywords ["FOR", "CHANNEL"] name),
      simple ["SLOW", "LOGS"], simple ["STATUS"], simple ["USER_RESOURCES"], simple ["LOGS"],
      (["TABLES"], do flushedTableLoop (← bound))]
    (expectedHere ("BINARY LOGS, ENGINE LOGS, ERROR LOGS, GENERAL LOGS, HOSTS, LOGS, PRIVILEGES, " ++
      "OPTIMIZER_COSTS,RELAY LOGS [FOR CHANNEL channel], SLOW LOGS, STATUS, USER_RESOURCES"))

def analyzeOption (g : Grammar) : Parser (Option Unit) := do
  match ← oneOf ["PARTITION", "FOR", "CACHE", "NOSCAN", "COMPUTE"] with
  | some "PARTITION" => return some (← partitionValues g)
  | some "FOR" =>
    expectKeyword "COLUMNS"
    return some (← discard (attempt (list ident)))
  | some "CACHE" => return some (← expectKeyword "METADATA")
  | some "COMPUTE" => return some (← expectKeyword "STATISTICS")
  | some _ => return some ()
  | none => return none

def analyzeCommand (g : Grammar) : Parser Unit := do
  expectKeyword "TABLE"
  name
  discard (many (analyzeOption g))

def truncateCommand (g : Grammar) : Parser Unit := do
  skipKeyword "TABLE"
  skipKeyword "ONLY"
  names
  afterKeyword "PARTITION" (partitionValues g)
  firstClause
    [(["RESTART", "IDENTITY"], return ()), (["CONTINUE", "IDENTITY"], return ())] (return ())
  dropBehavior
  onCluster

def attachCommand (g : Grammar) : Parser Unit := do
  skipKeyword "DATABASE"
  discard g.expr
  expectKeyword "AS"
  discard ident

def detachCommand : Parser Unit := do
  skipKeyword "DATABASE"
  ifExists
  discard ident

def repairCommand : Parser Unit := do
  skipKeyword "REPAIR"
  expectKeyword "TABLE"
  name
  discard <| attempt do
    skipOneOf ["ADD", "DROP", "SYNC"]
    expectKeyword "PARTITIONS"

def cachedQuery (g : Grammar) : Parser Unit := do
  match tokenOf (← peek) with
  | some (.word ..) =>
    skipKeyword "AS"
    discard g.query
  | _ => expectedHere "a QUERY statement"

def cachedTable (g : Grammar) : Parser Unit := do
  name
  options g "OPTIONS"
  if (← peek).isSome then cachedQuery g

def cacheCommand (g : Grammar) : Parser Unit := do
  if ← keyword "TABLE" then cachedTable g
  else
    let last := (← get).rest.getLast?
    name
    if ← keyword "TABLE" then cachedTable g
    else
      let t ← peek
      expected "a \x60TABLE\x60 keyword" (if t.isSome then t else last)

def uncacheCommand : Parser Unit := do
  expectKeyword "TABLE"
  ifExists
  name

def assertCommand (g : Grammar) : Parser Unit := do
  discard g.expr
  discard (optionalClause g "AS")

def unloadCommand (g : Grammar) : Parser Unit := do
  discard (parenthesized g.query)
  expectKeyword "TO"
  discard ident
  options g "WITH"

def optimizeCommand (g : Grammar) : Parser Unit := do
  expectKeyword "TABLE"
  name
  onCluster
  afterKeyword "PARTITION" do
    if ← keyword "ID" then discard ident
    else discard g.expr
  skipKeyword "FINAL"
  afterKeyword "DEDUPLICATE" (discard (optionalClause g "BY"))

end JoinDiagram.Sql.Parser
