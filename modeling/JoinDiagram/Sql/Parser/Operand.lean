import JoinDiagram.Sql.Parser.DataType

namespace JoinDiagram.Sql.Parser

def mulStrength : Nat := 40
def addStrength : Nat := 30
def betweenStrength : Nat := 20
def likeStrength : Nat := 19
def notStrength : Nat := 15

def starPathLoop : Nat → List Ident → Parser (Option Expr)
  | 0, _ => return none
  | fuel + 1, read => do
    if ← symbol "." then
      let t ← next
      match tokenOf t with
      | some (.word w quote) => starPathLoop fuel (⟨w, quote⟩ :: read)
      | some (.text .plain body) => starPathLoop fuel (⟨body, some '\''⟩ :: read)
      | some (.symbol "*") => return some (.wildcard read.reverse)
      | _ => expected "an identifier or a '*' after '.'" t
    else return none

def wildcardOrExpr (g : Grammar) : Parser Expr := do
  let start ← get
  let t ← next
  let found ← match tokenOf t with
    | some (.word w quote) => starPathLoop (← bound) [⟨w, quote⟩]
    | some (.text .plain body) => starPathLoop (← bound) [⟨body, some '\''⟩]
    | some (.symbol "*") => pure (some (.wildcard []))
    | _ => pure none
  match found with
  | some e => return e
  | none =>
    set start
    g.expr

def nullsOrder : Parser (List Part) := do
  if ← keywords ["NULLS", "FIRST"] then return wordPart "NULLS FIRST"
  if ← keywords ["NULLS", "LAST"] then return wordPart "NULLS LAST"
  return []

def orderItem (g : Grammar) : Parser Phrase := do
  let e ← g.expr
  let direction ← orderDirection
  let nulls ← nullsOrder
  let fill ← if ← keywords ["WITH", "FILL"] then do
      pure (wordPart "WITH FILL" ++ (← optionalClause g "FROM") ++ (← optionalClause g "TO") ++
        (← optionalClause g "STEP"))
    else pure []
  return ⟨.expr e :: direction ++ nulls ++ fill⟩

def orderItems (g : Grammar) : Parser (List Part) := do
  return [.word "ORDER BY", .items (← list (orderItem g))]

def intervalUnits : List String :=
  ["YEAR", "MONTH", "WEEK", "DAY", "HOUR", "MINUTE", "SECOND", "CENTURY", "DECADE", "DOW",
    "DOY", "EPOCH", "ISODOW", "ISOYEAR", "JULIAN", "MICROSECOND", "MICROSECONDS", "MILLENIUM",
    "MILLENNIUM", "MILLISECOND", "MILLISECONDS", "NANOSECOND", "NANOSECONDS", "QUARTER", "TIMEZONE",
    "TIMEZONE_HOUR", "TIMEZONE_MINUTE"]

def timeUnits : List String :=
  intervalUnits ++ ["DATE", "DAYOFWEEK", "DAYOFYEAR", "DATETIME", "ISOWEEK", "TIME", "TIMEZONE_ABBR",
    "TIMEZONE_REGION"]

def timeUnit : Parser String := do
  let t ← peek
  match tokenOf t with
  | some (.word ..) =>
    match keywordOf t with
    | some "WEEK" =>
      let _ ← next
      if ← symbol "(" then
        let day ← ident
        expectSymbol ")"
        return s!"WEEK({day.render})"
      return "WEEK"
    | some k =>
      if timeUnits.contains k then
        let _ ← next
        return k
      return (← ident).render
    | none => return (← ident).render
  | some (.text .plain _) => return (← ident).render
  | _ =>
    let _ ← next
    expected "date/time field" t

def sizeSuffix (sizes : List String) : String :=
  if sizes.isEmpty then "" else s!" ({commaSeparated sizes})"

def intervalQualifier : Parser String := do
  let unit ← if ← nextIs fun t => t.keyword.any intervalUnits.contains then pure (some (← timeUnit))
    else pure none
  if unit == some "SECOND" then
    let sizes ← optionalPrecisionScale
    return " SECOND" ++ sizeSuffix sizes
  let size ← optionalSize
  let leading := (unit.map (" " ++ ·)).getD "" ++ sizeSuffix size
  if ← keyword "TO" then
    let last ← timeUnit
    let fraction ← if last == "SECOND" then optionalSize else pure []
    return leading ++ " TO " ++ last ++ sizeSuffix fraction
  return leading

def interval (operand : Parser Expr) : Parser Expr := do
  let value ← operand
  return .interval value (← intervalQualifier)

def frameBound (g : Grammar) (operand : Parser Expr) : Parser (List Part) := do
  if ← keywords ["CURRENT", "ROW"] then return wordPart "CURRENT ROW"
  let distance ← if ← keyword "UNBOUNDED" then pure (wordPart "UNBOUNDED")
    else match tokenOf (← peek) with
    | some (.text .plain _) => pure [.expr (← interval operand)]
    | _ => pure [.expr (← g.expr)]
  if ← keyword "PRECEDING" then return distance ++ wordPart "PRECEDING"
  if ← keyword "FOLLOWING" then return distance ++ wordPart "FOLLOWING"
  expectedHere "PRECEDING or FOLLOWING"

def windowFrame (g : Grammar) (operand : Parser Expr) : Parser (List Part) := do
  let t ← next
  match keywordOf t with
  | some k =>
    if ["ROWS", "RANGE", "GROUPS"].contains k then
      if ← keyword "BETWEEN" then
        let first ← frameBound g operand
        expectKeyword "AND"
        let last ← frameBound g operand
        return .word (k ++ " BETWEEN") :: first ++ .word "AND" :: last
      return .word k :: (← frameBound g operand)
    expected "ROWS, RANGE, GROUPS" t
  | none => expected "ROWS, RANGE, GROUPS" t

def windowSpec (g : Grammar) (operand : Parser Expr) : Parser Phrase := do
  let base ← match (tokenOf (← peek)).bind Token.freeWord? with
    | some _ => pure (wordPart (← ident).render)
    | none => pure []
  let partitions ← if ← keywords ["PARTITION", "BY"] then
      pure [.word "PARTITION BY", exprItems (← list g.expr)]
    else pure []
  let order ← if ← keywords ["ORDER", "BY"] then orderItems g else pure []
  let frame ← if ← symbol ")" then pure []
    else do
      let parts ← windowFrame g operand
      expectSymbol ")"
      pure parts
  return ⟨base ++ partitions ++ order ++ frame⟩

def functionArgument (g : Grammar) : Parser Phrase := do
  let second ← peekAt 1
  if second.any (·.isSymbol "=>") then
    let name ← ident
    expectSymbol "=>"
    return ⟨[.word name.render, .word "=>", .expr (← wildcardOrExpr g)]⟩
  if second.any (·.isSymbol ":=") then
    let name ← ident
    expectSymbol ":="
    return ⟨[.word name.render, .word ":=", .expr (← g.expr)]⟩
  return ⟨[.expr (← wildcardOrExpr g)]⟩

def nullTreatment : Parser (List Part) := do
  match ← oneOf ["RESPECT", "IGNORE"] with
  | some k =>
    expectKeyword "NULLS"
    return wordPart (k ++ " NULLS")
  | none => return []

def allOrDistinct : Parser (Option String) := do
  let t ← peek
  let all ← keyword "ALL"
  let distinct ← keyword "DISTINCT"
  if all && distinct then fail (.misplaced "Cannot specify both ALL and DISTINCT" t)
  if all then return some "ALL"
  if distinct then return some "DISTINCT"
  return none

def overflowClause (g : Grammar) : Parser (List Part) := do
  if ← keywords ["ON", "OVERFLOW"] then
    if ← keyword "ERROR" then return wordPart "ON OVERFLOW ERROR"
    expectKeyword "TRUNCATE"
    let t ← peek
    let filler ← match tokenOf t with
      | some (.text .plain _) | some (.text .escaped _) | some (.text .unicode _)
      | some (.text .national _) | some (.text .hex _) => pure [.expr (← g.expr)]
      | _ =>
        if t.any fun w => w.isKeyword "WITH" || w.isKeyword "WITHOUT" then pure []
        else expected "either filler, WITH, or WITHOUT in LISTAGG" t
    let counted ← keyword "WITH"
    if !counted then
      if !(← keyword "WITHOUT") then expectedHere "either WITH or WITHOUT in LISTAGG"
    expectKeyword "COUNT"
    return .word "ON OVERFLOW TRUNCATE" :: filler ++
      wordPart (if counted then "WITH COUNT" else "WITHOUT COUNT")
  return []

def argumentList (g : Grammar) : Parser (Phrase × Bool) := do
  if ← symbol ")" then return (⟨[]⟩, false)
  let quantifier ← allOrDistinct
  let arguments ← list (functionArgument g)
  let nulls ← nullTreatment
  let order ← if ← keywords ["ORDER", "BY"] then orderItems g else pure []
  let limit ← optionalClause g "LIMIT"
  let having ← if ← keyword "HAVING" then do
      let k ← expectOneOf ["MIN", "MAX"]
      pure [.word ("HAVING " ++ k), .expr (← g.expr)]
    else pure []
  let separator ← if ← keyword "SEPARATOR" then
      pure [.word "SEPARATOR", .expr (.literal (← literal))]
    else pure []
  let overflow ← overflowClause g
  expectSymbol ")"
  let head := match quantifier with
    | some q => wordPart q
    | none => []
  return (⟨head ++ .items arguments :: nulls ++ order ++ limit ++ having ++ separator ++ overflow⟩,
    !nulls.isEmpty)

def overClause (g : Grammar) (operand : Parser Expr) : Parser (List Part) := do
  if ← keyword "OVER" then
    if ← symbol "(" then return [.word "OVER", .group (← windowSpec g operand)]
    return [.word "OVER", .word (← ident).render]
  return []

def functionCall (g : Grammar) (operand : Parser Expr) (name : DottedName) : Parser Expr := do
  expectSymbol "("
  let first ← argumentList g
  let (lists, treated) ← if ← symbol "(" then do
      let (second, treated) ← argumentList g
      pure ([first.1, second], treated)
    else pure ([first.1], first.2)
  let within ← if ← keywords ["WITHIN", "GROUP"] then do
      expectSymbol "("
      expectKeywords ["ORDER", "BY"]
      let order ← orderItems g
      expectSymbol ")"
      pure [.word "WITHIN GROUP", .group ⟨order⟩]
    else pure []
  let nulls ← if treated then pure [] else nullTreatment
  let window ← overClause g operand
  return .call name lists ⟨within ++ nulls ++ window⟩

end JoinDiagram.Sql.Parser
