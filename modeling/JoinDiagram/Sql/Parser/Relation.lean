import JoinDiagram.Sql.Parser.JsonTable
import JoinDiagram.Sql.Parser.RowPattern

namespace JoinDiagram.Sql.Parser

def settings : Parser (List Part) := do
  if ← keyword "SETTINGS" then
    let entries ← list do
      let name ← ident
      expectSymbol "="
      return ⟨[.word name.render, .word "=", .expr (.literal (← literal))]⟩
    return [.word "SETTINGS", .items entries]
  return []

def tableArgumentLoop (g : Grammar) : Nat → List Phrase → Parser (List Phrase)
  | 0, read => return read.reverse
  | fuel + 1, read => do
    let set ← settings
    if !set.isEmpty then return (⟨set⟩ :: read).reverse
    let a ← functionArgument g
    if ← symbol "," then tableArgumentLoop g fuel (a :: read)
    else return (a :: read).reverse

def tableArguments (g : Grammar) : Parser Phrase := do
  if ← symbol ")" then return ⟨[]⟩
  let arguments ← tableArgumentLoop g (← bound) []
  expectSymbol ")"
  return ⟨[.items arguments]⟩

def derivedRelation (g : Grammar) (isLateral : Bool) : Parser Relation := do
  let query ← g.query
  expectSymbol ")"
  return .derived isLateral query (← optionalAlias)

def lateralRelation (g : Grammar) : Parser Relation := do
  if ← symbol "(" then derivedRelation g true
  else
    let name ← dottedName
    expectSymbol "("
    let arguments ← if ← symbol ")" then pure ⟨[]⟩
      else do
        let read ← list (functionArgument g)
        expectSymbol ")"
        pure ⟨[.items read]⟩
    return .function name arguments (← optionalAlias)

def valuesRows (g : Grammar) : Parser Body := do
  let rows ← list do
    let explicit ← keyword "ROW"
    let items ← parenthesized (list g.expr)
    return (explicit, (⟨[exprItems items]⟩ : Phrase))
  return .values (if rows.any (·.1) then "ROW" else "") (rows.map (·.2))

def unnestRelation (g : Grammar) : Parser Relation := do
  let arrays ← parenthesized (list g.expr)
  let ordinality ← keywords ["WITH", "ORDINALITY"]
  let alias? ← optionalAlias
  let offset ← if ← keyword "WITH" then keyword "OFFSET" else pure false
  if offset then
    return .unnest arrays ordinality alias? (some (← optionalName reservedForColumnAlias))
  return .unnest arrays ordinality alias? none

def tableRelation (g : Grammar) : Parser Relation := do
  let name ← dottedName
  let partitions ← if ← keyword "PARTITION" then parenthesized (list ident) else pure []
  let arguments ← if ← symbol "(" then pure (some (← tableArguments g)) else pure none
  let ordinality ← keywords ["WITH", "ORDINALITY"]
  let alias? ← optionalAlias
  let second ← peekAt 1
  let hints ← if (← nextIsKeyword "WITH") && second.any (·.isSymbol "(") then do
      let _ ← next
      parenthesized (list g.expr)
    else pure []
  return .table name ⟨partitions, arguments, ordinality, hints⟩ alias?

def nameAfterAs : Parser (List Part) := do
  if ← keyword "AS" then return [.word "AS", .word (← ident).render]
  return []

def pivotAggregate (g : Grammar) : Parser Phrase := do
  match tokenOf (← next) with
  | some (.word w _) =>
    let call ← functionCall g (operand g) [⟨w, none⟩]
    return ⟨.expr call :: (← nameAfterAs)⟩
  | _ => expectedHere "a function identifier"

def pivotValues (g : Grammar) : Parser Phrase := do
  if ← keyword "ANY" then
    let order ← if ← keywords ["ORDER", "BY"] then orderItems g else pure []
    return ⟨.word "ANY" :: order⟩
  if ← nextIs fun t => t.isKeyword "SELECT" || t.isKeyword "WITH" then return ⟨[.query (← g.query)]⟩
  return ⟨[.items (← list do
    let e ← g.expr
    return ⟨.expr e :: (← nameAfterAs)⟩)]⟩

def pivotForm (g : Grammar) : Parser Phrase := do
  let aggregates ← list (pivotAggregate g)
  expectKeyword "FOR"
  let column ← dottedName
  expectKeyword "IN"
  let values ← parenthesized (pivotValues g)
  let fallback ← if ← keywords ["DEFAULT", "ON", "NULL"] then do
      let e ← parenthesized g.expr
      pure [.word "DEFAULT ON NULL", .group ⟨[.expr e]⟩]
    else pure []
  return ⟨[.items aggregates, .word "FOR", .word (dottedText column), .word "IN", .group values] ++
    fallback⟩

def unpivotForm : Parser Phrase := do
  let value ← ident
  expectKeyword "FOR"
  let name ← ident
  expectKeyword "IN"
  let columns ← columnList
  return ⟨[.word s!"{value.render} FOR {name.render} IN ({identsText columns})"]⟩

def pivotLoop (g : Grammar) : Nat → Relation → Parser Relation
  | 0, relation => return relation
  | fuel + 1, relation => do
    match ← oneOf ["PIVOT", "UNPIVOT"] with
    | some head =>
      let form ← parenthesized (if head == "PIVOT" then pivotForm g else unpivotForm)
      pivotLoop g fuel (.reshaped relation head form (← optionalAlias))
    | none => return relation

def pivots (g : Grammar) (relation : Relation) : Parser Relation := do
  pivotLoop g (← bound) relation

def namedRelation (g : Grammar) : Parser Relation := do
  let relation ← pivots g (← tableRelation g)
  if ← keyword "MATCH_RECOGNIZE" then
    let form ← parenthesized (matchForm g)
    return .reshaped relation "MATCH_RECOGNIZE" form (← optionalAlias)
  return relation

/-- What parentheses hold that do not hold a query: joins, which keep them, or one relation, which
    does not and whose alias may then come after them. -/
def nestedRelation (inner : Parser Source) : Parser Relation := do
  let source ← inner
  expectSymbol ")"
  let alias? ← optionalAlias
  match source.joins, source.relation with
  | [], .nested .. => return .nested source alias?
  | [], relation =>
    match alias?, relation.alias? with
    | none, _ => return relation
    | some a, none => return relation.withAlias a
    | some _, some a => fail (.rejected s!"duplicate alias {a.render}")
  | _, _ => return .nested source alias?

def constraint (g : Grammar) (natural : Bool) : Parser JoinConstraint := do
  if natural then return .natural
  if ← keyword "ON" then return .condition (← g.expr)
  if ← keyword "USING" then return .columns (← columnList)
  return .none

def sidedJoin (side : String) (outer semi anti : JoinConstraint → JoinOperator) :
    Parser (JoinConstraint → JoinOperator) := do
  match ← oneOf ["OUTER", "SEMI", "ANTI", "JOIN"] with
  | some "JOIN" => return outer
  | some "OUTER" =>
    expectKeyword "JOIN"
    return outer
  | some "SEMI" =>
    expectKeyword "JOIN"
    return semi
  | some _ =>
    expectKeyword "JOIN"
    return anti
  | none => fail (.rejected s!"expected OUTER, SEMI, ANTI or JOIN after {side}")

def constrainedJoin (natural : Bool) : Parser (Option (JoinConstraint → JoinOperator)) := do
  match keywordOf (← peek) with
  | some "INNER" =>
    let _ ← next
    expectKeyword "JOIN"
    return some .inner
  | some "JOIN" =>
    let _ ← next
    return some .inner
  | some "LEFT" =>
    let _ ← next
    return some (← sidedJoin "LEFT" .leftOuter .leftSemi .leftAnti)
  | some "RIGHT" =>
    let _ ← next
    return some (← sidedJoin "RIGHT" .rightOuter .rightSemi .rightAnti)
  | some "FULL" =>
    let _ ← next
    let _ ← keyword "OUTER"
    expectKeyword "JOIN"
    return some .fullOuter
  | some "OUTER" => expectedHere "LEFT, RIGHT, or FULL"
  | _ =>
    if natural then expectedHere "a join type after NATURAL"
    else return none

/-- The next join of a source, if there is one. A word `GLOBAL` is read even when no join follows. -/
def join? (g : Grammar) (relation : Parser Relation) : Parser (Option Join) := do
  let isGlobal ← keyword "GLOBAL"
  if ← keyword "CROSS" then
    if ← keyword "JOIN" then return some ⟨isGlobal, .cross, ← relation⟩
    if ← keyword "APPLY" then return some ⟨isGlobal, .crossApply, ← relation⟩
    expectedHere "JOIN or APPLY after CROSS"
  else if ← keyword "OUTER" then
    expectKeyword "APPLY"
    return some ⟨isGlobal, .outerApply, ← relation⟩
  else if ← keyword "ASOF" then
    expectKeyword "JOIN"
    let joined ← relation
    expectKeyword "MATCH_CONDITION"
    let matching ← parenthesized g.expr
    return some ⟨isGlobal, .asOf matching (← constraint g false), joined⟩
  else
    let natural ← keyword "NATURAL"
    match ← constrainedJoin natural with
    | some operator =>
      let joined ← relation
      return some ⟨isGlobal, operator (← constraint g natural), joined⟩
    | none => return none

def sourceOf (g : Grammar) (relation : Parser Relation) : Parser Source := do
  let first ← relation
  return ⟨first, ← many (join? g relation)⟩

def relationLoop (g : Grammar) : Nat → Parser Relation
  | 0 => fail .tooDeep
  | fuel + 1 => do
    if ← keyword "LATERAL" then lateralRelation g
    else if ← keyword "TABLE" then
      let e ← parenthesized g.expr
      return .keywordCall "TABLE" ⟨[.expr e]⟩ (← optionalAlias)
    else if ← symbol "(" then
      match ← attempt (derivedRelation g false) with
      | some r => pivots g r
      | none => nestedRelation (sourceOf g (relationLoop g fuel))
    else
      let second ← peekAt 1
      let call (k : String) : Parser Bool := do
        if second.any (·.isSymbol "(") then keyword k else return false
      if ← call "VALUES" then
        let body ← valuesRows g
        return .derived false ⟨none, body, ⟨[]⟩⟩ (← optionalAlias)
      else if ← keyword "UNNEST" then unnestRelation g
      else if ← call "JSON_TABLE" then jsonTable g
      else namedRelation g

def relation (g : Grammar) : Parser Relation := do relationLoop g (← bound)

def source (g : Grammar) : Parser Source := sourceOf g (relation g)

end JoinDiagram.Sql.Parser
