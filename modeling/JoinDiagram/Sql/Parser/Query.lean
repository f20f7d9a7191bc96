import JoinDiagram.Sql.Parser.Relation

namespace JoinDiagram.Sql.Parser

def topClause (g : Grammar) : Parser (List Part) := do
  if ← keyword "TOP" then
    let quantity ← if ← symbol "(" then do
        let e ← g.expr
        expectSymbol ")"
        pure (.group ⟨[.expr e]⟩)
      else pure (.word (toString (← wholeNumber)))
    let percent ← keyword "PERCENT"
    let ties ← keywords ["WITH", "TIES"]
    return [.word "TOP", quantity] ++ (if percent then wordPart "PERCENT" else []) ++
      (if ties then wordPart "WITH TIES" else [])
  return []

def distinctClause (g : Grammar) : Parser (List Part) := do
  match ← allOrDistinct with
  | some "DISTINCT" =>
    if ← keyword "ON" then
      expectSymbol "("
      let columns ← listUntil ")" g.expr
      expectSymbol ")"
      return [.word "DISTINCT ON", .group ⟨[exprItems columns]⟩]
    return wordPart "DISTINCT"
  | _ => return []

def nameOrNames {α : Type} (item : Parser α) (write : α → String) : Parser String := do
  if ← symbol "(" then
    let names ← list item
    expectSymbol ")"
    return s!"({commaSeparated (names.map write)})"
  return write (← item)

def renamedColumn : Parser String := do
  let column ← ident
  expectKeyword "AS"
  return s!"{column.render} AS {(← ident).render}"

def starOptions (g : Grammar) : Parser (List Part) := do
  let ilike ← if ← keyword "ILIKE" then do
      let t ← next
      match tokenOf t with
      | some (.text .plain body) => pure (wordPart ("ILIKE " ++ quoted '\'' body))
      | _ => expected "ilike pattern" t
    else pure []
  let excludes ← if ilike.isEmpty then keyword "EXCLUDE" else pure false
  let exclude ← if excludes then
      pure (wordPart ("EXCLUDE " ++ (← nameOrNames ident Ident.render)))
    else pure []
  let except ← if ← keyword "EXCEPT" then do
      let names ← if ← nextIsSymbol "(" then columnList else pure [← ident]
      pure (wordPart s!"EXCEPT ({identsText names})")
    else pure []
  let replace ← if ← keyword "REPLACE" then do
      if ← symbol "(" then
        let items ← list do
          let e ← g.expr
          let named ← keyword "AS"
          let name ← ident
          return (⟨.expr e :: (if named then wordPart "AS" else []) ++ wordPart name.render⟩ : Phrase)
        expectSymbol ")"
        pure [.word "REPLACE", .group ⟨[.items items]⟩]
      else expected "( after REPLACE but" (← next)
    else pure []
  let rename ← if ← keyword "RENAME" then
      pure (wordPart ("RENAME " ++ (← nameOrNames renamedColumn id)))
    else pure []
  return ilike ++ exclude ++ except ++ replace ++ rename

def isFromWord : Expr → Bool
  | .name [⟨w, none⟩] => w.toList.map Text.asciiLower == "from".toList
  | _ => false

def selectItem (g : Grammar) : Parser Phrase := do
  let e ← wildcardOrExpr g
  match e with
  | .wildcard path => return ⟨.expr (.wildcard path) :: (← starOptions g)⟩
  | e =>
    if isFromWord e then
      fail (.misplaced s!"Expected an expression, found: {e.render}" (← peek))
    match ← optionalName reservedForColumnAlias with
    | some name => return ⟨[.expr e, .word ("AS " ++ name.render)]⟩
    | none => return ⟨[.expr e]⟩

def intoClause : Parser (List Part) := do
  if ← keyword "INTO" then
    let temporary ← oneOf ["TEMP", "TEMPORARY"]
    let unlogged ← keyword "UNLOGGED"
    let table ← keyword "TABLE"
    let name ← dottedName
    return .word "INTO" :: (if temporary.isSome then wordPart "TEMPORARY" else []) ++
      (if unlogged then wordPart "UNLOGGED" else []) ++ (if table then wordPart "TABLE" else []) ++
      wordPart (dottedText name)
  return []

def listClause (g : Grammar) (ks : List String) : Parser (List Part) := do
  if ← keywords ks then
    return [.word (" ".intercalate ks), exprItems (← list g.expr)]
  return []

def lateralView (g : Grammar) : Parser (Option (List Part)) := do
  if ← keywords ["LATERAL", "VIEW"] then
    let outer ← keyword "OUTER"
    let e ← g.expr
    let name ← dottedName
    let columns ← list (optionalName ["WHERE", "GROUP", "CLUSTER", "HAVING", "LATERAL"])
    let named := columns.filterMap id
    return some (.word (if outer then "LATERAL VIEW OUTER" else "LATERAL VIEW") :: .expr e ::
      .word (dottedText name) :: if named.isEmpty then [] else wordPart ("AS " ++ identsText named))
  return none

def columnGroup (g : Grammar) (lone : Bool) : Parser (List Expr) := do
  if lone && !(← nextIsSymbol "(") then return [← g.expr]
  expectSymbol "("
  let items ← listUntil ")" g.expr
  expectSymbol ")"
  return items

def groupText (lone : Bool) (items : List Expr) : Phrase :=
  match lone, items with
  | true, [single] => ⟨[.expr single]⟩
  | _, _ => ⟨[.group ⟨[exprItems items]⟩]⟩

def groupingItem (g : Grammar) : Parser Phrase := do
  let grouped (head : String) (lone : Bool) : Parser Phrase := do
    let groups ← parenthesized (list (columnGroup g lone))
    return ⟨[.word head, .group ⟨[.items (groups.map (groupText lone))]⟩]⟩
  if ← keywords ["GROUPING", "SETS"] then grouped "GROUPING SETS" false
  else if ← keyword "CUBE" then grouped "CUBE" true
  else if ← keyword "ROLLUP" then grouped "ROLLUP" true
  else
    let second ← peekAt 1
    if (← nextIsSymbol "(") && second.any (·.isSymbol ")") then
      let _ ← next
      let _ ← next
      return ⟨[.expr (.tuple [])]⟩
    return ⟨[.expr (← g.expr)]⟩

def groupByClause (g : Grammar) : Parser (List Part) := do
  if ← keywords ["GROUP", "BY"] then
    let items ← if ← keyword "ALL" then pure [.word "GROUP BY ALL"]
      else pure [.word "GROUP BY", .items (← list (groupingItem g))]
    let modifiers ← many do
      if ← keyword "WITH" then
        return some (Part.word ("WITH " ++ (← expectOneOf ["ROLLUP", "CUBE", "TOTALS"])))
      return none
    return items ++ modifiers
  return []

def namedWindow (g : Grammar) : Parser Phrase := do
  let name ← ident
  expectKeyword "AS"
  if ← symbol "(" then
    return ⟨[.word name.render, .word "AS", .group (← windowSpec g (operand g))]⟩
  return ⟨[.word name.render, .word "AS", .word (← ident).render]⟩

def windowClause (g : Grammar) : Parser (List Part) := do
  if ← keyword "WINDOW" then return [.word "WINDOW", .items (← list (namedWindow g))]
  return []

def windowClauses (g : Grammar) : Parser (List Part) := do
  let first ← windowClause g
  let qualify ← optionalClause g "QUALIFY"
  if first.isEmpty && !qualify.isEmpty then return qualify ++ (← windowClause g)
  return first ++ qualify

def withPrior {α : Type} (p : Parser α) : Parser α := fun s =>
  match p { s with priorAllowed := true } with
  | .ok a after => .ok a { after with priorAllowed := s.priorAllowed }
  | .error e after => .error e { after with priorAllowed := s.priorAllowed }

def connectClause (g : Grammar) : Parser (List Part) := do
  let relationships : Parser Part := do return exprItems (← withPrior (list g.expr))
  let write (condition : Expr) (related : Part) : List Part :=
    [.word "START WITH", .expr condition, .word "CONNECT BY", related]
  if ← keywords ["CONNECT", "BY"] then
    let related ← relationships
    expectKeywords ["START", "WITH"]
    return write (← g.expr) related
  if ← nextIs fun t => t.isKeyword "START" || t.isKeyword "CONNECT" then
    expectKeywords ["START", "WITH"]
    let condition ← g.expr
    expectKeywords ["CONNECT", "BY"]
    return write condition (← relationships)
  return []

def selectBody (g : Grammar) : Parser Select := do
  let distinct ← distinctClause g
  let top ← topClause g
  let projection ← list (selectItem g)
  let target ← intoClause
  let sources ← if ← keyword "FROM" then list (source g) else pure []
  let views ← many (lateralView g)
  let prewhere ← optionalClause g "PREWHERE"
  let selection ← optionalClause g "WHERE"
  let grouping ← groupByClause g
  let cluster ← listClause g ["CLUSTER", "BY"]
  let distribute ← listClause g ["DISTRIBUTE", "BY"]
  let sort ← listClause g ["SORT", "BY"]
  let having ← optionalClause g "HAVING"
  let windows ← windowClauses g
  let connect ← connectClause g
  return ⟨⟨distinct ++ top⟩, projection, ⟨target⟩, sources,
    ⟨views.flatten ++ prewhere ++ selection ++ grouping ++ cluster ++ distribute ++ sort ++ having ++
      windows ++ connect⟩⟩

/-- `TABLE` takes the next three tokens, of which two are the name if the middle one is a dot. -/
def tableBody : Parser Body := do
  let first ← next
  let second ← next
  let third ← next
  let word (what : String) (t : Option Located) : Parser String :=
    match tokenOf t with
    | some (.word w _) => pure w
    | _ => expected what t
  if second.any (·.isSymbol ".") then
    let schema ← word "Schema name" first
    return .table (schema ++ "." ++ (← word "Table name" third))
  return .table (← word "Table name" first)

def setOperators : List (String × Nat) := [("UNION", 10), ("EXCEPT", 10), ("INTERSECT", 20)]

def setQuantifier : Parser String :=
  let written (ks : List String) : List String × Parser String :=
    (ks, return String.join (ks.map (" " ++ ·)))
  firstClause
    [written ["DISTINCT", "BY", "NAME"], written ["BY", "NAME"], written ["ALL", "BY", "NAME"],
      written ["ALL"], written ["DISTINCT"]]
    (return "")

def firstBody (g : Grammar) : Parser Body := do
  if ← keyword "SELECT" then return .select (← selectBody g)
  if ← symbol "(" then
    let inner ← g.query
    expectSymbol ")"
    return .query inner
  if ← keyword "VALUES" then valuesRows g
  else if ← keyword "TABLE" then tableBody
  else expectedHere "SELECT, VALUES, or a subquery in the query body"

def setOperationLoop (right : Nat → Parser Body) (strength : Nat) : Nat → Body → Parser Body
  | 0, left => return left
  | fuel + 1, left => do
    match (keywordOf (← peek)).bind fun k => (setOperators.lookup k).map (k, ·) with
    | some (k, nextOne) =>
      if nextOne ≤ strength then return left
      let _ ← next
      let quantifier ← setQuantifier
      setOperationLoop right strength fuel (.operation left (k ++ quantifier) (← right nextOne))
    | none => return left

/-- The right side of a set operator holds only operators that bind tighter, so there are two levels
    of them. -/
def queryBody (g : Grammar) : Parser Body := do
  let steps ← bound
  let level (right : Nat → Parser Body) (strength : Nat) : Parser Body := do
    setOperationLoop right strength steps (← firstBody g)
  level (level (level fun _ => firstBody g)) 0

def interpolation (g : Grammar) : Parser Phrase := do
  let column ← ident
  let value ← optionalClause g "AS"
  return ⟨.word column.render :: value⟩

def orderByClause (g : Grammar) : Parser (List Part) := do
  if ← keywords ["ORDER", "BY"] then
    let order ← orderItems g
    if ← keyword "INTERPOLATE" then
      if ← symbol "(" then
        let columns ← listUntil ")" (interpolation g)
        expectSymbol ")"
        return order ++ [.word "INTERPOLATE", .group ⟨[.items columns]⟩]
      return order ++ wordPart "INTERPOLATE"
    return order
  return []

structure Window where
  limit : Option Expr
  offset : Option (List Part)

def limitValue (g : Grammar) : Parser (Option Expr) := do
  if ← keyword "LIMIT" then
    if ← keyword "ALL" then return none
    return some (← g.expr)
  return none

def offsetValue (g : Grammar) : Parser (Option (List Part)) := do
  if ← keyword "OFFSET" then
    let e ← g.expr
    let rows ← oneOf ["ROW", "ROWS"]
    return some ([.word "OFFSET", .expr e] ++ (rows.map wordPart).getD [])
  return none

def limitStep (g : Grammar) (w : Window) : Parser Window := do
  let limit ← if w.limit.isNone then limitValue g else pure w.limit
  let offset ← if w.offset.isNone then offsetValue g else pure w.offset
  match limit, offset with
  | some first, none =>
    if ← symbol "," then
      return ⟨some (← g.expr), some [.word "OFFSET", .expr first]⟩
    return ⟨limit, offset⟩
  | _, _ => return ⟨limit, offset⟩

def limitClauses (g : Grammar) : Parser (List Part) := do
  let w ← limitStep g (← limitStep g ⟨none, none⟩)
  let limit := match w.limit with
    | some e => [.word "LIMIT", .expr e]
    | none => []
  return limit ++ w.offset.getD []

def fetchClause : Parser (List Part) := do
  if ← keyword "FETCH" then
    let _ ← expectOneOf ["FIRST", "NEXT"]
    let quantity ← match ← oneOf ["ROW", "ROWS"] with
      | some _ => pure []
      | none => do
        let count ← literal
        let percent ← keyword "PERCENT"
        let _ ← expectOneOf ["ROW", "ROWS"]
        pure (.expr (.literal count) :: if percent then wordPart "PERCENT" else [])
    let ending ← if ← keyword "ONLY" then pure "ROWS ONLY"
      else if ← keywords ["WITH", "TIES"] then pure "ROWS WITH TIES"
      else expectedHere "one of ONLY or WITH TIES"
    return .word "FETCH FIRST" :: quantity ++ wordPart ending
  return []

def elementName : Parser String := do
  let name ← parenthesized literalText
  return s!"('{name}')"

def xmlMode : Parser String := do
  let named (k : String) : Parser String := do
    if ← nextIsSymbol "(" then return k ++ (← elementName)
    return k
  match ← oneOf ["RAW", "AUTO", "EXPLICIT", "PATH"] with
  | some "RAW" => named "RAW"
  | some "PATH" => named "PATH"
  | some k => return k
  | none => fail (.rejected "Expected FOR XML [RAW | AUTO | EXPLICIT | PATH ]")

def jsonMode : Parser String := do
  match ← oneOf ["AUTO", "PATH"] with
  | some k => return k
  | none => fail (.rejected "Expected FOR JSON [AUTO | PATH ]")

def directive : List (String × Parser String) → Parser (Option (String × String))
  | [] => return none
  | (k, rest) :: others => do
    if ← keyword k then return some (k, k ++ (← rest))
    directive others

def directiveLoop (known : List (String × Parser String)) :
    Nat → List (String × String) → Parser (List (String × String))
  | 0, read => return read
  | fuel + 1, read => do
    if ← symbol "," then
      match ← directive known with
      | some d => directiveLoop known fuel (d :: read)
      | none => directiveLoop known fuel read
    else return read

def directives (known : List (String × Parser String)) (order : List String) : Parser String := do
  let read ← directiveLoop known (← bound) []
  return String.join ((order.filterMap (List.lookup · read)).map (", " ++ ·))

def rowsFormat : Parser (Option Part) := do
  if ← keyword "XML" then
    let mode ← xmlMode
    let details ← directives
      [("ELEMENTS", return ""), ("BINARY", do expectKeyword "BASE64"; return " BASE64"),
        ("ROOT", elementName), ("TYPE", return "")]
      ["BINARY", "TYPE", "ROOT", "ELEMENTS"]
    return some (.word s!"FOR XML {mode}{details}")
  if ← keyword "JSON" then
    let mode ← jsonMode
    let details ← directives
      [("ROOT", elementName), ("INCLUDE_NULL_VALUES", return ""),
        ("WITHOUT_ARRAY_WRAPPER", return "")]
      ["ROOT", "INCLUDE_NULL_VALUES", "WITHOUT_ARRAY_WRAPPER"]
    return some (.word s!"FOR JSON {mode}{details}")
  if ← keyword "BROWSE" then return some (.word "FOR BROWSE")
  return none

def rowLock : Parser Part := do
  let kind ← expectOneOf ["UPDATE", "SHARE"]
  let table ← if ← keyword "OF" then pure (" OF " ++ dottedText (← dottedName)) else pure ""
  let waiting ← if ← keyword "NOWAIT" then pure " NOWAIT"
    else if ← keywords ["SKIP", "LOCKED"] then pure " SKIP LOCKED"
    else pure ""
  return .word s!"FOR {kind}{table}{waiting}"

def forClauseLoop : Nat → List Part → Parser (List Part)
  | 0, read => return read.reverse
  | fuel + 1, read => do
    if ← keyword "FOR" then
      match ← rowsFormat with
      | some format => return (format :: read).reverse
      | none => forClauseLoop fuel ((← rowLock) :: read)
    else return read.reverse

def formatClause : Parser (List Part) := do
  if ← keyword "FORMAT" then
    if ← keyword "NULL" then return wordPart "FORMAT NULL"
    return wordPart ("FORMAT " ++ (← ident).render)
  return []

def queryTail (g : Grammar) : Parser Phrase := do
  let order ← orderByClause g
  let limits ← limitClauses g
  let limitBy ← if ← keyword "BY" then pure [.word "BY", exprItems (← list g.expr)] else pure []
  let set ← settings
  let fetch ← fetchClause
  let locks ← forClauseLoop (← bound) []
  let format ← formatClause
  return ⟨order ++ limits ++ limitBy ++ set ++ fetch ++ locks ++ format⟩

def definition (g : Grammar) : Parser Definition := do
  let name ← ident
  let columns ← if ← nextIsKeyword "AS" then pure [] else optionalColumnList
  expectKeyword "AS"
  let query ← parenthesized g.query
  let origin ← if ← keyword "FROM" then pure (some (← ident)) else pure none
  return ⟨⟨name, columns⟩, query, origin⟩

def withClause (g : Grammar) : Parser (Option With) := do
  if ← keyword "WITH" then
    let recursive ← keyword "RECURSIVE"
    return some ⟨recursive, ← list (definition g)⟩
  return none

def query (g : Grammar) (insert update : Parser Phrase) : Parser Query := do
  let definitions ← withClause g
  if ← keyword "INSERT" then return ⟨definitions, .command (← insert), ⟨[]⟩⟩
  if ← keyword "UPDATE" then return ⟨definitions, .command (← update), ⟨[]⟩⟩
  let body ← queryBody g
  return ⟨definitions, body, ← queryTail g⟩

end JoinDiagram.Sql.Parser
