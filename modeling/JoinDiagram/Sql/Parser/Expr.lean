import JoinDiagram.Sql.Parser.Operand

namespace JoinDiagram.Sql.Parser

def caseBranch (g : Grammar) : Parser Branch := do
  let condition ← g.expr
  expectKeyword "THEN"
  return ⟨condition, ← g.expr⟩

def caseExpr (g : Grammar) : Parser Expr := do
  let operand ← if ← keyword "WHEN" then pure none
    else do
      let e ← g.expr
      expectKeyword "WHEN"
      pure (some e)
  let first ← caseBranch g
  let others ← many do
    if ← keyword "WHEN" then return some (← caseBranch g)
    return none
  let otherwise ← if ← keyword "ELSE" then pure (some (← g.expr)) else pure none
  expectKeyword "END"
  return .choice operand (first :: others) otherwise

def castExpr (g : Grammar) (head : String) : Parser Expr := do
  expectSymbol "("
  let e ← g.expr
  expectKeyword "AS"
  let type ← dataType g
  let format ← if ← keyword "FORMAT" then do
      let value ← literal
      let zone ← if ← keywords ["AT", "TIME", "ZONE"] then
          pure [.word "AT TIME ZONE", .expr (.literal (← literal))]
        else pure []
      pure (.word "FORMAT" :: .expr (.literal value) :: zone)
    else pure []
  expectSymbol ")"
  return .keywordCall head ⟨.expr e :: .word ("AS " ++ type.render) :: format⟩

def convertExpr (g : Grammar) (head : String) : Parser Expr := do
  expectSymbol "("
  let e ← g.expr
  if ← keyword "USING" then
    let charset ← dottedName
    expectSymbol ")"
    return .keywordCall head ⟨[.expr e, .word ("USING " ++ dottedText charset)]⟩
  expectSymbol ","
  let type ← dataType g
  let charset ← if ← keywords ["CHARACTER", "SET"] then
      pure (" CHARACTER SET " ++ dottedText (← dottedName))
    else pure ""
  expectSymbol ")"
  return .keywordCall head ⟨[.items [⟨[.expr e]⟩, ⟨wordPart (type.render ++ charset)⟩]]⟩

def existsExpr (g : Grammar) (negated : Bool) : Parser Expr := do
  return .exist negated (← parenthesized g.query)

def extractExpr (g : Grammar) : Parser Expr := do
  expectSymbol "("
  let unit ← timeUnit
  let comma ← if ← keyword "FROM" then pure false
    else if ← symbol "," then pure true
    else fail (.rejected "Expected 'FROM' or ','")
  let e ← g.expr
  expectSymbol ")"
  if comma then return .keywordCall "EXTRACT" ⟨[.items [⟨wordPart unit⟩, ⟨[.expr e]⟩]]⟩
  return .keywordCall "EXTRACT" ⟨[.word unit, .word "FROM", .expr e]⟩

def roundingExpr (g : Grammar) (head : String) : Parser Expr := do
  expectSymbol "("
  let e ← g.expr
  let arguments : Phrase ← if ← keyword "TO" then pure ⟨[.expr e, .word ("TO " ++ (← timeUnit))]⟩
    else if ← symbol "," then
      match ← literal with
      | .number digits long =>
        pure ⟨[exprItems [e, .literal (.number digits long)]]⟩
      | _ => fail (.rejected "Scale field can only be of number type")
    else pure ⟨[.expr e]⟩
  expectSymbol ")"
  return .keywordCall head arguments

def positionExpr (g : Grammar) : Parser Expr := do
  expectSymbol "("
  let e ← g.subexpr betweenStrength
  expectKeyword "IN"
  let inside ← g.expr
  expectSymbol ")"
  return .keywordCall "POSITION" ⟨[.expr e, .word "IN", .expr inside]⟩

def substringExpr (g : Grammar) : Parser Expr := do
  expectSymbol "("
  let e ← g.expr
  let byComma ← symbol ","
  let start ← if byComma then pure (some (← g.expr))
    else if ← keyword "FROM" then pure (some (← g.expr))
    else pure none
  let byFor ← keyword "FOR"
  let length ← if byFor then pure (some (← g.expr))
    else if ← symbol "," then pure (some (← g.expr))
    else pure none
  expectSymbol ")"
  if byComma then
    return .keywordCall "SUBSTRING" ⟨[exprItems (e :: start.toList ++ length.toList)]⟩
  let clause (word : String) (value : Option Expr) : List Part :=
    match value with
    | some v => [.word word, .expr v]
    | none => []
  return .keywordCall "SUBSTRING" ⟨.expr e :: clause "FROM" start ++ clause "FOR" length⟩

def overlayExpr (g : Grammar) : Parser Expr := do
  expectSymbol "("
  let e ← g.expr
  expectKeyword "PLACING"
  let replacement ← g.expr
  expectKeyword "FROM"
  let start ← g.expr
  let length ← optionalClause g "FOR"
  expectSymbol ")"
  return .keywordCall "OVERLAY"
    ⟨[.expr e, .word "PLACING", .expr replacement, .word "FROM", .expr start] ++ length⟩

def trimExpr (g : Grammar) : Parser Expr := do
  expectSymbol "("
  let side ← oneOf ["BOTH", "LEADING", "TRAILING"]
  let sidePart := match side with
    | some s => wordPart s
    | none => []
  let e ← g.expr
  if ← keyword "FROM" then
    let subject ← g.expr
    expectSymbol ")"
    return .keywordCall "TRIM" ⟨sidePart ++ [.expr e, .word "FROM", .expr subject]⟩
  if ← symbol "," then
    let characters ← list g.expr
    expectSymbol ")"
    return .keywordCall "TRIM" ⟨[exprItems (e :: characters)]⟩
  expectSymbol ")"
  return .keywordCall "TRIM" ⟨sidePart ++ [.expr e]⟩

def matchExpr : Parser Expr := do
  let columns ← columnList
  expectKeyword "AGAINST"
  expectSymbol "("
  let value ← literal
  let mode ← if ← keywords ["IN", "NATURAL", "LANGUAGE", "MODE"] then
      if ← keywords ["WITH", "QUERY", "EXPANSION"] then
        pure (wordPart "IN NATURAL LANGUAGE MODE WITH QUERY EXPANSION")
      else pure (wordPart "IN NATURAL LANGUAGE MODE")
    else if ← keywords ["IN", "BOOLEAN", "MODE"] then pure (wordPart "IN BOOLEAN MODE")
    else if ← keywords ["WITH", "QUERY", "EXPANSION"] then pure (wordPart "WITH QUERY EXPANSION")
    else pure []
  expectSymbol ")"
  return .keywordCall s!"MATCH ({identsText columns}) AGAINST " ⟨.expr (.literal value) :: mode⟩

def arrayExpr (g : Grammar) (named : Bool) : Parser Expr := do
  let items ← listUntil "]" g.expr
  expectSymbol "]"
  return .array named items

def structExpr (g : Grammar) (start : Option Located) : Parser Expr := do
  let (fields, halfRead) ← angledFields (nestedType g (← bound)) start
  if halfRead then fail (.misplaced "unmatched > in STRUCT literal" (← peek))
  let entry : Parser Phrase := do
    let e ← g.expr
    let t ← peek
    if ← keyword "AS" then
      if !fields.isEmpty then fail (.misplaced "Typed syntax does not allow AS" t)
      return ⟨[.expr e, .word "AS", .word (← ident).render]⟩
    return ⟨[.expr e]⟩
  return .keywordCall (structType fields).render ⟨[.items (← parenthesized (list entry))]⟩

def bracedEntry (g : Grammar) (key : String) : Parser Phrase := do
  expectSymbol ":"
  return ⟨[.word (key ++ ":"), .expr (← g.expr)]⟩

def dictionaryExpr (g : Grammar) : Parser Expr := do
  expectSymbol "\x7b"
  let entries ← list do bracedEntry g (← ident).render
  expectSymbol "\x7d"
  return .braced "" entries

def mapExpr (g : Grammar) : Parser Expr := do
  expectSymbol "\x7b"
  let entries ← listUntil "\x7d" do bracedEntry g (← g.expr).render
  expectSymbol "\x7d"
  return .braced "MAP " entries

def nameLoop : Nat → List Ident → Parser DottedName
  | 0, read => return read.reverse
  | fuel + 1, read => do
    if ← symbol "." then
      let t ← next
      match tokenOf t with
      | some (.word w quote) => nameLoop fuel (⟨w, quote⟩ :: read)
      | some (.text .plain body) => nameLoop fuel (⟨body, some '\''⟩ :: read)
      | some (.symbol "*") => expected "an identifier after '.'" t
      | _ => expected "an identifier or a '*' after '.'" t
    else return read.reverse

def namedExpr (g : Grammar) (operand : Parser Expr) (first : Ident) : Parser Expr := do
  match tokenOf (← peek) with
  | some (.symbol ".") | some (.symbol "(") =>
    let path ← nameLoop (← bound) [first]
    if ← nextIsSymbol "(" then functionCall g operand path
    else return .name path
  | some (.text style body) =>
    if first.value.startsWith "_" && (style == .plain || style == .hex) then
      let _ ← next
      return .typed (.custom [⟨first.value, none⟩] []) (.text style body)
    return .name [first]
  | _ => return .name [first]

def bareFunctions : List String := ["CURRENT_CATALOG", "CURRENT_USER", "SESSION_USER", "USER"]

def clockFunctions : List String :=
  ["CURRENT_TIMESTAMP", "CURRENT_TIME", "CURRENT_DATE", "LOCALTIME", "LOCALTIMESTAMP"]

def notExpr (g : Grammar) : Parser Expr := do
  if ← keyword "EXISTS" then existsExpr g true
  else return .unary "NOT " (← g.subexpr notStrength)

def wordExpr (g : Grammar) (operand : Parser Expr) (first : Ident) (t : Option Located) :
    Parser Expr := do
  let named := namedExpr g operand first
  match keywordOf t with
  | some "TRUE" => return .literal (.boolean true)
  | some "FALSE" => return .literal (.boolean false)
  | some "NULL" => return .literal .null
  | some "CASE" => caseExpr g
  | some "CONVERT" => convertExpr g "CONVERT"
  | some "TRY_CONVERT" => convertExpr g "TRY_CONVERT"
  | some "CAST" => castExpr g "CAST"
  | some "TRY_CAST" => castExpr g "TRY_CAST"
  | some "SAFE_CAST" => castExpr g "SAFE_CAST"
  | some "EXISTS" => existsExpr g false
  | some "EXTRACT" => extractExpr g
  | some "CEIL" => roundingExpr g "CEIL"
  | some "FLOOR" => roundingExpr g "FLOOR"
  | some "SUBSTRING" => substringExpr g
  | some "OVERLAY" => overlayExpr g
  | some "TRIM" => trimExpr g
  | some "INTERVAL" => interval operand
  | some "NOT" => notExpr g
  | some "MATCH" => matchExpr
  | some "STRUCT" => structExpr g t
  | some "POSITION" =>
    if ← nextIsSymbol "(" then
      match ← attempt (positionExpr g) with
      | some e => return e
      | none => functionCall g operand [first]
    else named
  | some "ARRAY" =>
    if ← symbol "[" then arrayExpr g true
    else if ← symbol "(" then
      let query ← g.query
      expectSymbol ")"
      return .keywordCall first.render ⟨[.query query]⟩
    else named
  | some "PRIOR" =>
    if (← get).priorAllowed then return .unary "PRIOR " (← g.subexpr addStrength)
    else named
  | some "MAP" =>
    if ← nextIsSymbol "\x7b" then mapExpr g
    else named
  | some k =>
    if bareFunctions.contains k then return .call [first] [] ⟨[]⟩
    else if clockFunctions.contains k then
      if ← symbol "(" then return .call [first] [(← argumentList g).1] ⟨[]⟩
      return .call [first] [] ⟨[]⟩
    else named
  | none => named

def parenthesizedExpr (g : Grammar) : Parser Expr := do
  let isQuery ← nextIs fun t => t.isKeyword "SELECT" || t.isKeyword "WITH"
  let e ← if isQuery then pure (.subquery (← g.query))
    else match ← list g.expr with
    | [single] => pure (.nested single)
    | several => pure (.tuple several)
  expectSymbol ")"
  if ← symbol "." then
    let t ← next
    match tokenOf t with
    | some (.word w quote) => return .member e ⟨w, quote⟩
    | _ => fail (.misplaced s!"Expected identifier, found: {foundText t}" t)
  return e

def typedLiteral (g : Grammar) (operand : Parser Expr) : Parser Expr := do
  match ← dataType g with
  | .interval => interval operand
  | .custom .. => fail (.rejected "not a built-in type")
  | type => return .typed type (.text .plain (← literalText))

def plainOperand (g : Grammar) (operand : Parser Expr) : Parser Expr := do
  let t ← next
  match tokenOf t with
  | some (.word w quote) => wordExpr g operand ⟨w, quote⟩ t
  | some (.number digits long) => return .literal (.number digits long)
  | some (.text style body) => return .literal (.text style body)
  | some (.placeholder name) => return .literal (.placeholder name)
  | some (.symbol s) =>
    match s with
    | "[" => arrayExpr g false
    | "-" => return .unary "-" (← g.subexpr mulStrength)
    | "+" => return .unary "+" (← g.subexpr mulStrength)
    | "(" => parenthesizedExpr g
    | ":" | "@" =>
      modify fun rest => { rest with rest := t.toList ++ rest.rest }
      return .literal (← literal)
    | "\x7b" =>
      modify fun rest => { rest with rest := t.toList ++ rest.rest }
      dictionaryExpr g
    | _ => expected "an expression" t
  | _ => expected "an expression" t

/-- One operand. An interval takes another operand as its value, so a run of `INTERVAL` words nests
    as deep as there are tokens. -/
def operandLoop (g : Grammar) : Nat → Parser Expr
  | 0 => fail .tooDeep
  | fuel + 1 => do
    let operand := operandLoop g fuel
    match ← attempt (typedLiteral g operand) with
    | some e => return e
    | none =>
      let e ← plainOperand g operand
      if ← keyword "COLLATE" then return .collate e (← dottedName)
      return e

def operand (g : Grammar) : Parser Expr := do operandLoop g (← bound)

def operatorStrength : List (String × Nat) :=
  [("=", 20), ("<", 20), ("<=", 20), ("<>", 20), (">", 20), (">=", 20), ("==", 20), ("<=>", 20),
    ("~", 20), ("~*", 20), ("!~", 20), ("!~*", 20), ("~~", 20), ("~~*", 20), ("!~~", 20),
    ("!~~*", 20), ("|", 21), ("^", 22), ("#", 22), (">>", 22), ("<<", 22), ("&", 23), ("+", 30),
    ("-", 30), ("*", 40), ("/", 40), ("//", 40), ("%", 40), ("||", 40), ("::", 50), ("!", 50),
    ("[", 50), ("&&", 50), ("^@", 50), ("->", 16), ("->>", 16), ("#>", 16), ("#>>", 16), ("@>", 16),
    ("<@", 16), ("#-", 16), ("@?", 16), ("@@", 16)]

def wordStrength : List (String × Nat) :=
  [("OR", 5), ("AND", 10), ("IS", 17), ("LIKE", likeStrength), ("ILIKE", likeStrength),
    ("RLIKE", likeStrength), ("REGEXP", likeStrength), ("SIMILAR", likeStrength),
    ("IN", betweenStrength), ("BETWEEN", betweenStrength), ("OPERATOR", betweenStrength), ("XOR", 24),
    ("DIV", mulStrength)]

def negatedStrength : List String := ["IN", "BETWEEN", "LIKE", "ILIKE", "RLIKE", "REGEXP", "SIMILAR"]

def nextStrength : Parser Nat := do
  let t ← peek
  match tokenOf t with
  | some (.symbol s) => return (operatorStrength.lookup s).getD 0
  | some (.word ..) =>
    match keywordOf t with
    | some "AT" =>
      let second ← peekAt 1
      let third ← peekAt 2
      if second.any (·.isKeyword "TIME") && third.any (·.isKeyword "ZONE") then return 41
      return 0
    | some "NOT" =>
      match keywordOf (← peekAt 1) with
      | some k => if negatedStrength.contains k then return (wordStrength.lookup k).getD 0 else return 0
      | none => return 0
    | some k => return (wordStrength.lookup k).getD 0
    | none => return 0
  | _ => return 0

def operatorNameLoop : Nat → List String → Parser (List String)
  | 0, read => return read.reverse
  | fuel + 1, read => do
    let t ← next
    if ← symbol "." then operatorNameLoop fuel (foundText t :: read)
    else return (foundText t :: read).reverse

def binaryOperator (t : Located) : Parser (Option String) := do
  match t.token with
  | .symbol s =>
    if ["#", "::", "!", "["].contains s then return none
    return some (if s == "==" then "=" else s)
  | _ =>
    match t.keyword with
    | some "AND" => return some "AND"
    | some "OR" => return some "OR"
    | some "XOR" => return some "XOR"
    | some "OPERATOR" =>
      expectSymbol "("
      let names ← operatorNameLoop (← bound) []
      expectSymbol ")"
      return some ("OPERATOR(" ++ ".".intercalate names ++ ")")
    | _ => return none

def binaryExpr (g : Grammar) (strength : Nat) (left : Expr) (op : String) (t : Located) :
    Parser Expr := do
  match ← oneOf ["ANY", "ALL", "SOME"] with
  | some quantifier =>
    let beforeParenthesis ← get
    expectSymbol "("
    let isQuery ← nextIs fun u => u.isKeyword "SELECT" || u.isKeyword "WITH"
    let right ← if isQuery then do
        set beforeParenthesis
        g.subexpr strength
      else do
        let e ← g.subexpr strength
        expectSymbol ")"
        pure e
    if ["=", "<>", ">", ">=", "<", "<="].contains op then
      return .quantified left op quantifier right
    fail (.misplaced
      s!"Expected one of [=, >, <, =>, =<, !=] as comparison operator, found: {op}" (some t))
  | none => return .binary left op (← g.subexpr strength)

def testExpr (g : Grammar) (left : Expr) : Parser Expr := do
  let negated ← keywords ["NOT", "DISTINCT", "FROM"]
  if negated then return .distinctFrom left true (← g.expr)
  if ← keywords ["DISTINCT", "FROM"] then return .distinctFrom left false (← g.expr)
  let properties := ["NULL", "TRUE", "FALSE", "UNKNOWN"]
  match ← oneOf properties with
  | some p => return .test left p
  | none =>
    for p in properties do
      if ← keywords ["NOT", p] then return .test left ("NOT " ++ p)
    expectedHere "[NOT] NULL or TRUE|FALSE or [NOT] DISTINCT FROM after IS"

def membershipExpr (g : Grammar) (left : Expr) (negated : Bool) : Parser Expr := do
  if ← keyword "UNNEST" then
    let array ← parenthesized g.expr
    return .binary left (negation negated ++ "IN") (.keywordCall "UNNEST" ⟨[.expr array]⟩)
  expectSymbol "("
  let isQuery ← nextIs fun t => t.isKeyword "SELECT" || t.isKeyword "WITH"
  let e ← if isQuery then pure (.oneOfQuery left negated (← g.query))
    else pure (.oneOf left negated (← list g.expr))
  expectSymbol ")"
  return e

def betweenExpr (g : Grammar) (left : Expr) (negated : Bool) : Parser Expr := do
  let low ← g.subexpr betweenStrength
  expectKeyword "AND"
  let high ← g.subexpr betweenStrength
  return .between left negated low high

/-- The operator is written with the blank after it, but `ILIKE ANY` has none before a pattern with an
    escape. -/
def likeExpr (g : Grammar) (left : Expr) (no operator : String) : Parser Expr := do
  let any ← if operator == "SIMILAR TO" then pure false else keyword "ANY"
  let pattern ← g.subexpr likeStrength
  let escape ← if ← keyword "ESCAPE" then pure (some (← literalText)) else pure none
  let head := no ++ if any then operator ++ " ANY" else operator
  let joined := any && operator == "ILIKE" && escape.isSome
  return .like left (if joined then head else head ++ " ") pattern escape

def predicateExpr (g : Grammar) (left : Expr) : Parser Expr := do
  let negated ← keyword "NOT"
  let no := negation negated
  let regexp ← keyword "REGEXP"
  let rlike ← keyword "RLIKE"
  if regexp || rlike then
    let operator := if regexp then "REGEXP " else "RLIKE "
    return .like left (no ++ operator) (← g.subexpr likeStrength) none
  if ← keyword "IN" then membershipExpr g left negated
  else if ← keyword "BETWEEN" then betweenExpr g left negated
  else if ← keyword "LIKE" then likeExpr g left no "LIKE"
  else if ← keyword "ILIKE" then likeExpr g left no "ILIKE"
  else if ← keywords ["SIMILAR", "TO"] then likeExpr g left no "SIMILAR TO"
  else expectedHere "IN or BETWEEN after NOT"

def subscriptExpr (g : Grammar) (left : Expr) : Parser Expr := do
  let bound : Parser (Option Expr) := do return some (← g.expr)
  let low ← if ← symbol ":" then pure none else bound
  if ← symbol "]" then
    return .subscript left (if low.isSome then [low] else [none, none])
  if low.isSome then expectSymbol ":"
  if ← symbol "]" then return .subscript left [low, none]
  let high ← bound
  if ← symbol "]" then return .subscript left [low, high]
  expectSymbol ":"
  if ← symbol "]" then return .subscript left [low, high]
  let stride ← bound
  expectSymbol "]"
  return .subscript left [low, high, stride]

def infixExpr (g : Grammar) (strength : Nat) (left : Expr) : Parser Expr := do
  let start ← get
  match ← next with
  | none => return left
  | some t =>
    match ← binaryOperator t with
    | some op => binaryExpr g strength left op t
    | none =>
      match t.token with
      | .symbol "::" => return .convert left (← dataType g)
      | .symbol "!" => return .factorial left
      | .symbol "[" => subscriptExpr g left
      | _ =>
        match t.keyword with
        | some "IS" => testExpr g left
        | some "AT" =>
          expectKeywords ["TIME", "ZONE"]
          return .atTimeZone left (← g.subexpr strength)
        | some k =>
          if negatedStrength.contains k || k == "NOT" then
            set start
            predicateExpr g left
          else
            let shown := s!"Word(Word \x7b value: \"{t.token.spelling}\", quote_style: None, "
            fail (.misplaced s!"No infix parser for token {shown}keyword: {k} \x7d)" (some t))
        | none => fail (.misplaced "No infix parser for token Sharp" (some t))

def infixLoop (g : Grammar) (strength : Nat) : Nat → Expr → Parser Expr
  | 0, left => return left
  | fuel + 1, left => do
    let nextOne ← nextStrength
    if nextOne ≤ strength then return left
    infixLoop g strength fuel (← infixExpr g nextOne left)

def subexpr (g : Grammar) (strength : Nat) : Parser Expr := do
  infixLoop g strength (← bound) (← operand g)

end JoinDiagram.Sql.Parser
