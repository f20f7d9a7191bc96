import JoinDiagram.Sql.Parser.Expr

namespace JoinDiagram.Sql.Parser

def basePattern (inner : Parser String) : Parser String := do
  let t ← peek
  match tokenOf t with
  | some (.symbol "^") =>
    let _ ← next
    return "^"
  | some (.placeholder "$") =>
    let _ ← next
    return "$"
  | some (.symbol "\x7b") =>
    expectSymbol "\x7b"
    expectSymbol "-"
    let name ← ident
    expectSymbol "-"
    expectSymbol "\x7d"
    return "\x7b- " ++ name.render ++ " -\x7d"
  | some (.word "PERMUTE" none) =>
    let _ ← next
    let names ← parenthesized (list ident)
    return s!"PERMUTE({identsText names})"
  | some (.symbol "(") =>
    let pattern ← parenthesized inner
    return s!"( {pattern} )"
  | _ => return (← ident).render

def repetitionRange : Parser String := do
  let t ← next
  let value (digits : String) : Parser String := do return toString (← numberValue 32 digits t)
  match tokenOf t with
  | some (.symbol ",") =>
    let after ← next
    match tokenOf after with
    | some (.number high _) =>
      expectSymbol "\x7d"
      return "," ++ (← value high)
    | _ => expected "literal number" after
  | some (.number low _) =>
    if ← symbol "," then
      let after ← next
      match tokenOf after with
      | some (.number high _) =>
        expectSymbol "\x7d"
        return (← value low) ++ "," ++ (← value high)
      | some (.symbol "\x7d") => return (← value low) ++ ","
      | _ => expected "\x7d or upper bound" after
    expectSymbol "\x7d"
    value low
  | _ => expected "quantifier range" t

def repetition : Parser (Option String) := do
  match tokenOf (← peek) with
  | some (.symbol "*") =>
    let _ ← next
    return some "*"
  | some (.symbol "+") =>
    let _ ← next
    return some "+"
  | some (.placeholder "?") =>
    let _ ← next
    return some "?"
  | some (.symbol "\x7b") =>
    let _ ← next
    return some ("\x7b" ++ (← repetitionRange) ++ "\x7d")
  | _ => return none

def repeatedPattern (inner : Parser String) : Parser String := do
  let base ← basePattern inner
  return base ++ String.join (← many repetition)

def rowPattern : Nat → Parser String
  | 0 => fail .tooDeep
  | fuel + 1 => do
    let part := repeatedPattern (rowPattern fuel)
    let first ← part
    let others ← many do
      if ← nextIs fun t => t.isSymbol ")" || t.isSymbol "|" then return none
      return some (← part)
    let sequence := " ".intercalate (first :: others)
    if ← symbol "|" then return sequence ++ " | " ++ (← rowPattern fuel)
    return sequence

def measure (g : Grammar) : Parser Phrase := do
  let e ← g.expr
  skipKeyword "AS"
  return ⟨[.expr e, .word ("AS " ++ (← ident).render)]⟩

def rowsPerMatch : Parser (List Part) := do
  if ← keywords ["ONE", "ROW", "PER", "MATCH"] then return wordPart "ONE ROW PER MATCH"
  if ← keywords ["ALL", "ROWS", "PER", "MATCH"] then
    let all (mode : List String) : List String × Parser (List Part) :=
      (mode, return wordPart (" ".intercalate ("ALL ROWS PER MATCH" :: mode)))
    firstClause
      [all ["SHOW", "EMPTY", "MATCHES"], all ["OMIT", "EMPTY", "MATCHES"],
        all ["WITH", "UNMATCHED", "ROWS"]]
      (return wordPart "ALL ROWS PER MATCH")
  else return []

/-- Where the search goes on after a match. The next row is written with a blank too many. -/
def matchSkip : Parser (List Part) := do
  let target (place : String) : Parser (List Part) := do
    return wordPart s!"AFTER MATCH SKIP {place} {(← ident).render}"
  if ← keywords ["AFTER", "MATCH", "SKIP"] then
    firstClause
      [(["PAST", "LAST", "ROW"], return wordPart "AFTER MATCH SKIP PAST LAST ROW"),
        (["TO", "NEXT", "ROW"], return wordPart "AFTER MATCH SKIP  TO NEXT ROW"),
        (["TO", "FIRST"], target "TO FIRST"),
        (["TO", "LAST"], target "TO LAST")]
      (do expected "after match skip option" (← next))
  else return []

def symbolDefinition (g : Grammar) : Parser Phrase := do
  let name ← ident
  expectKeyword "AS"
  return ⟨[.word name.render, .word "AS", .expr (← g.expr)]⟩

def matchForm (g : Grammar) : Parser Phrase := do
  let partitions ← if ← keywords ["PARTITION", "BY"] then
      pure [.word "PARTITION BY", exprItems (← list g.expr)]
    else pure []
  let order ← if ← keywords ["ORDER", "BY"] then orderItems g else pure []
  let measures ← if ← keyword "MEASURES" then
      pure [.word "MEASURES", .items (← list (measure g))]
    else pure []
  let rows ← rowsPerMatch
  let skip ← matchSkip
  expectKeyword "PATTERN"
  let pattern ← parenthesized (rowPattern (← bound))
  expectKeyword "DEFINE"
  let symbols ← list (symbolDefinition g)
  return ⟨partitions ++ order ++ measures ++ rows ++ skip ++
    [.word s!"PATTERN ({pattern}) DEFINE", .items symbols]⟩

end JoinDiagram.Sql.Parser
