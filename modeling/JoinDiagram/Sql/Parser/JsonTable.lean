import JoinDiagram.Sql.Parser.Expr

namespace JoinDiagram.Sql.Parser

def pathFallback : Parser (Option String) := do
  let value ← if ← keyword "NULL" then pure "NULL"
    else if ← keyword "ERROR" then pure "ERROR"
    else if ← keyword "DEFAULT" then pure ("DEFAULT " ++ (← literal).render)
    else return none
  expectKeyword "ON"
  return some value

def pathFallbackLoop : Nat → Option String → Option String → Parser (List String)
  | 0, _, _ => return []
  | fuel + 1, onEmpty, onError => do
    match ← pathFallback with
    | some value =>
      if ← keyword "EMPTY" then pathFallbackLoop fuel (some value) onError
      else
        expectKeyword "ERROR"
        pathFallbackLoop fuel onEmpty (some value)
    | none =>
      return (onEmpty.map (· ++ " ON EMPTY")).toList ++ (onError.map (· ++ " ON ERROR")).toList

def pathColumn (g : Grammar) : Nat → Parser String
  | 0 => fail .tooDeep
  | fuel + 1 => do
    if ← keyword "NESTED" then
      skipKeyword "PATH"
      let path ← literal
      expectKeyword "COLUMNS"
      let columns ← parenthesized (list (pathColumn g fuel))
      return s!"NESTED PATH {path.render} COLUMNS ({commaSeparated columns})"
    let name ← ident
    if ← keyword "FOR" then
      expectKeyword "ORDINALITY"
      return name.render ++ " FOR ORDINALITY"
    let type ← dataType g
    let presence ← if ← keyword "EXISTS" then pure ["EXISTS"] else pure []
    expectKeyword "PATH"
    let path ← literal
    let fallbacks ← pathFallbackLoop (← bound) none none
    return " ".intercalate (name.render :: type.render :: presence ++ "PATH" :: path.render ::
      fallbacks)

def jsonTable (g : Grammar) : Parser Relation := do
  expectSymbol "("
  let document ← g.expr
  expectSymbol ","
  let path ← literal
  expectKeyword "COLUMNS"
  let columns ← parenthesized (list (pathColumn g (← bound)))
  expectSymbol ")"
  let heading := s!"{path.render} COLUMNS({commaSeparated columns})"
  return .keywordCall "JSON_TABLE" ⟨[.items [⟨[.expr document]⟩, ⟨wordPart heading⟩]]⟩
    (← optionalAlias)

end JoinDiagram.Sql.Parser
