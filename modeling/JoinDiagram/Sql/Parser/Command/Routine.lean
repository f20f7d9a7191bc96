import JoinDiagram.Sql.Parser.Command.Basic

namespace JoinDiagram.Sql.Parser

inductive RoutineProperty where
  | body
  | language
  | behavior
  | nullInput
  | parallel
deriving DecidableEq

def routineBody : Parser Unit := do
  match tokenOf (← peek) with
  | some (.text (.dollar _) _) => discard next
  | _ => discard literalText

def parallelMode : Parser Unit := do
  match ← oneOf ["UNSAFE", "RESTRICTED", "SAFE"] with
  | some _ => return ()
  | none => expectedHere "one of UNSAFE | RESTRICTED | SAFE"

def routineProperty (g : Grammar) (given : List RoutineProperty) :
    Parser (Option RoutineProperty) :=
  let once (property : RoutineProperty) (name : String) (inside : Parser Unit) :
      Parser (Option RoutineProperty) := do
    if given.contains property then fail (.rejected s!"{name} specified more than once")
    inside
    return some property
  let behavior := once .behavior "IMMUTABLE | STABLE | VOLATILE" (return ())
  let nullInput :=
    once .nullInput "CALLED ON NULL INPUT | RETURNS NULL ON NULL INPUT | STRICT" (return ())
  firstClause
    [(["AS"], once .body "AS" routineBody),
      (["LANGUAGE"], once .language "LANGUAGE" (discard ident)),
      (["IMMUTABLE"], behavior), (["STABLE"], behavior), (["VOLATILE"], behavior),
      (["CALLED", "ON", "NULL", "INPUT"], nullInput),
      (["RETURNS", "NULL", "ON", "NULL", "INPUT"], nullInput), (["STRICT"], nullInput),
      (["PARALLEL"],
        once .parallel "PARALLEL \x7b UNSAFE | RESTRICTED | SAFE \x7d" parallelMode),
      (["RETURN"], once .body "RETURN" (discard g.expr))]
    (return none)

def routinePropertyLoop (g : Grammar) : Nat → List RoutineProperty → Parser Unit
  | 0, _ => return ()
  | fuel + 1, given => do
    match ← routineProperty g given with
    | some property => routinePropertyLoop g fuel (property :: given)
    | none => return ()

def createFunction (g : Grammar) : Parser Unit := do
  name
  discard (parenthesized (listUntil ")" (routineArgument g)))
  afterKeyword "RETURNS" (discard (dataType g))
  routinePropertyLoop g (← bound) []

def macroArgument (g : Grammar) : Parser Unit := do
  discard ident
  let initial ← if ← symbol ":=" then pure true else symbol "=>"
  if initial then discard g.expr

def createMacro (g : Grammar) : Parser Unit := do
  name
  discard (parenthesized (listUntil ")" (macroArgument g)))
  expectKeyword "AS"
  if ← keyword "TABLE" then discard g.query
  else discard g.expr

def parameter (g : Grammar) : Parser Unit := do
  match tokenOf (← peek) with
  | some (.word ..) =>
    discard ident
    discard (dataType g)
  | _ => return ()

def createProcedure (g : Grammar) (statements : Parser Unit) : Parser Unit := do
  name
  trailingList (parameter g) "parameter"
  expectKeywords ["AS", "BEGIN"]
  statements
  expectKeyword "END"

def triggerEvent : Parser Unit := do
  if (← expectOneOf ["INSERT", "UPDATE", "DELETE", "TRUNCATE"]) == "UPDATE" then
    afterKeyword "OF" idents

def triggerEventLoop : Nat → Parser Unit
  | 0 => return ()
  | fuel + 1 => do
    triggerEvent
    if ← keyword "OR" then triggerEventLoop fuel

def transitionTable : Parser (Option Unit) := do
  if (← oneOf ["OLD", "NEW"]).isSome then
    if ← keyword "TABLE" then
      skipKeyword "AS"
      return some (← name)
  return none

def createTrigger (g : Grammar) : Parser Unit := do
  name
  if (← expectOneOf ["BEFORE", "AFTER", "INSTEAD"]) == "INSTEAD" then expectKeyword "OF"
  triggerEventLoop (← bound)
  expectKeyword "ON"
  name
  afterKeyword "FROM" (discard (tolerate dottedName))
  discard characteristics
  afterKeyword "REFERENCING" (discard (many transitionTable))
  expectKeyword "FOR"
  skipKeyword "EACH"
  discard (expectOneOf ["ROW", "STATEMENT"])
  afterKeyword "WHEN" (discard g.expr)
  expectKeyword "EXECUTE"
  discard (expectOneOf ["FUNCTION", "PROCEDURE"])
  routineHeading g

end JoinDiagram.Sql.Parser
