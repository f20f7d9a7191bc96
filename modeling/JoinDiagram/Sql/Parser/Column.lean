import JoinDiagram.Sql.Parser.Grammar
import JoinDiagram.Sql.Printer

namespace JoinDiagram.Sql.Parser

def signedNumber : Parser String := do
  let sign ← if ← symbol "+" then pure "+"
    else if ← symbol "-" then pure "-"
    else pure ""
  return sign ++ (← numberLiteral).render

def sequenceNumber (name : String) (fillers : List String) : Parser String := do
  if ← keyword name then
    let filler ← oneOf fillers
    let n ← signedNumber
    return " " ++ " ".intercalate (name :: filler.toList ++ [n])
  return ""

def sequenceLimit (name : String) : Parser String := do
  if ← keyword name then
    let n ← signedNumber
    return s!" {name} {n}"
  if ← keywords ["NO", name] then return " NO " ++ name
  return ""

def sequenceOptions : Parser String := do
  let increment ← sequenceNumber "INCREMENT" ["BY"]
  let low ← sequenceLimit "MINVALUE"
  let high ← sequenceLimit "MAXVALUE"
  let start ← sequenceNumber "START" ["WITH"]
  let cache ← sequenceNumber "CACHE" []
  let cycle ← if ← keywords ["NO", "CYCLE"] then pure " NO CYCLE"
    else if ← keyword "CYCLE" then pure " CYCLE"
    else pure ""
  return increment ++ low ++ high ++ start ++ cache ++ cycle

def indexedColumn : Parser String := do
  let column ← ident
  let direction ← orderDirection
  return Phrase.render ⟨.word column.render :: direction⟩

def clusteredOption : Parser String := do
  if ← keywords ["CLUSTERED", "COLUMNSTORE", "INDEX", "ORDER"] then
    let columns ← columnList
    return s!"CLUSTERED COLUMNSTORE INDEX ORDER ({identsText columns})"
  if ← keywords ["CLUSTERED", "COLUMNSTORE", "INDEX"] then return "CLUSTERED COLUMNSTORE INDEX"
  if ← keywords ["CLUSTERED", "INDEX"] then
    let columns ← parenthesized (list indexedColumn)
    return s!"CLUSTERED INDEX ({commaSeparated columns})"
  fail (.rejected "invalid CLUSTERED sequence")

def partitionOption (g : Grammar) : Parser String := do
  expectKeyword "PARTITION"
  expectSymbol "("
  let column ← ident
  expectKeyword "RANGE"
  let side ← oneOf ["LEFT", "RIGHT"]
  expectKeywords ["FOR", "VALUES"]
  let limits ← exprGroup g
  expectSymbol ")"
  let range := " ".intercalate ("RANGE" :: side.toList)
  return s!"PARTITION ({column.render} {range} FOR VALUES ({commaSeparated (Expr.renderAll limits)}))"

def tableOption (g : Grammar) : Parser String := do
  match keywordOf (← peek) with
  | some "HEAP" => return (← ident).render
  | some "PARTITION" => partitionOption g
  | some "CLUSTERED" => clusteredOption
  | _ =>
    let name ← ident
    expectSymbol "="
    let value ← g.expr
    return s!"{name.render} = {value.render}"

def optionGroup (g : Grammar) : Parser (List String) :=
  parenthesized (listUntil ")" (tableOption g))

def optionsAfter (g : Grammar) (k : String) : Parser (List String) := do
  if ← keyword k then optionGroup g
  else return []

def someOptionsAfter (g : Grammar) (ks : List String) : Parser (List String) := do
  if ← keywords ks then parenthesized (list (tableOption g))
  else return []

structure Characteristics where
  deferrable : Option String
  initially : Option String
  enforced : Option String

def characteristicsLoop : Nat → Characteristics → Parser Characteristics
  | 0, c => return c
  | fuel + 1, c => do
    let oneMissing (given : Option String) (ks : List String) : Parser Bool := do
      if given.isNone then keywords ks else return false
    if ← oneMissing c.deferrable ["NOT", "DEFERRABLE"] then
      characteristicsLoop fuel { c with deferrable := some "NOT DEFERRABLE" }
    else if ← oneMissing c.deferrable ["DEFERRABLE"] then
      characteristicsLoop fuel { c with deferrable := some "DEFERRABLE" }
    else if ← oneMissing c.initially ["INITIALLY"] then
      match ← oneOf ["DEFERRED", "IMMEDIATE"] with
      | some k => characteristicsLoop fuel { c with initially := some ("INITIALLY " ++ k) }
      | none => expectedHere "one of DEFERRED or IMMEDIATE"
    else if ← oneMissing c.enforced ["ENFORCED"] then
      characteristicsLoop fuel { c with enforced := some "ENFORCED" }
    else if ← oneMissing c.enforced ["NOT", "ENFORCED"] then
      characteristicsLoop fuel { c with enforced := some "NOT ENFORCED" }
    else return c

def characteristics : Parser (List String) := do
  let c ← characteristicsLoop 3 ⟨none, none, none⟩
  return c.deferrable.toList ++ c.initially.toList ++ c.enforced.toList

def referentialAction : Parser String := do
  let act (ks : List String) : List String × Parser String := (ks, return " ".intercalate ks)
  firstClause
    [act ["RESTRICT"], act ["CASCADE"], act ["SET", "NULL"], act ["NO", "ACTION"],
      act ["SET", "DEFAULT"]]
    (expectedHere "one of RESTRICT, CASCADE, SET NULL, NO ACTION or SET DEFAULT")

def referentialActionLoop : Nat → Option String → Option String →
    Parser (Option String × Option String)
  | 0, onDelete, onUpdate => return (onDelete, onUpdate)
  | fuel + 1, onDelete, onUpdate => do
    let oneMissing (given : Option String) (event : String) : Parser Bool := do
      if given.isNone then keywords ["ON", event] else return false
    if ← oneMissing onDelete "DELETE" then
      referentialActionLoop fuel (some (← referentialAction)) onUpdate
    else if ← oneMissing onUpdate "UPDATE" then
      referentialActionLoop fuel onDelete (some (← referentialAction))
    else return (onDelete, onUpdate)

def referenceRules : Parser (List String) := do
  let (onDelete, onUpdate) ← referentialActionLoop 2 none none
  let rest ← characteristics
  return (onDelete.map ("ON DELETE " ++ ·)).toList ++ (onUpdate.map ("ON UPDATE " ++ ·)).toList ++
    rest

def spaced (words : List String) : Option String := some (" ".intercalate words)

def referenceOption : Parser (Option String) := do
  let table ← dottedName
  let columns ← optionalColumnList
  let rules ← referenceRules
  let named := if columns.isEmpty then [] else [s!"({identsText columns})"]
  return spaced ("REFERENCES" :: dottedText table :: named ++ rules)

def computedOption (g : Grammar) (head : String) : Parser (Option String) := do
  let e ← parenthesized g.expr
  let mode ← if ← keyword "STORED" then pure " STORED"
    else if ← keyword "VIRTUAL" then pure " VIRTUAL"
    else pure ""
  return some s!"{head} ({e.render}){mode}"

def numberedOption (moment : String) : Parser (Option String) := do
  let options ← if ← symbol "(" then do
      let options ← sequenceOptions
      expectSymbol ")"
      pure options
    else pure ""
  let group := if options.isEmpty then "" else s!" ({options} )"
  return some s!"GENERATED {moment} AS IDENTITY{group}"

/-- What follows `GENERATED`. Words that do not complete an option are read, but make none. -/
def generatedOption (g : Grammar) : Parser (Option String) :=
  firstClause
    [(["ALWAYS", "AS", "IDENTITY"], numberedOption "ALWAYS"),
      (["BY", "DEFAULT", "AS", "IDENTITY"], numberedOption "BY DEFAULT"),
      (["ALWAYS", "AS"], do
        if ← nextIsSymbol "(" then computedOption g "GENERATED ALWAYS AS"
        else return none)]
    (return none)

def identityOption : Parser (Option String) := do
  if ← symbol "(" then
    let seed ← signedNumber
    expectSymbol ","
    let increment ← signedNumber
    expectSymbol ")"
    return some s!"IDENTITY({seed}, {increment})"
  return some "IDENTITY"

def columnComment : Parser (Option String) := do
  let t ← next
  match tokenOf t with
  | some (.text .plain body) => return some ("COMMENT " ++ quoted '\'' body)
  | _ => expected "string" t

def ephemeralOption (g : Grammar) : Parser (Option String) := do
  if ← nextIs fun t => t.isSymbol "," || t.isSymbol ")" then return some "EPHEMERAL"
  return some ("EPHEMERAL " ++ (← g.expr).render)

def columnOption (g : Grammar) : Parser (Option String) :=
  let valued (head : String) : Parser (Option String) := do
    return some (head ++ " " ++ (← g.expr).render)
  let key (head : String) : Parser (Option String) := do
    return spaced (head :: (← characteristics))
  let fixed (ks : List String) : List String × Parser (Option String) := (ks, return spaced ks)
  firstClause
    [(["CHARACTER", "SET"], do return some ("CHARACTER SET " ++ dottedText (← dottedName))),
      fixed ["NOT", "NULL"],
      (["COMMENT"], columnComment),
      fixed ["NULL"],
      (["DEFAULT"], valued "DEFAULT"), (["MATERIALIZED"], valued "MATERIALIZED"),
      (["ALIAS"], valued "ALIAS"), (["EPHEMERAL"], ephemeralOption g),
      (["PRIMARY", "KEY"], key "PRIMARY KEY"), (["UNIQUE"], key "UNIQUE"),
      (["REFERENCES"], referenceOption),
      (["CHECK"], do return some ("CHECK (" ++ (← parenthesized g.expr).render ++ ")")),
      fixed ["AUTO_INCREMENT"], fixed ["AUTOINCREMENT"], fixed ["ASC"], fixed ["DESC"],
      (["ON", "UPDATE"], valued "ON UPDATE"), (["GENERATED"], generatedOption g),
      (["OPTIONS"], do
        let options ← optionGroup g
        return some s!"OPTIONS({commaSeparated options})"),
      (["AS"], computedOption g "AS"),
      (["IDENTITY"], identityOption),
      (["ON", "CONFLICT"], do
        return some ("ON CONFLICT " ++
          (← expectOneOf ["ROLLBACK", "ABORT", "FAIL", "IGNORE", "REPLACE"])))]
    (return none)

/-- The options of a column. The last collation counts and is written before all options. -/
def columnDetailLoop (g : Grammar) : Nat → Option DottedName → List String → Parser String
  | 0, _, _ => return ""
  | fuel + 1, collation, read => do
    if ← keyword "CONSTRAINT" then
      let name ← ident
      match ← columnOption g with
      | some option =>
        columnDetailLoop g fuel collation (s!" CONSTRAINT {name.render} {option}" :: read)
      | none => expectedHere "constraint details after CONSTRAINT <name>"
    else match ← columnOption g with
    | some option => columnDetailLoop g fuel collation ((" " ++ option) :: read)
    | none =>
      if ← keyword "COLLATE" then columnDetailLoop g fuel (some (← dottedName)) read
      else
        let before := match collation with
          | some name => " COLLATE " ++ dottedText name
          | none => ""
        return before ++ String.join read.reverse

def columnDefinition (g : Grammar) (type : Parser DataType) : Parser Field := do
  let name ← ident
  let type ← type
  return ⟨some name, type, ← columnDetailLoop g (← bound) none []⟩

end JoinDiagram.Sql.Parser
