import JoinDiagram.Sql.SyntaxError
import JoinDiagram.Sql.Tree

namespace JoinDiagram.Sql

/-- The unread tokens. No loop of the parser runs more often than `bound`, which is more than the
    number of tokens. -/
structure Tokens where
  rest : List Located
  bound : Nat
  priorAllowed : Bool

/-- A failure keeps the place that was reached, since some readings go on from there. -/
abbrev Parser := EStateM SyntaxError Tokens

namespace Parser

def fail {α : Type} (e : SyntaxError) : Parser α := throw e

def peek : Parser (Option Located) := do return (← get).rest.head?

def peekAt (n : Nat) : Parser (Option Located) := do return (← get).rest[n]?

def next : Parser (Option Located) := do
  let s ← get
  set { s with rest := s.rest.tail }
  return s.rest.head?

def bound : Parser Nat := do return (← get).bound

def expected {α : Type} (what : String) (found : Option Located) : Parser α :=
  fail (.expected what found)

def expectedHere {α : Type} (what : String) : Parser α := do expected what (← peek)

def nextIs (p : Located → Bool) : Parser Bool := do return (← peek).any p

def accept (p : Located → Bool) : Parser Bool := do
  if ← nextIs p then
    let _ ← next
    return true
  return false

def keyword (k : String) : Parser Bool := accept (·.isKeyword k)

def symbol (s : String) : Parser Bool := accept (·.isSymbol s)

def nextIsKeyword (k : String) : Parser Bool := nextIs (·.isKeyword k)

def nextIsSymbol (s : String) : Parser Bool := nextIs (·.isSymbol s)

def keywords (ks : List String) : Parser Bool := do
  let s ← get
  let found := (s.rest.take ks.length).map (·.keyword)
  if found == ks.map some then
    set { s with rest := s.rest.drop ks.length }
    return true
  return false

def oneOf (ks : List String) : Parser (Option String) := do
  match keywordOf (← peek) with
  | some k =>
    if ks.contains k then
      let _ ← next
      return some k
    return none
  | none => return none

def expectKeyword (k : String) : Parser Unit := do
  if ← keyword k then return ()
  expectedHere k

def expectKeywords (ks : List String) : Parser Unit := ks.forM expectKeyword

def expectOneOf (ks : List String) : Parser String := do
  match ← oneOf ks with
  | some k => return k
  | none => expectedHere ("one of " ++ " or ".intercalate ks)

def skipKeyword (k : String) : Parser Unit := discard (keyword k)

def skipKeywords (ks : List String) : Parser Unit := discard (keywords ks)

def skipOneOf (ks : List String) : Parser Unit := discard (oneOf ks)

def afterKeyword (k : String) (p : Parser Unit) : Parser Unit := do
  if ← keyword k then p

def afterKeywords (ks : List String) (p : Parser Unit) : Parser Unit := do
  if ← keywords ks then p

def firstClause {α : Type} (clauses : List (List String × Parser α)) (otherwise : Parser α) :
    Parser α :=
  match clauses with
  | [] => otherwise
  | (ks, p) :: rest => do
    if ← keywords ks then p else firstClause rest otherwise

def expectSymbol (s : String) : Parser Unit := do
  if ← symbol s then return ()
  expectedHere s

/-- Tries a reading and goes back if it fails. Only a text that is nested too deep fails at once. -/
def attempt {α : Type} (p : Parser α) : Parser (Option α) := fun s =>
  match p s with
  | .ok a s' => .ok (some a) s'
  | .error .tooDeep _ => .error .tooDeep s
  | .error _ _ => .ok none s

def tolerate {α : Type} (p : Parser α) : Parser (Option α) := fun s =>
  match p s with
  | .ok a s' => .ok (some a) s'
  | .error _ s' => .ok none s'

def explain {α : Type} (message : String → String) (p : Parser α) : Parser α := fun s =>
  match p s with
  | .ok a s' => .ok a s'
  | .error e s' => .error (.rejected (message e.message)) s'

def listLoop {α : Type} (item : Parser α) : Nat → List α → Parser (List α)
  | 0, read => return read.reverse
  | fuel + 1, read => do
    let a ← item
    if ← symbol "," then listLoop item fuel (a :: read)
    else return (a :: read).reverse

def list {α : Type} (item : Parser α) : Parser (List α) := do listLoop item (← bound) []

def listUntil {α : Type} (closing : String) (item : Parser α) : Parser (List α) := do
  if ← nextIsSymbol closing then return []
  list item

def repeatLoop {α : Type} (step : Parser (Option α)) : Nat → List α → Parser (List α)
  | 0, read => return read.reverse
  | fuel + 1, read => do
    match ← step with
    | some a => repeatLoop step fuel (a :: read)
    | none => return read.reverse

def many {α : Type} (step : Parser (Option α)) : Parser (List α) := do repeatLoop step (← bound) []

def parenthesized {α : Type} (inner : Parser α) : Parser α := do
  expectSymbol "("
  let a ← inner
  expectSymbol ")"
  return a

def ident : Parser Ident := do
  let t ← next
  match tokenOf t with
  | some (.word w quote) => return ⟨w, quote⟩
  | some (.text .plain body) => return ⟨body, some '\''⟩
  | _ => expected "identifier" t

def dottedNameLoop : Nat → List Ident → Parser DottedName
  | 0, read => return read.reverse
  | fuel + 1, read => do
    let i ← ident
    if ← symbol "." then dottedNameLoop fuel (i :: read)
    else return (i :: read).reverse

def dottedName : Parser DottedName := do dottedNameLoop (← bound) []

def columnList : Parser (List Ident) := do
  if ← symbol "(" then
    let columns ← list ident
    expectSymbol ")"
    return columns
  expectedHere "a list of columns in parentheses"

def optionalColumnList : Parser (List Ident) := do
  if ← nextIsSymbol "(" then columnList
  else return []

def optionalName (reserved : List String) : Parser (Option Ident) := do
  let afterAs ← keyword "AS"
  let t ← peek
  match tokenOf t with
  | some (.word w quote) =>
    if afterAs || !(keywordOf t).any reserved.contains then
      let _ ← next
      return some ⟨w, quote⟩
    return none
  | some (.text .plain body) =>
    let _ ← next
    return some ⟨body, some '\''⟩
  | _ =>
    if afterAs then expected "an identifier after AS" t
    else return none

def optionalAlias : Parser (Option Alias) := do
  match ← optionalName reservedForTableAlias with
  | some name => return some ⟨name, ← optionalColumnList⟩
  | none => return none

def digitsValue (limit : Nat) : List Char → Nat → Except String Nat
  | [], n => .ok n
  | c :: cs, n =>
    if Text.isAsciiDigit c then
      let n' := 10 * n + (c.toNat - '0'.toNat)
      if n' < limit then digitsValue limit cs n'
      else .error "number too large to fit in target type"
    else .error "invalid digit found in string"

def numberValue (bits : Nat) (digits : String) (t : Option Located) : Parser Nat := do
  let limit := if bits == 64 then UInt64.size else UInt32.size
  match digitsValue limit digits.toList 0 with
  | .ok n => return n
  | .error cause => fail (.misplaced s!"Could not parse '{digits}' as u{bits}: {cause}" t)

def boundedNumber (bits : Nat) : Parser Nat := do
  let t ← next
  match tokenOf t with
  | some (.number digits _) => numberValue bits digits t
  | _ => expected "literal int" t

def wholeNumber : Parser Nat := boundedNumber 64

def quotedStyle : Char → Option TextStyle
  | '"' => some .doubleQuoted
  | '\'' => some .plain
  | _ => none

def literal : Parser Literal := do
  let t ← next
  match tokenOf t with
  | some (.word _ none) =>
    match keywordOf t with
    | some "TRUE" => return .boolean true
    | some "FALSE" => return .boolean false
    | some "NULL" => return .null
    | _ => expected "a concrete value" t
  | some (.word w (some quote)) =>
    match quotedStyle quote with
    | some style => return .text style w
    | none => expected "A value?" t
  | some (.number digits long) => return .number digits long
  | some (.text style body) => return .text style body
  | some (.placeholder name) => return .placeholder name
  | some (.symbol s) =>
    if s == ":" || s == "@" then
      let after ← next
      match tokenOf after with
      | some (.word w _) => return .placeholder (s ++ w)
      | some (.number digits false) => return .placeholder (s ++ digits)
      | _ => expected "placeholder" after
    else expected "a value" t
  | _ => expected "a value" t

def literalText : Parser String := do
  let t ← next
  match tokenOf t with
  | some (.text .plain body) | some (.text .escaped body) | some (.text .unicode body) =>
    return body
  | some token =>
    match token.freeWord? with
    | some w => return w
    | none => expected "literal string" t
  | none => expected "literal string" t

end Parser

end JoinDiagram.Sql
