import JoinDiagram.Sql.Parser.Command.Basic

namespace JoinDiagram.Sql.Parser

def invisibleRanges : List (Nat × Nat) :=
  [(0x0, 0x1F), (0x7F, 0xA0), (0xAD, 0xAD), (0x300, 0x36F), (0x1680, 0x1680), (0x2000, 0x200F),
  (0x2028, 0x202F), (0x205F, 0x206F), (0x20D0, 0x20F0), (0x3000, 0x3000), (0xE000, 0xF8FF),
  (0xFE00, 0xFE0F), (0xFE20, 0xFE2F), (0xFEFF, 0xFEFF), (0xFFF0, 0xFFFB), (0xFFFE, 0xFFFF)]

def escapeVisibly (c : Char) : List Char :=
  match c with
  | '"' => ['\\', '"']
  | '\\' => ['\\', '\\']
  | '\n' => ['\\', 'n']
  | '\r' => ['\\', 'r']
  | '\t' => ['\\', 't']
  | _ =>
    if c.toNat == 0 then ['\\', '0']
    else if Text.inRanges invisibleRanges c.toNat then
      "\\u\x7b".toList ++ Nat.toDigits 16 c.toNat ++ ['\x7d']
    else [c]

def singleChar : Parser Unit := do
  let t ← peek
  let s ← literalText
  if s.utf8ByteSize != 1 then
    let shown := "\"" ++ String.ofList (s.toList.flatMap escapeVisibly) ++ "\""
    fail (.misplaced s!"Expect a char, found {shown}" t)

def copyFlag : Parser Unit := skipOneOf ["TRUE", "FALSE"]

def copyOption : Parser Unit :=
  firstClause
    [(["FORMAT"], discard ident), (["FREEZE"], copyFlag), (["DELIMITER"], singleChar),
      (["NULL"], discard literalText), (["HEADER"], copyFlag), (["QUOTE"], singleChar),
      (["ESCAPE"], singleChar), (["FORCE_QUOTE"], discard columnList),
      (["FORCE_NOT_NULL"], discard columnList), (["FORCE_NULL"], discard columnList),
      (["ENCODING"], discard literalText)]
    (expectedHere "option")

def afterAs (p : Parser Unit) : Parser Unit := do
  skipKeyword "AS"
  p

def csvOption : Parser Unit :=
  firstClause
    [(["HEADER"], return ()), (["QUOTE"], afterAs singleChar), (["ESCAPE"], afterAs singleChar),
      (["FORCE", "NOT", "NULL"], idents), (["FORCE", "QUOTE"], idents)]
    (expectedHere "csv option")

def bareCopyOption : Parser Unit :=
  firstClause
    [(["BINARY"], return ()), (["DELIMITER"], afterAs singleChar),
      (["NULL"], afterAs (discard literalText)), (["CSV"], discard (many (attempt csvOption)))]
    (expectedHere "option")

def inputRowsLoop : Nat → Parser Unit
  | 0 => return ()
  | fuel + 1 => do
    match ← next with
    | none => return ()
    | some t =>
      if t.isSymbol "\\" then
        if ← symbol "." then return ()
        discard next
      inputRowsLoop fuel

def copyCommand (g : Grammar) : Parser Unit := do
  let fromQuery ← symbol "("
  if fromQuery then
    discard g.query
    expectSymbol ")"
  else
    name
    discard optionalColumnList
  match ← oneOf ["FROM", "TO"] with
  | some direction =>
    if direction == "FROM" && fromQuery then
      fail (.rejected "COPY ... FROM does not support query as a source")
  | none => expectedHere "FROM or TO"
  let device ← oneOf ["STDIN", "STDOUT", "PROGRAM"]
  if device.isNone || device == some "PROGRAM" then discard literalText
  skipKeyword "WITH"
  if ← symbol "(" then
    discard (list copyOption)
    expectSymbol ")"
  discard (many (attempt bareCopyOption))
  if device == some "STDIN" then
    expectSymbol ";"
    inputRowsLoop (← bound)

end JoinDiagram.Sql.Parser
