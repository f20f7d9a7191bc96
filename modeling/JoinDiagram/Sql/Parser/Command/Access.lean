import JoinDiagram.Sql.Parser.Command.Basic

namespace JoinDiagram.Sql.Parser

def columnPrivileges : List String := ["INSERT", "REFERENCES", "SELECT", "UPDATE"]

def wholePrivileges : List String :=
  ["CONNECT", "CREATE", "DELETE", "EXECUTE", "TEMPORARY", "TRIGGER", "TRUNCATE", "USAGE"]

def privilege : Parser Unit := do
  match ← oneOf (columnPrivileges ++ wholePrivileges) with
  | some k => if columnPrivileges.contains k then discard optionalColumnList
  | none => expectedHere "a privilege keyword"

def privileges : Parser Unit := do
  if ← keyword "ALL" then skipKeyword "PRIVILEGES"
  else discard (list privilege)
  expectKeyword "ON"
  firstClause
    [(["ALL", "TABLES", "IN", "SCHEMA"], names), (["ALL", "SEQUENCES", "IN", "SCHEMA"], names)]
    (do skipOneOf ["SEQUENCE", "SCHEMA", "TABLE"]; names)

def grantor : Parser Unit := afterKeywords ["GRANTED", "BY"] (discard ident)

def grantCommand : Parser Unit := do
  privileges
  expectKeyword "TO"
  idents
  skipKeywords ["WITH", "GRANT", "OPTION"]
  grantor

def revokeCommand : Parser Unit := do
  privileges
  expectKeyword "FROM"
  idents
  grantor
  let t ← peek
  let cascade ← keyword "CASCADE"
  let restrict ← keyword "RESTRICT"
  if cascade && restrict then
    fail (.misplaced "Cannot specify both CASCADE and RESTRICT in REVOKE" t)

end JoinDiagram.Sql.Parser
