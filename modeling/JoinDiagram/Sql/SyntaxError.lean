import JoinDiagram.Sql.Token

namespace JoinDiagram.Sql

inductive SyntaxError where
  | unreadable (fault : String) (position : Position)
  | expected (what : String) (found : Option Located)
  | misplaced (fault : String) (next : Option Located)
  | rejected (fault : String)
  | tooDeep
deriving DecidableEq, Repr

def positionText : Option Located → String
  | some t => t.position.describe
  | none => ""

def foundText : Option Located → String
  | some t => t.token.spelling
  | none => "EOF"

def SyntaxError.message : SyntaxError → String
  | unreadable fault position => fault ++ position.describe
  | expected what found => s!"Expected: {what}, found: {foundText found}" ++ positionText found
  | misplaced fault next => fault ++ positionText next
  | rejected fault => fault
  | tooDeep => "recursion limit exceeded"

end JoinDiagram.Sql
