import JoinDiagram.Sql.Tree

namespace JoinDiagram.Sql

inductive StatementKind where
  | select
  | setOperation
  | values
  | otherQuery
  | command
deriving DecidableEq, Repr

def StatementKind.name : StatementKind → String
  | select => "SELECT"
  | setOperation => "set operation"
  | values => "VALUES"
  | otherQuery => "query"
  | command => "non-query statement"

def Body.select? : Body → Option Select
  | .select s => some s
  | _ => none

def Body.kind : Body → StatementKind
  | .select _ => .select
  | .operation .. => .setOperation
  | .values .. => .values
  | _ => .otherQuery

namespace Statement

def query? : Statement → Option Query
  | query q => some q
  | command _ => none

def select? (s : Statement) : Option Select := s.query?.bind (·.body.select?)

def with? (s : Statement) : Option With := s.query?.bind (·.withClause)

def kind : Statement → StatementKind
  | query q => q.body.kind
  | command _ => .command

end Statement

end JoinDiagram.Sql
