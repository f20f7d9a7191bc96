import JoinDiagram.Diagram.Graph
import JoinDiagram.Sql.Printer

namespace JoinDiagram

open Sql (Alias Relation Source)

def nonEmpty (s : String) : Option String := if s.isEmpty then none else some s

/-- An empty name is no alias. -/
def aliasName (alias? : Option Alias) : Option String := alias?.bind fun a => nonEmpty a.name.value

namespace Extraction

def tableNode? : Relation → Option Node
  | .table name _ alias? => some (.table (Sql.dottedValue name) (aliasName alias?))
  | _ => none

/-- How edges refer to a relation: a table by the id of its node, a query or a group of joins by its
    alias, anything else by its text. -/
def relationId : Relation → String
  | .table name _ alias? => (aliasName alias?).getD (Sql.dottedValue name)
  | .derived isLateral query alias? =>
    (aliasName alias?).getD (Relation.derived isLateral query alias?).render
  | .nested inner alias? => (aliasName alias?).getD (Relation.nested inner alias?).render
  | relation => relation.render

theorem relationId_eq_id {relation : Relation} {node : Node} (h : tableNode? relation = some node) :
    relationId relation = node.id := by
  cases relation <;> simp [tableNode?] at h
  subst h
  rfl

def sourceRelations (s : Source) : List Relation := s.relation :: s.joins.map (·.relation)

end Extraction

end JoinDiagram
