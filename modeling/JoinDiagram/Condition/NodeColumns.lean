import JoinDiagram.Condition.ColumnMap
import JoinDiagram.Condition.Columns
import JoinDiagram.Diagram.Join

namespace JoinDiagram

/-- The columns recorded for each node; nodes and columns stand in the order they were first seen. -/
structure NodeColumns where
  order : List String
  columns : ColumnMap
deriving DecidableEq

namespace NodeColumns

def empty : NodeColumns := ⟨[], .empty⟩

def addColumn (columns : List String) (column : String) : List String :=
  if columns.contains column then columns else columns ++ [column]

def record (s : NodeColumns) (node column : String) : NodeColumns where
  order := if s.columns.contains node then s.order else s.order ++ [node]
  columns := s.columns.insert node (addColumn ((s.columns.get? node).getD []) column)

def recordCondition (s : NodeColumns) (condition : String) : NodeColumns :=
  (Condition.columns condition).foldl (fun s (node, column) => s.record node column) s

def ofEdges (edges : List Edge) : NodeColumns :=
  edges.foldl (fun s e => s.recordCondition e.condition) empty

def get (s : NodeColumns) (node : String) : List String := (s.columns.get? node).getD []

def nodeIds (s : NodeColumns) : List String := s.order

def isEmpty (s : NodeColumns) : Bool := s.order.isEmpty

def entries (s : NodeColumns) : List (String × List String) :=
  s.nodeIds.map fun node => (node, s.get node)

def rebuild (s : NodeColumns) : NodeColumns :=
  s.nodeIds.foldl (fun t node => (s.get node).foldl (fun t column => t.record node column) t) empty

end NodeColumns

end JoinDiagram
