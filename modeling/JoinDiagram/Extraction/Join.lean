import JoinDiagram.Condition.Columns
import JoinDiagram.Extraction.Relation
import JoinDiagram.Trace.Event

namespace JoinDiagram.Extraction

open Sql (Join JoinConstraint JoinOperator Source)

def joinKind : JoinOperator → JoinKind
  | .leftOuter _ | .leftSemi _ | .leftAnti _ | .outerApply => .left
  | .rightOuter _ | .rightSemi _ | .rightAnti _ => .right
  | .fullOuter _ => .full
  | .cross | .crossApply => .cross
  | .inner _ | .asOf .. => .inner

def constraint? : JoinOperator → Option JoinConstraint
  | .inner c | .leftOuter c | .rightOuter c | .fullOuter c | .leftSemi c | .rightSemi c
  | .leftAnti c | .rightAnti c | .asOf _ c => some c
  | .cross | .crossApply | .outerApply => none

def joinCondition (operator : JoinOperator) : String :=
  match constraint? operator with
  | some (.condition value) => value.render
  | _ => ""

def joinEdge (preceding : String) (j : Join) : Edge :=
  let target := relationId j.relation
  let condition := joinCondition j.operator
  ⟨Condition.inferSource condition target preceding, target, joinKind j.operator, condition,
    Condition.edgeColumns condition⟩

def joinEdges : String → List Join → List Edge
  | _, [] => []
  | preceding, j :: js => joinEdge preceding j :: joinEdges (relationId j.relation) js

def sourceEdges (s : Source) : List Edge := joinEdges (relationId s.relation) s.joins

def edgeNote (e : Edge) : Note := ⟨.debug, s!"{e.kind.name} JOIN {e.source} -> {e.target}"⟩

end JoinDiagram.Extraction
