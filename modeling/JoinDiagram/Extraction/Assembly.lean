import JoinDiagram.Diagram.Builder
import JoinDiagram.Extraction.Registry
import JoinDiagram.Trace.Run

namespace JoinDiagram

open Sql (Statement)

namespace Extractor

def run {α : Type} (e : Extractor α) (s : Statement) : Run (List α) :=
  ⟨(e.extract s).1.map .note,
    match (e.extract s).2 with
    | .ok found => .ok found
    | .error fault => .error (.internal fault.message)⟩

end Extractor

namespace Builder

def insertNodes (b : Builder) : List Node → Run Builder
  | [] => pure b
  | n :: ns =>
    match b.pushNode n with
    | (true, next) => next.insertNodes ns
    | (false, next) => do
      .report [.duplicate n.id]
      next.insertNodes ns

def extractNodes (b : Builder) (s : Statement) : List (Extractor Node) → Run Builder
  | [] => pure b
  | e :: es =>
    if e.canHandle s then do
      let nodes ← e.run s
      .report [.producedNodes e.name nodes.length]
      let next ← b.insertNodes nodes
      next.extractNodes s es
    else b.extractNodes s es

def extractEdges (b : Builder) (s : Statement) : List (Extractor Edge) → Run Builder
  | [] => pure b
  | e :: es =>
    if e.canHandle s then do
      let edges ← e.run s
      .report [.producedEdges e.name edges.length]
      (edges.foldl pushEdge b).extractEdges s es
    else b.extractEdges s es

end Builder

def Registry.assemble (r : Registry) (s : Statement) : Run Graph := do
  let nodes ← Builder.empty.extractNodes s r.nodeExtractors
  let all ← nodes.extractEdges s r.edgeExtractors
  let g := all.build
  .report (g.dangling.map fun e => .dangling e.source e.target)
  return g

end JoinDiagram
