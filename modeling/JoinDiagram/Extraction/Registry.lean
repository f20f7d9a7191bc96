import JoinDiagram.Extraction.Join
import JoinDiagram.Sql.Statement

namespace JoinDiagram

open Sql (Definition Statement With)

structure ExtractionFault where
  extractor : String
  found : String
deriving DecidableEq, Repr

def ExtractionFault.message (f : ExtractionFault) : String :=
  s!"{f.extractor} cannot extract from a {f.found} statement"

structure Extractor (α : Type) where
  name : String
  canHandle : Statement → Bool
  extract : Statement → List Note × Except ExtractionFault (List α)

namespace Extraction

def readPart {α β : Type} (name : String) (part : Statement → Option α) (read : α → List Note × List β)
    (s : Statement) : List Note × Except ExtractionFault (List β) :=
  match part s with
  | some p => ((read p).1, .ok (read p).2)
  | none => ([], .error ⟨name, s.kind.name⟩)

def tables (s : Sql.Select) : List Node := (s.sources.flatMap sourceRelations).filterMap tableNode?

def baseTable : Extractor Node where
  name := "base-table"
  canHandle s := s.select?.isSome
  extract := readPart "base-table" Statement.select? fun s =>
    ([⟨.debug, s!"Extracted {(tables s).length} base table(s)"⟩], tables s)

def definitionName (d : Definition) : String := (nonEmpty d.heading.name.value).getD d.render

def definitions (w : With) : List Node := w.definitions.map fun d => .cte (definitionName d) false

def cte : Extractor Node where
  name := "cte"
  canHandle s := s.with?.any fun w => !w.definitions.isEmpty
  extract := readPart "cte" Statement.with? fun w =>
    ([⟨.debug, s!"Extracted {(definitions w).length} CTE(s)"⟩], definitions w)

/-- Queries in the FROM clause are not drawn yet, so this extractor handles no statement. -/
def subquery : Extractor Node where
  name := "subquery"
  canHandle _ := false
  extract _ := ([], .ok [])

def edges (s : Sql.Select) : List Edge := s.sources.flatMap sourceEdges

def join : Extractor Edge where
  name := "join-edge"
  canHandle s := s.select?.any fun s => s.sources.any fun source => !source.joins.isEmpty
  extract := readPart "join-edge" Statement.select? fun s => ((edges s).map edgeNote, edges s)

end Extraction

structure Registry where
  nodeExtractors : List (Extractor Node)
  edgeExtractors : List (Extractor Edge)

namespace Registry

def empty : Registry := ⟨[], []⟩

def standard : Registry :=
  ⟨[Extraction.baseTable, Extraction.cte, Extraction.subquery], [Extraction.join]⟩

def withNodes (r : Registry) (e : Extractor Node) : Registry :=
  { r with nodeExtractors := r.nodeExtractors ++ [e] }

def withEdges (r : Registry) (e : Extractor Edge) : Registry :=
  { r with edgeExtractors := r.edgeExtractors ++ [e] }

def names (r : Registry) : List String :=
  r.nodeExtractors.map (·.name) ++ r.edgeExtractors.map (·.name)

end Registry

end JoinDiagram
