import JoinDiagram.Json.Value
import JoinDiagram.Wire.Diagram

namespace JoinDiagram

def EdgeView.toJson (e : EdgeView) : Json :=
  .object <|
    [("id", .string e.id), ("sourceId", .string e.source), ("targetId", .string e.target),
      ("joinType", .string e.kind.name)] ++
    Json.optional "condition" .string e.condition

mutual

def NodeView.toJson : NodeView → Json
  | .mk id kind name alias? columns inner =>
    .object <|
      [("id", .string id), ("type", .string kind.name), ("name", .string name)] ++
      Json.optional "alias" .string alias? ++ [("columns", .strings columns)] ++
      match inner with
      | some view => [("innerGraph", view.toJson)]
      | none => []

def DiagramView.toJson : DiagramView → Json
  | .mk nodes edges warning =>
    .object <|
      [("nodes", .array (NodeView.toJsons nodes)), ("edges", .array (edges.map EdgeView.toJson))] ++
      Json.optional "warning" .string warning

def NodeView.toJsons : List NodeView → List Json
  | [] => []
  | n :: ns => n.toJson :: NodeView.toJsons ns

end

def Failure.toJson (f : Failure) : Json :=
  .object <|
    [("code", .string f.kind.code), ("message", .string f.message)] ++
    Json.optional "line" .natural f.line ++ Json.optional "column" .natural f.column ++
    Json.optional "suggestion" .string f.suggestion

def Response.toJson : Response → Json
  | .diagram view => view.toJson
  | .failure f => f.toJson

end JoinDiagram
