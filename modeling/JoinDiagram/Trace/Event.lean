import JoinDiagram.Diagram.Join
import JoinDiagram.Failure.Basic

namespace JoinDiagram

inductive LogLevel where
  | trace
  | debug
  | info
  | warn
  | error
deriving DecidableEq, Repr

def LogLevel.name : LogLevel → String
  | trace => "TRACE"
  | debug => "DEBUG"
  | info => "INFO"
  | warn => "WARN"
  | error => "ERROR"

structure Note where
  level : LogLevel
  message : String
deriving DecidableEq, Repr

inductive Event where
  | note (note : Note)
  | rejectedByCheck (failure : Failure)
  | rejectedByReader (failure : Failure)
  | producedNodes (extractor : String) (count : Nat)
  | producedEdges (extractor : String) (count : Nat)
  | duplicate (id : String)
  | dangling (source target : String)
  | analyzed (nodes edges : Nat)
  | tooComplex (complexity threshold : Nat)
deriving DecidableEq, Repr

namespace Event

def level : Event → LogLevel
  | note n => n.level
  | dangling .. | tooComplex .. => .warn
  | analyzed .. => .info
  | _ => .debug

def message : Event → String
  | note n => n.message
  | rejectedByCheck failure => s!"Validation rejected query: {failure.describe}"
  | rejectedByReader failure => s!"Parser rejected query: {failure.describe}"
  | producedNodes extractor count => s!"{extractor} produced {count} node(s)"
  | producedEdges extractor count => s!"{extractor} produced {count} edge(s)"
  | duplicate id => s!"Skipping duplicate node id '{id}'"
  | dangling source target =>
    s!"Edge {source} -> {target} references a node that is not in the graph"
  | analyzed nodes edges => s!"Analyzed query: {nodes} node(s), {edges} edge(s)"
  | tooComplex complexity threshold =>
    s!"Query complexity {complexity} exceeds threshold {threshold}"

def line (e : Event) : String := e.level.name ++ " " ++ e.message

end Event

end JoinDiagram
