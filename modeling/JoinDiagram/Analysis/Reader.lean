import JoinDiagram.Failure.Position
import JoinDiagram.Sql.Parser.Statement
import JoinDiagram.Trace.Event

namespace JoinDiagram

abbrev Reader := String → List Note × Except Failure Sql.Statement

namespace Reader

def parseErrorLabel : String := "sql parser error: "

def positionText : Option Nat → String
  | some n => s!"Some({n})"
  | none => "None"

def failureNote (f : Failure) : Note :=
  ⟨.debug, s!"Parse failed at {positionText f.line}:{positionText f.column}: {f.message}"⟩

def reject (message : String) : List Note × Except Failure Sql.Statement :=
  ([failureNote (.ofMessage message)], .error (.ofMessage message))

def standard : Reader := fun sql =>
  let start : Note := ⟨.debug, s!"Parsing {sql.utf8ByteSize} bytes of SQL"⟩
  match Sql.parse sql with
  | .error e =>
    let (notes, result) := reject (parseErrorLabel ++ e.message)
    (start :: notes, result)
  | .ok [s] => ([start], .ok s)
  | .ok [] => ([start], .error (.parseError "No SQL statement found." none none))
  | .ok statements =>
    ([start],
      .error (.parseError s!"Expected a single statement, found {statements.length}." none none))

end Reader

end JoinDiagram
