namespace JoinDiagram

inductive FailureKind where
  | emptyInput
  | queryTooLong
  | unsupportedStatement
  | parseError
  | internalError
deriving DecidableEq, Repr

def FailureKind.code : FailureKind → String
  | emptyInput => "EMPTY_INPUT"
  | queryTooLong => "QUERY_TOO_LONG"
  | unsupportedStatement => "UNSUPPORTED_STATEMENT"
  | parseError => "PARSE_ERROR"
  | internalError => "INTERNAL_ERROR"

structure Failure where
  kind : FailureKind
  message : String
  line : Option Nat
  column : Option Nat
  suggestion : Option String
deriving DecidableEq, Repr

namespace Failure

def of (kind : FailureKind) (message : String) : Failure := ⟨kind, message, none, none, none⟩

def withPosition (f : Failure) (line column : Option Nat) : Failure := { f with line, column }

def withSuggestion (f : Failure) (suggestion : String) : Failure :=
  { f with suggestion := some suggestion }

def emptyInput : Failure := of .emptyInput "SQL query must not be empty."

def tooLong (actual max : Nat) : Failure :=
  of .queryTooLong s!"Query length {actual} exceeds the maximum of {max} characters."

def unsupportedStatement : Failure :=
  (of .unsupportedStatement "Only SELECT and WITH (CTE) statements are supported.").withSuggestion
    "Start your query with SELECT or WITH."

def parseError (message : String) (line column : Option Nat) : Failure :=
  (of .parseError message).withPosition line column

def internal (message : String) : Failure := of .internalError message

def describe (f : Failure) : String := s!"{f.kind.code}: {f.message}"

end Failure

end JoinDiagram
