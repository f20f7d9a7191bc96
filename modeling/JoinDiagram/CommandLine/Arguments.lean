namespace JoinDiagram

structure Invocation where
  file : Option String
  isRequest : Bool
  config : Option String
  pretty : Bool
deriving DecidableEq, Repr

inductive Command where
  | run (invocation : Invocation)
  | version
  | help
deriving DecidableEq, Repr

namespace Invocation

def empty : Invocation := ⟨none, false, none, false⟩

def withFile? (i : Invocation) (path : String) : Option Invocation :=
  if i.file.isSome || path.isEmpty then none else some { i with file := some path }

def withConfig? (i : Invocation) (path : String) : Option Invocation :=
  if i.config.isSome || path.isEmpty then none else some { i with config := some path }

def withRequest? (i : Invocation) : Option Invocation :=
  if i.isRequest then none else some { i with isRequest := true }

def withPretty? (i : Invocation) : Option Invocation :=
  if i.pretty then none else some { i with pretty := true }

end Invocation

namespace Command

def looksLikeOption (a : String) : Bool := a.toList.head? == some '-' && a != "-"

def splitOption (a : String) : String × Option String :=
  let name := a.toList.takeWhile (· != '=')
  match a.toList.drop name.length with
  | [] => (String.ofList name, none)
  | _ :: value => (String.ofList name, some (String.ofList value))

def readFiles (i : Invocation) (args : List String) : Option Command :=
  (args.foldlM Invocation.withFile? i).map run

def read (i : Invocation) : List String → Option Command
  | [] => some (run i)
  | a :: rest =>
    if a == "--" then readFiles i rest
    else if !looksLikeOption a then (i.withFile? a).bind (read · rest)
    else match splitOption a with
    | ("--request", none) => i.withRequest?.bind (read · rest)
    | ("--pretty", none) => i.withPretty?.bind (read · rest)
    | ("--config", some path) => (i.withConfig? path).bind (read · rest)
    | ("--config", none) =>
      match rest with
      | path :: rest => if looksLikeOption path then none else (i.withConfig? path).bind (read · rest)
      | [] => none
    | ("--version", none) => some version
    | ("--help", none) => some help
    | _ =>
      match a.toList with
      | '-' :: 'V' :: _ => some version
      | '-' :: 'h' :: _ => some help
      | _ => none

def ofArguments? (args : List String) : Option Command := read .empty args

end Command

end JoinDiagram
