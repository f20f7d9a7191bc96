import JoinDiagram.Analysis.Response
import JoinDiagram.Analysis.SettingsFile
import JoinDiagram.CommandLine.Arguments
import JoinDiagram.Json.Printer
import JoinDiagram.Wire.Encode

namespace JoinDiagram

inductive Fault where
  | configuration (path : String)
  | file (path : String)
  | stdin
  | request
deriving DecidableEq, Repr

def Fault.message : Fault → String
  | configuration path => s!"Failed to load configuration from {path}"
  | file path => s!"Failed to read {path}"
  | stdin => "Failed to read stdin"
  | request => "Invalid analyze request"

structure Outcome where
  exitCode : Nat
  output : String
  fault : Option Fault
deriving DecidableEq, Repr

namespace Outcome

def usageExit : Nat := 2

def failureExit : Nat := 1

def rejected : Outcome := ⟨usageExit, "", none⟩

def ofFault (f : Fault) : Outcome := ⟨usageExit, "", some f⟩

def version : Outcome := ⟨0, "sqlens 0.1.0\n", none⟩

def help : Outcome := ⟨0, "\n".intercalate [
  "Command-line front end for the SQLens query analyzer",
  "",
  "Usage: sqlens [OPTIONS] [FILE]",
  "",
  "Arguments:",
  "  [FILE]  SQL file to analyze; reads stdin when omitted",
  "",
  "Options:",
  "      --request        Treat the input as an analyze request: \x7b\"sql\": \"...\"\x7d",
  "      --config <PATH>  YAML configuration file",
  "      --pretty         Pretty-print the JSON output",
  "  -h, --help           Print help",
  "  -V, --version        Print version",
  ""], none⟩

def ofResponse (layout : Json.Layout) (r : Response) : Outcome :=
  ⟨if r.isSuccess then 0 else failureExit, r.toJson.render layout ++ "\n", none⟩

end Outcome

abbrev Files := String → Option ByteArray

def Files.text? (files : Files) (path : String) : Option String := (files path).bind String.fromUTF8?

namespace Invocation

def settings (i : Invocation) (files : Files) : Except Fault Settings :=
  match i.config with
  | some path =>
    match Settings.load path (files.text? path) with
    | .ok s => .ok s
    | .error _ => .error (.configuration path)
  | none => .ok .standard

def input (i : Invocation) (files : Files) (stdin : ByteArray) : Except Fault String :=
  match i.file with
  | some path => (files.text? path).elim (.error (.file path)) .ok
  | none => (String.fromUTF8? stdin).elim (.error .stdin) .ok

def request (i : Invocation) (input : String) : Except Fault Request :=
  if i.isRequest then (Request.ofJson? input).elim (.error .request) .ok else .ok ⟨some input⟩

def respond (i : Invocation) (files : Files) (stdin : ByteArray) : Except Fault Response := do
  let s ← i.settings files
  let input ← i.input files stdin
  let r ← i.request input
  return (Analyzer.ofSettings s).handle r

def layout (i : Invocation) : Json.Layout := if i.pretty then .pretty else .compact

def run (i : Invocation) (files : Files) (stdin : ByteArray) : Outcome :=
  match i.respond files stdin with
  | .ok r => .ofResponse i.layout r
  | .error f => .ofFault f

end Invocation

def Command.outcome (c : Option Command) (files : Files) (stdin : ByteArray) : Outcome :=
  match c with
  | some (.run i) => i.run files stdin
  | some .version => .version
  | some .help => .help
  | none => .rejected

end JoinDiagram
