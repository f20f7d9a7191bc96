import JoinDiagram.Analysis.Settings
import JoinDiagram.Yaml.Document

namespace JoinDiagram.Settings

open Yaml (Scalar)

inductive Field where
  | maxQueryLength
  | complexityWarningThreshold
deriving DecidableEq, Repr

def Field.ofKey? (key : String) : Option Field :=
  if key == lengthField || key == "max-query-length" then some .maxQueryLength
  else if key == thresholdField || key == "complexity-warning-threshold" then
    some .complexityWarningThreshold
  else none

def digitValue? (base : Nat) (c : Char) : Option Nat :=
  let n :=
    if Text.isAsciiDigit c then c.toNat - 48
    else if Text.isAsciiHexDigit c then (Text.asciiLower c).toNat - 87
    else base
  if n < base then some n else none

def numeral? (base : Nat) (digits : List Char) : Option Nat := do
  if digits.isEmpty then none
  let values ← digits.mapM (digitValue? base)
  let n := values.foldl (fun n d => n * base + d) 0
  if n < UInt64.size then return n else none

def decimal? (digits : List Char) : Option Nat :=
  if digits.length > 1 && digits.head? == some '0' then none else numeral? 10 digits

def number? (text : String) : Option Nat :=
  let digits := match text.toList with
    | '+' :: rest => rest
    | cs => cs
  match digits with
  | '0' :: 'x' :: rest => numeral? 16 rest
  | '0' :: 'o' :: rest => numeral? 8 rest
  | '0' :: 'b' :: rest => numeral? 2 rest
  | _ => decimal? digits

def integerTag : String := "tag:yaml.org,2002:int"

/-- Numbers are written plain, or as a literal block that is tagged as an integer. -/
def value? (s : Scalar) : Option Nat :=
  if s.style == .plain || s.style == .literal && s.tag == integerTag then number? s.text else none

structure Given where
  maxQueryLength : Option Nat
  complexityWarningThreshold : Option Nat
deriving DecidableEq, Repr

namespace Given

def empty : Given := ⟨none, none⟩

def get (p : Given) : Field → Option Nat
  | .maxQueryLength => p.maxQueryLength
  | .complexityWarningThreshold => p.complexityWarningThreshold

def set (p : Given) (value : Nat) : Field → Given
  | .maxQueryLength => { p with maxQueryLength := some value }
  | .complexityWarningThreshold => { p with complexityWarningThreshold := some value }

def addEntry (p : Given) (key value : Scalar) : Option Given := do
  let field ← Field.ofKey? key.text
  if (p.get field).isSome then none
  return p.set (← value? value) field

def complete (p : Given) : Settings :=
  ⟨p.maxQueryLength.getD standard.maxQueryLength,
    p.complexityWarningThreshold.getD standard.complexityWarningThreshold⟩

end Given

def ofEntries? (entries : List (Scalar × Scalar)) : Option Settings :=
  (entries.foldlM (fun p (key, value) => Given.addEntry p key value) Given.empty).map
    Given.complete

def ofEntries (entries : List (Scalar × Scalar)) : Except SettingsError Settings :=
  match ofEntries? entries with
  | some s => s.validate
  | none => .error .malformed

def ofYaml (text : String) : Except SettingsError Settings :=
  match (Yaml.Document.ofText? text).bind (·.scalars?) with
  | some entries => ofEntries entries
  | none => .error .malformed

def load (path : String) (content : Option String) : Except SettingsError Settings :=
  match content with
  | some text => ofYaml text
  | none => .error (.unreadable path)

end JoinDiagram.Settings
