namespace JoinDiagram

structure Settings where
  maxQueryLength : Nat
  complexityWarningThreshold : Nat
deriving DecidableEq, Repr

inductive SettingsError where
  | unreadable (path : String)
  | malformed
  | notPositive (field : String)
deriving DecidableEq, Repr

def SettingsError.message : SettingsError → String
  | unreadable path => s!"Failed to read config file {path}"
  | malformed => "Invalid YAML configuration"
  | notPositive field => s!"Invalid value for {field}: must be greater than 0"

namespace Settings

def standard : Settings := ⟨100000, 20⟩

def lengthField : String := "max_query_length"

def thresholdField : String := "complexity_warning_threshold"

def validate (s : Settings) : Except SettingsError Settings :=
  if s.maxQueryLength = 0 then .error (.notPositive lengthField)
  else if s.complexityWarningThreshold = 0 then .error (.notPositive thresholdField)
  else .ok s

end Settings

end JoinDiagram
