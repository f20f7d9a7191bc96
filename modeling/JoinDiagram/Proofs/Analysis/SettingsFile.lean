import JoinDiagram.Analysis.SettingsFile

namespace JoinDiagram.Settings

theorem validate_eq_ok_iff {s s' : Settings} :
    s.validate = .ok s' ↔ s = s' ∧ 0 < s'.maxQueryLength ∧ 0 < s'.complexityWarningThreshold := by
  rw [validate]
  constructor
  · intro valid
    split at valid
    · cases valid
    · split at valid
      · cases valid
      · cases valid
        exact ⟨rfl, by omega, by omega⟩
  · rintro ⟨rfl, length, threshold⟩
    rw [if_neg (by omega), if_neg (by omega)]

theorem ofEntries_eq_ok_iff {entries : List (Yaml.Scalar × Yaml.Scalar)} {s : Settings} :
    ofEntries entries = .ok s ↔
      ofEntries? entries = some s ∧ 0 < s.maxQueryLength ∧ 0 < s.complexityWarningThreshold := by
  rw [ofEntries]
  cases ofEntries? entries with
  | none =>
    constructor
    · intro loaded
      cases loaded
    · rintro ⟨given, -⟩
      cases given
  | some given =>
    simp only [Option.some.injEq]
    exact validate_eq_ok_iff

theorem load_eq_ok_iff {path : String} {content : Option String} {s : Settings} :
    load path content = .ok s ↔
      ∃ text entries, content = some text ∧
        (Yaml.Document.ofText? text).bind (·.scalars?) = some entries ∧
        ofEntries? entries = some s ∧
        0 < s.maxQueryLength ∧ 0 < s.complexityWarningThreshold := by
  constructor
  · intro loaded
    cases content with
    | none => cases loaded
    | some text =>
      rw [load, ofYaml] at loaded
      cases read : (Yaml.Document.ofText? text).bind (·.scalars?) with
      | none =>
        rw [read] at loaded
        cases loaded
      | some entries =>
        rw [read] at loaded
        exact ⟨text, entries, rfl, read, ofEntries_eq_ok_iff.mp loaded⟩
  · rintro ⟨text, entries, rfl, read, given⟩
    rw [load, ofYaml, read]
    exact ofEntries_eq_ok_iff.mpr given

end JoinDiagram.Settings
