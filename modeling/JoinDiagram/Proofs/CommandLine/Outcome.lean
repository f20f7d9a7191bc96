import JoinDiagram.CommandLine.Outcome
import JoinDiagram.Proofs.Analysis.Response
import JoinDiagram.Proofs.Analysis.SettingsFile
import JoinDiagram.Proofs.Wire.Decode
import JoinDiagram.Proofs.Wire.Request

namespace JoinDiagram

theorem fromUTF8_eq_some_iff {bytes : ByteArray} {text : String} :
    String.fromUTF8? bytes = some text ↔ bytes = text.toByteArray := by
  rw [String.fromUTF8?]
  constructor
  · intro read
    split at read
    · cases read
      rfl
    · cases read
  · rintro rfl
    rw [dif_pos text.isValidUTF8]
    rfl

theorem Files.text_eq_some_iff {files : Files} {path text : String} :
    files.text? path = some text ↔ files path = some text.toByteArray := by
  rw [Files.text?, Option.bind_eq_some_iff]
  constructor
  · rintro ⟨bytes, found, read⟩
    rw [found, fromUTF8_eq_some_iff.mp read]
  · intro found
    exact ⟨_, found, fromUTF8_eq_some_iff.mpr rfl⟩

def Outcome.Prints (o : Outcome) (v : Json) : Prop :=
  ∃ doc, o.output = doc ++ "\n" ∧ Json.ofText? doc = some v

theorem Outcome.Prints.unique {o : Outcome} {v w : Json} (first : o.Prints v)
    (second : o.Prints w) : v = w := by
  obtain ⟨doc, output, read⟩ := first
  obtain ⟨doc', output', read'⟩ := second
  have same : doc = doc' := by
    rw [output] at output'
    simpa using output'
  rw [same, read'] at read
  exact (Option.some.inj read).symm

theorem Outcome.not_prints_ofFault (f : Fault) (v : Json) : ¬(ofFault f).Prints v := by
  rintro ⟨doc, output, -⟩
  have sizes := congrArg String.length output
  rw [String.length_append] at sizes
  have lineFeed : "\n".length = 1 := rfl
  have nothing : (ofFault f).output.length = 0 := rfl
  omega

theorem Outcome.ofResponse_exitCode (l : Json.Layout) (r : Response) :
    (ofResponse l r).exitCode = if r.isSuccess then 0 else failureExit := rfl

theorem Outcome.ofResponse_fault (l : Json.Layout) (r : Response) :
    (ofResponse l r).fault = none := rfl

theorem Outcome.prints_ofResponse {l : Json.Layout} (sparse : l.Sparse) (r : Response) (v : Json) :
    (ofResponse l r).Prints v ↔ v = r.toJson := by
  have printed : (ofResponse l r).Prints r.toJson :=
    ⟨_, rfl, Json.ofText_render sparse r.toJson⟩
  constructor
  · intro prints
    exact prints.unique printed
  · rintro rfl
    exact printed

theorem Analyzer.handle_absent (a : Analyzer) {r : Request} (absent : r.sql = none) :
    a.handle r = a.handle ⟨some ""⟩ := by
  rw [handle, handle, Request.query, absent]
  rfl

namespace Invocation

def Configured (i : Invocation) (files : Files) (s : Settings) : Prop :=
  match i.config with
  | some path =>
    ∃ text entries, files path = some text.toByteArray ∧
      (Yaml.Document.ofText? text).bind (·.scalars?) = some entries ∧
      Settings.ofEntries? entries = some s ∧
      0 < s.maxQueryLength ∧ 0 < s.complexityWarningThreshold
  | none => s = .standard

def Supplied (i : Invocation) (files : Files) (stdin : ByteArray) (text : String) : Prop :=
  match i.file with
  | some path => files path = some text.toByteArray
  | none => stdin = text.toByteArray

def Requested (i : Invocation) (text : String) (r : Request) : Prop :=
  if i.isRequest then Request.ofJson? text = some r else r = ⟨some text⟩

def inputFault (i : Invocation) : Fault :=
  match i.file with
  | some path => .file path
  | none => .stdin

section Stages

theorem elim_eq_ok_iff {α : Type} {found : Option α} {fault : Fault} {a : α} :
    found.elim (.error fault) Except.ok = .ok a ↔ found = some a := by
  cases found <;> simp

theorem elim_eq_error_iff {α : Type} {found : Option α} {fault f : Fault} :
    found.elim (.error fault) (Except.ok (α := α)) = .error f ↔ found = none ∧ f = fault := by
  cases found <;> simp [eq_comm]

variable (i : Invocation) (files : Files) (stdin : ByteArray)

theorem settings_eq_ok_iff (s : Settings) : i.settings files = .ok s ↔ i.Configured files s := by
  rw [settings, Configured]
  cases i.config with
  | none =>
    constructor
    · rintro ⟨⟩
      rfl
    · rintro rfl
      rfl
  | some path =>
    simp only [← Files.text_eq_some_iff]
    rw [← Settings.load_eq_ok_iff]
    cases Settings.load path (files.text? path) <;> simp

theorem settings_eq_error {f : Fault} (failed : i.settings files = .error f) :
    ∃ path, i.config = some path ∧ f = .configuration path := by
  rw [settings] at failed
  cases given : i.config with
  | none =>
    rw [given] at failed
    cases failed
  | some path =>
    rw [given] at failed
    cases loaded : Settings.load path (files.text? path) with
    | ok s =>
      simp only [loaded] at failed
      cases failed
    | error e =>
      simp only [loaded] at failed
      cases failed
      exact ⟨path, rfl, rfl⟩

theorem input_eq_ok_iff (text : String) :
    i.input files stdin = .ok text ↔ i.Supplied files stdin text := by
  rw [input, Supplied]
  cases i.file with
  | none =>
    simp only
    rw [elim_eq_ok_iff, fromUTF8_eq_some_iff]
  | some path =>
    simp only
    rw [elim_eq_ok_iff, Files.text_eq_some_iff]

theorem input_eq_error {f : Fault} (failed : i.input files stdin = .error f) :
    f = i.inputFault := by
  rw [input] at failed
  rw [inputFault]
  cases given : i.file with
  | none =>
    rw [given] at failed
    exact (elim_eq_error_iff.mp failed).2
  | some path =>
    rw [given] at failed
    exact (elim_eq_error_iff.mp failed).2

theorem request_eq_ok_iff (text : String) (r : Request) :
    i.request text = .ok r ↔ i.Requested text r := by
  rw [request, Requested]
  by_cases asked : i.isRequest
  · rw [if_pos asked, if_pos asked, elim_eq_ok_iff]
  · rw [if_neg asked, if_neg asked]
    simp [eq_comm]

theorem requested_or_invalid (text : String) :
    (∃ r, i.Requested text r) ∨ (i.isRequest ∧ Request.ofJson? text = none) := by
  by_cases asked : i.isRequest
  · cases read : Request.ofJson? text with
    | none => exact .inr ⟨asked, rfl⟩
    | some r => exact .inl ⟨r, by rw [Requested, if_pos asked, read]⟩
  · exact .inl ⟨⟨some text⟩, by rw [Requested, if_neg asked]⟩

end Stages

section Run

variable {i : Invocation} {files : Files} {stdin : ByteArray}

theorem run_ofFault {f : Fault} (failed : i.respond files stdin = .error f) :
    i.run files stdin = .ofFault f := by
  rw [run, failed]

theorem run_of_unconfigured (unconfigured : ¬∃ s, i.Configured files s) :
    ∃ path, i.config = some path ∧ i.run files stdin = .ofFault (.configuration path) := by
  cases configured : i.settings files with
  | ok s => exact absurd ⟨s, (i.settings_eq_ok_iff files s).mp configured⟩ unconfigured
  | error f =>
    obtain ⟨path, given, rfl⟩ := i.settings_eq_error files configured
    refine ⟨path, given, run_ofFault ?_⟩
    rw [respond, configured]
    rfl

theorem run_of_unsupplied (configured : ∃ s, i.Configured files s)
    (unsupplied : ¬∃ text, i.Supplied files stdin text) :
    i.run files stdin = .ofFault i.inputFault := by
  obtain ⟨s, loads⟩ := configured
  have settings := (i.settings_eq_ok_iff files s).mpr loads
  cases supplied : i.input files stdin with
  | ok text => exact absurd ⟨text, (i.input_eq_ok_iff files stdin text).mp supplied⟩ unsupplied
  | error f =>
    have fault := i.input_eq_error files stdin supplied
    subst fault
    apply run_ofFault
    rw [respond, settings, supplied]
    rfl

theorem run_of_unrequested {text : String} (configured : ∃ s, i.Configured files s)
    (supplied : i.Supplied files stdin text) (asked : i.isRequest)
    (invalid : Request.ofJson? text = none) : i.run files stdin = .ofFault .request := by
  obtain ⟨s, loads⟩ := configured
  have settings := (i.settings_eq_ok_iff files s).mpr loads
  have input := (i.input_eq_ok_iff files stdin text).mpr supplied
  apply run_ofFault
  rw [respond, settings, input]
  change (i.request text).bind _ = _
  rw [request, if_pos asked, invalid]
  rfl

theorem run_of_requested {s : Settings} {text : String} {r : Request}
    (configured : i.Configured files s) (supplied : i.Supplied files stdin text)
    (requested : i.Requested text r) :
    i.run files stdin = .ofResponse i.layout ((Analyzer.ofSettings s).handle r) := by
  have settings := (i.settings_eq_ok_iff files s).mpr configured
  have input := (i.input_eq_ok_iff files stdin text).mpr supplied
  have request := (i.request_eq_ok_iff text r).mpr requested
  have answered : i.respond files stdin = .ok ((Analyzer.ofSettings s).handle r) := by
    rw [respond, settings, input]
    change (i.request text).bind _ = _
    rw [request]
    rfl
  rw [run, answered]

end Run

theorem layout_sparse (i : Invocation) : i.layout.Sparse := by
  rw [layout]
  split
  · exact Json.Layout.pretty_sparse
  · exact Json.Layout.compact_sparse

theorem run_classified (i : Invocation) (files : Files) (stdin : ByteArray) :
    (∃ f, i.run files stdin = .ofFault f ∧
      ((¬∃ s, i.Configured files s) ∨ (¬∃ text, i.Supplied files stdin text) ∨
        ∃ text, i.Supplied files stdin text ∧ i.isRequest ∧ Request.ofJson? text = none)) ∨
    ∃ s text r, i.Configured files s ∧ i.Supplied files stdin text ∧ i.Requested text r ∧
      i.run files stdin = .ofResponse i.layout ((Analyzer.ofSettings s).handle r) := by
  by_cases configured : ∃ s, i.Configured files s
  · by_cases supplied : ∃ text, i.Supplied files stdin text
    · obtain ⟨text, input⟩ := supplied
      rcases i.requested_or_invalid text with ⟨r, request⟩ | ⟨asked, invalid⟩
      · obtain ⟨s, settings⟩ := configured
        exact .inr ⟨s, text, r, settings, input, request,
          run_of_requested settings input request⟩
      · have run := run_of_unrequested configured input asked invalid
        exact .inl ⟨_, run, .inr (.inr ⟨text, input, asked, invalid⟩)⟩
    · have run := run_of_unsupplied configured supplied
      exact .inl ⟨_, run, .inr (.inl supplied)⟩
  · obtain ⟨path, -, run⟩ := run_of_unconfigured configured
    exact .inl ⟨_, run, .inl configured⟩

theorem supplied_unique {i : Invocation} {files : Files} {stdin : ByteArray} {text text' : String}
    (supplied : i.Supplied files stdin text) (supplied' : i.Supplied files stdin text') :
    text = text' := by
  rw [← input_eq_ok_iff] at supplied supplied'
  rw [supplied] at supplied'
  exact Except.ok.inj supplied'

theorem run_exitCode_eq_usage_iff (i : Invocation) (files : Files) (stdin : ByteArray) :
    (i.run files stdin).exitCode = Outcome.usageExit ↔
      (¬∃ s, i.Configured files s) ∨ (¬∃ text, i.Supplied files stdin text) ∨
        ∃ text, i.Supplied files stdin text ∧ i.isRequest ∧ Request.ofJson? text = none := by
  rcases i.run_classified files stdin with
    ⟨f, run, fails⟩ | ⟨s, text, r, settings, input, request, run⟩
  · rw [run]
    exact iff_of_true rfl fails
  · rw [run]
    refine iff_of_false ?_ ?_
    · rw [Outcome.ofResponse_exitCode]
      split <;> decide
    · rintro (unconfigured | unsupplied | ⟨text', input', asked, invalid⟩)
      · exact unconfigured ⟨s, settings⟩
      · exact unsupplied ⟨text, input⟩
      · rw [Requested, if_pos asked, supplied_unique input input', invalid] at request
        cases request

theorem run_exitCode_of_prints (i : Invocation) (files : Files) (stdin : ByteArray) (r : Response)
    (prints : (i.run files stdin).Prints r.toJson) :
    (i.run files stdin).exitCode = if r.isSuccess then 0 else Outcome.failureExit := by
  rcases i.run_classified files stdin with ⟨f, run, -⟩ | ⟨s, text, request, -, -, -, run⟩
  · rw [run] at prints
    exact absurd prints (Outcome.not_prints_ofFault f _)
  · rw [run] at prints ⊢
    have answered := (Outcome.prints_ofResponse i.layout_sparse _ _).mp prints
    have same : r = (Analyzer.ofSettings s).handle request := by
      refine Response.eq_of_same ?_
      rw [answered]
      exact .refl _
    rw [same, Outcome.ofResponse_exitCode]

def withLayout (i : Invocation) (pretty : Bool) : Invocation := { i with pretty := pretty }

theorem run_withLayout (i : Invocation) (files : Files) (stdin : ByteArray) (pretty : Bool) :
    ((i.withLayout pretty).run files stdin).exitCode = (i.run files stdin).exitCode ∧
      ((i.withLayout pretty).run files stdin).fault = (i.run files stdin).fault ∧
      ∀ v, ((i.withLayout pretty).run files stdin).Prints v ↔ (i.run files stdin).Prints v := by
  have same : (i.withLayout pretty).respond files stdin = i.respond files stdin := rfl
  rw [run, run, same]
  cases i.respond files stdin with
  | error f => exact ⟨rfl, rfl, fun v => Iff.rfl⟩
  | ok r =>
    refine ⟨Outcome.ofResponse_exitCode _ r, Outcome.ofResponse_fault _ r, fun v => ?_⟩
    rw [Outcome.prints_ofResponse (layout_sparse _), Outcome.prints_ofResponse (layout_sparse _)]

/-- A run ends with the first fault there is, and prints nothing then; otherwise it prints the
    response as one document, and its exit code is that of the response. -/
theorem run_outcome (i : Invocation) (files : Files) (stdin : ByteArray) :
    ((i.run files stdin).exitCode = 2 ↔
      (¬∃ s, i.Configured files s) ∨ (¬∃ text, i.Supplied files stdin text) ∨
        ∃ text, i.Supplied files stdin text ∧ i.isRequest ∧ Request.ofJson? text = none) ∧
    ((¬∃ s, i.Configured files s) →
      ∃ path, i.config = some path ∧
        i.run files stdin = ⟨2, "", some (.configuration path)⟩) ∧
    (∀ s, i.Configured files s → (¬∃ text, i.Supplied files stdin text) →
      i.run files stdin = ⟨2, "", some i.inputFault⟩) ∧
    (∀ s text, i.Configured files s → i.Supplied files stdin text →
      i.isRequest → Request.ofJson? text = none →
      i.run files stdin = ⟨2, "", some .request⟩) ∧
    (∀ s text r, i.Configured files s → i.Supplied files stdin text → i.Requested text r →
      (i.run files stdin).Prints ((Analyzer.ofSettings s).handle r).toJson ∧
        (i.run files stdin).fault = none ∧
        (i.run files stdin).exitCode =
          if ((Analyzer.ofSettings s).handle r).isSuccess then 0 else 1) ∧
    (∀ r : Response, (i.run files stdin).Prints r.toJson →
      (i.run files stdin).exitCode = if r.isSuccess then 0 else 1) ∧
    (∀ pretty, ((i.withLayout pretty).run files stdin).exitCode = (i.run files stdin).exitCode ∧
      ((i.withLayout pretty).run files stdin).fault = (i.run files stdin).fault ∧
      ∀ v, ((i.withLayout pretty).run files stdin).Prints v ↔ (i.run files stdin).Prints v) ∧
    (∀ (l : Json.Layout) (v : Json) (r : Request), l.Sparse → r.Writes v →
      (i.isRequest → i.Requested (v.render l) r) ∧
        ∀ a : Analyzer, r.sql = none → a.handle r = a.handle ⟨some ""⟩) := by
  refine ⟨i.run_exitCode_eq_usage_iff files stdin, run_of_unconfigured, ?_, ?_, ?_,
    i.run_exitCode_of_prints files stdin, i.run_withLayout files stdin, ?_⟩
  · intro s configured unsupplied
    exact run_of_unsupplied ⟨s, configured⟩ unsupplied
  · intro s text configured supplied asked invalid
    exact run_of_unrequested ⟨s, configured⟩ supplied asked invalid
  · intro s text r configured supplied requested
    rw [run_of_requested configured supplied requested]
    exact ⟨(Outcome.prints_ofResponse i.layout_sparse _ _).mpr rfl, Outcome.ofResponse_fault _ _,
      Outcome.ofResponse_exitCode _ _⟩
  · intro l v r sparse writes
    refine ⟨fun asked => ?_, fun a absent => a.handle_absent absent⟩
    rw [Requested, if_pos asked]
    exact Request.ofJson_render sparse writes

theorem run_outcome_emptyRequest :
    let i : Invocation := ⟨none, true, none, true⟩
    let stdin := ((Json.object []).render .compact).toByteArray
    (i.run (fun _ => none) stdin).Prints (Response.failure .emptyInput).toJson ∧
      (i.run (fun _ => none) stdin).exitCode = 1 ∧
      run ⟨none, true, some "limits.yaml", true⟩ (fun _ => none) stdin =
        ⟨2, "", some (.configuration "limits.yaml")⟩ := by
  intro i stdin
  have unreadable : ¬ ∃ s, Configured ⟨none, true, some "limits.yaml", true⟩ (fun _ => none) s := by
    rintro ⟨s, text, entries, missing, -⟩
    cases missing
  obtain ⟨path, named, faulted⟩ := (run_outcome _ _ stdin).2.1 unreadable
  cases named
  obtain ⟨-, -, -, -, answered, status, -, requests⟩ := run_outcome i (fun _ => none) stdin
  have requested := (requests .compact _ _ Json.Layout.compact_sparse .missing).1 rfl
  obtain ⟨prints, -⟩ := answered .standard _ _ rfl rfl requested
  have refused : (Analyzer.ofSettings .standard).respond "" = .failure .emptyInput :=
    Analyzer.respond_plugged .standard Reader.standard .standard ""
  have empty : (Analyzer.ofSettings .standard).handle ⟨none⟩ = .failure .emptyInput := refused
  rw [empty] at prints
  exact ⟨prints, status _ prints, faulted⟩

end Invocation

end JoinDiagram
