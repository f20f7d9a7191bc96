import JoinDiagram.Proofs.Json.Field
import JoinDiagram.Wire.Encode

namespace JoinDiagram

open Json

def NodeKind.ofName? (name : String) : Option NodeKind :=
  [.table, .cte, .subquery].find? (·.name == name)

def JoinKind.ofName? (name : String) : Option JoinKind := all.find? (·.name == name)

def FailureKind.ofCode? (code : String) : Option FailureKind :=
  [.emptyInput, .queryTooLong, .unsupportedStatement, .parseError, .internalError].find?
    (·.code == code)

def NodeKind.ofJson? (v : Json) : Option NodeKind := v.text?.bind ofName?

def JoinKind.ofJson? (v : Json) : Option JoinKind := v.text?.bind ofName?

def FailureKind.ofJson? (v : Json) : Option FailureKind := v.text?.bind ofCode?

def EdgeView.ofJson? (v : Json) : Option EdgeView := do
  let id ← v.required? "id" text?
  let source ← v.required? "sourceId" text?
  let target ← v.required? "targetId" text?
  let kind ← v.required? "joinType" JoinKind.ofJson?
  let condition ← v.optional? "condition" text?
  some ⟨id, source, target, kind, condition⟩

def EdgeView.listOfJson? (v : Json) : Option (List EdgeView) := v.items?.bind (·.mapM ofJson?)

mutual

def NodeView.ofJson? (v : Json) : Option NodeView := do
  let id ← v.required? "id" text?
  let kind ← v.required? "type" NodeKind.ofJson?
  let name ← v.required? "name" text?
  let alias? ← v.optional? "alias" text?
  let columns ← v.required? "columns" texts?
  let inner ← v.optionalPart? "innerGraph" fun w _ => DiagramView.ofJson? w
  some (.mk id kind name alias? columns inner)
termination_by sizeOf v

def DiagramView.ofJson? (v : Json) : Option DiagramView := do
  let nodes ← v.requiredPart? "nodes" fun w _ => NodeView.listOfJson? w
  let edges ← v.required? "edges" EdgeView.listOfJson?
  let warning ← v.optional? "warning" text?
  some (.mk nodes edges warning)
termination_by sizeOf v

def NodeView.listOfJson? : Json → Option (List NodeView)
  | .array items => NodeView.allOfJson? items
  | _ => none
termination_by v => sizeOf v

def NodeView.allOfJson? : List Json → Option (List NodeView)
  | [] => some []
  | v :: vs => do
    let n ← NodeView.ofJson? v
    let ns ← NodeView.allOfJson? vs
    some (n :: ns)
termination_by vs => sizeOf vs

end

def Failure.ofJson? (v : Json) : Option Failure := do
  let kind ← v.required? "code" FailureKind.ofJson?
  let message ← v.required? "message" text?
  let line ← v.optional? "line" number?
  let column ← v.optional? "column" number?
  let suggestion ← v.optional? "suggestion" text?
  some ⟨kind, message, line, column, suggestion⟩

def Response.ofJson? (v : Json) : Option Response :=
  (DiagramView.ofJson? v).map diagram <|> (Failure.ofJson? v).map failure

theorem NodeKind.ofJson_of_same (k : NodeKind) (w : Json) (same : (string k.name).Same w) :
    ofJson? w = some k := by
  rw [ofJson?, text_of_same _ _ same]
  cases k <;> rfl

theorem JoinKind.ofJson_of_same (k : JoinKind) (w : Json) (same : (string k.name).Same w) :
    ofJson? w = some k := by
  rw [ofJson?, text_of_same _ _ same]
  cases k <;> rfl

theorem FailureKind.ofJson_of_same (k : FailureKind) (w : Json) (same : (string k.code).Same w) :
    ofJson? w = some k := by
  rw [ofJson?, text_of_same _ _ same]
  cases k <;> rfl

theorem EdgeView.ofJson_of_same (e : EdgeView) (w : Json) (same : e.toJson.Same w) :
    ofJson? w = some e := by
  obtain ⟨id, source, target, kind, condition⟩ := e
  have readId : w.required? "id" text? = some id :=
    required_of_same same rfl (text_of_same id)
  have readSource : w.required? "sourceId" text? = some source :=
    required_of_same same rfl (text_of_same source)
  have readTarget : w.required? "targetId" text? = some target :=
    required_of_same same rfl (text_of_same target)
  have readKind : w.required? "joinType" JoinKind.ofJson? = some kind :=
    required_of_same same rfl kind.ofJson_of_same
  have readCondition : w.optional? "condition" text? = some condition :=
    optional_of_same same (by cases condition <;> rfl) fun text _ => text_of_same text
  rw [ofJson?, readId, readSource, readTarget, readKind, readCondition]
  rfl

theorem EdgeView.listOfJson_of_same (es : List EdgeView) (w : Json)
    (same : (array (es.map toJson)).Same w) : listOfJson? w = some es := by
  cases same with
  | array items => exact mapM_of_forall₂ (fun e _ v => e.ofJson_of_same v) items

theorem DiagramView.ofJson_eq_none {v : Json} (missing : v.field? "nodes" = none) :
    DiagramView.ofJson? v = none := by
  rw [DiagramView.ofJson?, requiredPart_eq, required?, missing]
  rfl

theorem Failure.ofJson_eq_none {v : Json} (missing : v.field? "code" = none) :
    Failure.ofJson? v = none := by
  rw [Failure.ofJson?, required?, missing]
  rfl

theorem NodeView.toJson_eq (id : String) (kind : NodeKind) (name : String) (alias? : Option String)
    (columns : List String) (inner : Option DiagramView) :
    (NodeView.mk id kind name alias? columns inner).toJson = .object (
      [("id", .string id), ("type", .string kind.name), ("name", .string name)] ++
      Json.optional "alias" .string alias? ++ [("columns", .strings columns)] ++
      Json.optional "innerGraph" DiagramView.toJson inner) := by
  cases inner <;> rw [NodeView.toJson] <;> rfl

mutual

theorem NodeView.ofJson_of_same :
    (n : NodeView) → (w : Json) → n.toJson.Same w → NodeView.ofJson? w = some n
  | .mk id kind name alias? columns inner, w, same => by
    rw [NodeView.toJson_eq] at same
    have readId : w.required? "id" text? = some id :=
      required_of_same same rfl (text_of_same id)
    have readKind : w.required? "type" NodeKind.ofJson? = some kind :=
      required_of_same same rfl kind.ofJson_of_same
    have readName : w.required? "name" text? = some name :=
      required_of_same same rfl (text_of_same name)
    have readAlias : w.optional? "alias" text? = some alias? :=
      optional_of_same same (by cases alias? <;> cases inner <;> rfl)
        fun text _ => text_of_same text
    have readColumns : w.required? "columns" texts? = some columns :=
      required_of_same same (by cases alias? <;> rfl) (texts_of_same columns)
    have readInner : w.optional? "innerGraph" DiagramView.ofJson? = some inner := by
      refine optional_of_same same (by cases alias? <;> cases inner <;> rfl) ?_
      intro view _
      exact DiagramView.ofJson_of_same view
    rw [NodeView.ofJson?, optionalPart_eq, readId, readKind, readName, readAlias, readColumns,
      readInner]
    rfl

theorem DiagramView.ofJson_of_same :
    (d : DiagramView) → (w : Json) → d.toJson.Same w → DiagramView.ofJson? w = some d
  | .mk nodes edges warning, w, same => by
    rw [DiagramView.toJson] at same
    have readNodes : w.required? "nodes" NodeView.listOfJson? = some nodes := by
      refine required_of_same same rfl fun ys inside => ?_
      cases inside with
      | array items =>
        rw [NodeView.listOfJson?]
        exact NodeView.allOfJson_of_same nodes _ items
    have readEdges : w.required? "edges" EdgeView.listOfJson? = some edges :=
      required_of_same same rfl (EdgeView.listOfJson_of_same edges)
    have readWarning : w.optional? "warning" text? = some warning :=
      optional_of_same same (by cases warning <;> rfl) fun text _ => text_of_same text
    rw [DiagramView.ofJson?, requiredPart_eq, readNodes, readEdges, readWarning]
    rfl

theorem NodeView.allOfJson_of_same :
    (ns : List NodeView) → (ws : List Json) → List.Forall₂ Same (NodeView.toJsons ns) ws →
      NodeView.allOfJson? ws = some ns
  | [], ws, same => by
    rw [NodeView.toJsons] at same
    cases same
    rw [NodeView.allOfJson?]
  | n :: ns, ws, same => by
    rw [NodeView.toJsons] at same
    cases same with
    | cons first later =>
      have readFirst := NodeView.ofJson_of_same n _ first
      have readLater := NodeView.allOfJson_of_same ns _ later
      rw [NodeView.allOfJson?, readFirst, readLater]
      rfl

end

theorem Failure.ofJson_of_same (f : Failure) (w : Json) (same : f.toJson.Same w) :
    ofJson? w = some f := by
  obtain ⟨kind, message, line, column, suggestion⟩ := f
  have readKind : w.required? "code" FailureKind.ofJson? = some kind :=
    required_of_same same rfl kind.ofJson_of_same
  have readMessage : w.required? "message" text? = some message :=
    required_of_same same rfl (text_of_same message)
  have readLine : w.optional? "line" number? = some line :=
    optional_of_same same (by cases line <;> cases column <;> cases suggestion <;> rfl)
      fun n _ => number_of_same n
  have readColumn : w.optional? "column" number? = some column :=
    optional_of_same same (by cases line <;> cases column <;> cases suggestion <;> rfl)
      fun n _ => number_of_same n
  have readSuggestion : w.optional? "suggestion" text? = some suggestion :=
    optional_of_same same (by cases line <;> cases column <;> cases suggestion <;> rfl)
      fun text _ => text_of_same text
  rw [ofJson?, readKind, readMessage, readLine, readColumn, readSuggestion]
  rfl

theorem Response.ofJson_of_same (r : Response) (w : Json) (same : r.toJson.Same w) :
    ofJson? w = some r ∧ (DiagramView.ofJson? w).isSome = r.isSuccess ∧
      (Failure.ofJson? w).isSome = !r.isSuccess := by
  cases r with
  | diagram view =>
    have read := view.ofJson_of_same w same
    have noFailure : Failure.ofJson? w = none := by
      refine Failure.ofJson_eq_none (field_of_same_none same ?_)
      obtain ⟨nodes, edges, warning⟩ := view
      cases warning <;> rfl
    rw [ofJson?, read, noFailure]
    exact ⟨rfl, rfl, rfl⟩
  | failure f =>
    have read := f.ofJson_of_same w same
    have noDiagram : DiagramView.ofJson? w = none := by
      refine DiagramView.ofJson_eq_none (field_of_same_none same ?_)
      obtain ⟨kind, message, line, column, suggestion⟩ := f
      cases line <;> cases column <;> cases suggestion <;> rfl
    rw [ofJson?, noDiagram, read]
    exact ⟨rfl, rfl, rfl⟩

theorem Response.eq_of_same {r r' : Response} (same : r.toJson.Same r'.toJson) : r = r' := by
  have own := (r.ofJson_of_same r'.toJson same).1
  have other := (r'.ofJson_of_same r'.toJson (.refl _)).1
  rw [own] at other
  exact Option.some.inj other

/-! ## Keys -/

theorem EdgeView.toJson_keyed (e : EdgeView) : e.toJson.Keyed := by
  obtain ⟨id, source, target, kind, condition⟩ := e
  refine .object ?_ ?_
  · cases condition <;> simp [Json.optional]
  · refine List.forall_mem_append.mpr ⟨?_, keyed_optional fun text _ => .string text⟩
    simp [Keyed.string]

mutual

theorem NodeView.toJson_keyed : (n : NodeView) → n.toJson.Keyed
  | .mk id kind name alias? columns inner => by
    have keyedInner : ∀ view ∈ inner, view.toJson.Keyed := fun view _ =>
      DiagramView.toJson_keyed view
    rw [NodeView.toJson_eq]
    refine .object ?_ ?_
    · cases alias? <;> cases inner <;> simp [Json.optional]
    · simp only [List.forall_mem_append, List.forall_mem_cons]
      refine ⟨⟨⟨?_, keyed_optional fun text _ => .string text⟩, ?_⟩, keyed_optional keyedInner⟩
      · simp [Keyed.string]
      · simp [keyed_strings]

theorem DiagramView.toJson_keyed : (d : DiagramView) → d.toJson.Keyed
  | .mk nodes edges warning => by
    have keyedNodes := NodeView.toJsons_keyed nodes
    have keyedEdges : ∀ v ∈ edges.map EdgeView.toJson, v.Keyed := by
      intro v member
      obtain ⟨e, -, rfl⟩ := List.mem_map.mp member
      exact e.toJson_keyed
    rw [DiagramView.toJson]
    refine .object ?_ ?_
    · cases warning <;> simp [Json.optional]
    · refine List.forall_mem_append.mpr ⟨?_, keyed_optional fun text _ => .string text⟩
      simp [Keyed.array keyedNodes, Keyed.array keyedEdges]

theorem NodeView.toJsons_keyed : (ns : List NodeView) → ∀ v ∈ NodeView.toJsons ns, v.Keyed
  | [] => by simp [NodeView.toJsons]
  | n :: ns => by
    have first := NodeView.toJson_keyed n
    have later := NodeView.toJsons_keyed ns
    rw [NodeView.toJsons]
    exact List.forall_mem_cons.mpr ⟨first, later⟩

end

theorem Failure.toJson_keyed (f : Failure) : f.toJson.Keyed := by
  obtain ⟨kind, message, line, column, suggestion⟩ := f
  refine .object ?_ ?_
  · cases line <;> cases column <;> cases suggestion <;> simp [Json.optional]
  · simp only [List.forall_mem_append]
    refine ⟨⟨⟨?_, keyed_optional fun n _ => .natural n⟩, keyed_optional fun n _ => .natural n⟩,
      keyed_optional fun text _ => .string text⟩
    simp [Keyed.string]

theorem Response.toJson_keyed (r : Response) : r.toJson.Keyed := by
  cases r with
  | diagram view => exact view.toJson_keyed
  | failure f => exact f.toJson_keyed

/-- What is sent of a response determines it, whatever the order of the fields: it is read as the
    response itself and only as one of its kind, and no other response is sent as the same value. -/
theorem Response.ofJson_recovers (r : Response) :
    r.toJson.Keyed ∧
      (∀ v, r.toJson.Same v →
        ofJson? v = some r ∧ (DiagramView.ofJson? v).isSome = r.isSuccess ∧
          (Failure.ofJson? v).isSome = !r.isSuccess) ∧
      ∀ r' : Response, r'.toJson.Same r.toJson ↔ r' = r := by
  refine ⟨r.toJson_keyed, r.ofJson_of_same, fun r' => ⟨eq_of_same, ?_⟩⟩
  rintro rfl
  exact .refl _

def Response.nested (alias? : Option String) : Response :=
  .diagram (.mk [.mk "subquery_s" .subquery "(subquery)" alias? ["id"]
    (some (.mk [.mk "o" .table "orders" alias? [] none] [⟨"o__c", "o", "c", .inner, some ""⟩]
      (some "")))] [] none)

theorem Response.ofJson_recovers_nested :
    ofJson? (nested (some "")).toJson = some (nested (some "")) ∧
      Failure.ofJson? (nested (some "")).toJson = none ∧
      ¬(nested none).toJson.Same (nested (some "")).toJson := by
  obtain ⟨-, reads, unique⟩ := ofJson_recovers (nested (some ""))
  obtain ⟨read, -, noFailure⟩ := reads _ (.refl _)
  have different : nested none ≠ nested (some "") := nofun
  refine ⟨read, ?_, fun same => different ((unique _).mp same)⟩
  exact Option.isSome_eq_false_iff.mp noFailure |> Option.isNone_iff_eq_none.mp

end JoinDiagram
