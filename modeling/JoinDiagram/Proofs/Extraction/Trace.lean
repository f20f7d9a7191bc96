import JoinDiagram.Proofs.Diagram.Builder
import JoinDiagram.Proofs.Extraction.Assembly
import Mathlib.Algebra.GroupWithZero.Nat

namespace JoinDiagram

namespace Event

def nodesProduced : Event → Nat
  | producedNodes _ count => count
  | _ => 0

def edgesProduced : Event → Nat
  | producedEdges _ count => count
  | _ => 0

def isDuplicate : Event → Bool
  | duplicate _ => true
  | _ => false

end Event

/-- The levels at which nothing is said about the result. -/
def LogLevel.Quiet (level : LogLevel) : Prop := level ≠ .info ∧ level ≠ .warn

theorem LogLevel.quiet_debug : debug.Quiet := ⟨nofun, nofun⟩

def Subdued (events : List Event) : Prop := ∀ e ∈ events, e.level.Quiet

namespace Subdued

theorem notes {notes : List Note} (silent : ∀ n ∈ notes, n.level.Quiet) :
    Subdued (notes.map .note) := by
  intro e member
  obtain ⟨n, noted, rfl⟩ := List.mem_map.mp member
  exact silent n noted

theorem append {xs ys : List Event} (first : Subdued xs) (second : Subdued ys) :
    Subdued (xs ++ ys) := List.forall_mem_append.mpr ⟨first, second⟩

theorem bind {α β : Type} {r : Run α} {next : α → Run β} (first : Subdued r.events)
    (second : ∀ a, r.result = .ok a → Subdued (next a).events) :
    Subdued (r >>= next).events := by
  cases ended : r.result with
  | error failure => rwa [Run.bind_events_error ended]
  | ok a =>
    rw [Run.bind_events ended]
    exact first.append (second a ended)

end Subdued

/-- The events of a stage account for what it does to a graph under construction. -/
structure Accounts (events : List Event) (before after : Builder) : Prop where
  nodes : before.nodes.length + (events.map Event.nodesProduced).sum =
    after.nodes.length + events.countP Event.isDuplicate
  edges : before.edges.length + (events.map Event.edgesProduced).sum = after.edges.length

namespace Accounts

theorem append {xs ys : List Event} {b c d : Builder} (first : Accounts xs b c)
    (second : Accounts ys c d) : Accounts (xs ++ ys) b d where
  nodes := by
    have start := first.nodes
    have rest := second.nodes
    rw [List.map_append, List.sum_append, List.countP_append]
    omega
  edges := by
    have start := first.edges
    have rest := second.edges
    rw [List.map_append, List.sum_append]
    omega

theorem notes (notes : List Note) (b : Builder) : Accounts (notes.map .note) b b where
  nodes := by simp [Event.nodesProduced, Event.isDuplicate, Function.comp_def]
  edges := by simp [Event.edgesProduced, Function.comp_def]

end Accounts

namespace Builder

open Sql (Statement)

theorem insertNodes_events (b : Builder) (nodes : List Node) :
    ∃ ids : List String, (b.insertNodes nodes).events = ids.map .duplicate ∧
      b.nodes.length + nodes.length = (nodes.foldl addNode b).nodes.length + ids.length := by
  induction nodes generalizing b with
  | nil => exact ⟨[], rfl, rfl⟩
  | cons n rest ih =>
    rw [insertNodes, List.foldl_cons, List.length_cons]
    by_cases known : n.id ∈ b.seen
    · obtain ⟨ids, events, counted⟩ := ih b
      have pushed : b.pushNode n = (false, b) := by simp [pushNode, known]
      have added : b.addNode n = b := by rw [addNode, pushed]
      rw [pushed, added]
      simp only [Run.report_bind_events]
      refine ⟨n.id :: ids, by rw [events]; rfl, ?_⟩
      rw [List.length_cons]
      omega
    · obtain ⟨ids, events, counted⟩ := ih (b.addNode n)
      have pushed : b.pushNode n = (true, b.addNode n) := by simp [addNode, pushNode, known]
      have longer : (b.addNode n).nodes.length = b.nodes.length + 1 := by
        simp [addNode_eq, known]
      rw [pushed]
      exact ⟨ids, events, by omega⟩

theorem insertNodes_subdued (b : Builder) (nodes : List Node) :
    Subdued (b.insertNodes nodes).events := by
  obtain ⟨ids, events, -⟩ := b.insertNodes_events nodes
  intro e member
  rw [events] at member
  obtain ⟨id, -, rfl⟩ := List.mem_map.mp member
  exact LogLevel.quiet_debug

theorem insertNodes_accounts (b : Builder) (extractor : String) (nodes : List Node) :
    Accounts (.producedNodes extractor nodes.length :: (b.insertNodes nodes).events) b
      (nodes.foldl addNode b) := by
  obtain ⟨ids, events, counted⟩ := b.insertNodes_events nodes
  have duplicates : (ids.map Event.duplicate).countP Event.isDuplicate = ids.length := by
    simp [List.countP_map, Event.isDuplicate, Function.comp_def]
  have unproduced : ((ids.map Event.duplicate).map Event.nodesProduced).sum = 0 := by
    simp [Event.nodesProduced, Function.comp_def]
  have unjoined : ((ids.map Event.duplicate).map Event.edgesProduced).sum = 0 := by
    simp [Event.edgesProduced, Function.comp_def]
  rw [events]
  constructor
  · rw [List.map_cons, List.sum_cons, unproduced, List.countP_cons, duplicates]
    simpa [Event.nodesProduced, Event.isDuplicate] using counted
  · rw [List.map_cons, List.sum_cons, unjoined, (b.addNodes_eq nodes).2]
    rfl

theorem pushEdges_accounts (b : Builder) (extractor : String) (edges : List Edge) :
    Accounts [.producedEdges extractor edges.length] b (edges.foldl pushEdge b) := by
  have pushed := b.pushEdges_build edges
  have nodes : (edges.foldl pushEdge b).nodes = b.nodes := congrArg Graph.nodes pushed
  have joined : (edges.foldl pushEdge b).edges = b.edges ++ edges := congrArg Graph.edges pushed
  constructor
  · rw [nodes]
    rfl
  · rw [joined, List.length_append]
    rfl

theorem extractNodes_accounts {b next : Builder} {s : Statement} {es : List (Extractor Node)}
    (extracted : (b.extractNodes s es).result = .ok next) :
    Accounts (b.extractNodes s es).events b next := by
  induction es generalizing b with
  | nil =>
    cases extracted
    exact .notes [] _
  | cons e rest ih =>
    rw [extractNodes] at extracted ⊢
    by_cases handled : e.canHandle s = true
    · rw [if_pos handled] at extracted ⊢
      obtain ⟨nodes, -, continued, events⟩ := Run.bind_result_eq_ok extracted
      rw [Run.report_bind_result] at continued
      obtain ⟨added, inserted, later, more⟩ := Run.bind_result_eq_ok continued
      rw [b.insertNodes_result] at inserted
      cases inserted
      rw [events, Run.report_bind_events, more]
      have produced := b.insertNodes_accounts e.name nodes
      exact (Accounts.notes _ b).append (produced.append (ih later))
    · rw [if_neg handled] at extracted ⊢
      exact ih extracted

theorem extractEdges_accounts {b next : Builder} {s : Statement} {es : List (Extractor Edge)}
    (extracted : (b.extractEdges s es).result = .ok next) :
    Accounts (b.extractEdges s es).events b next := by
  induction es generalizing b with
  | nil =>
    cases extracted
    exact .notes [] _
  | cons e rest ih =>
    rw [extractEdges] at extracted ⊢
    by_cases handled : e.canHandle s = true
    · rw [if_pos handled] at extracted ⊢
      obtain ⟨edges, -, continued, events⟩ := Run.bind_result_eq_ok extracted
      rw [Run.report_bind_result] at continued
      rw [events, Run.report_bind_events]
      exact (Accounts.notes _ b).append ((pushEdges_accounts b e.name edges).append (ih continued))
    · rw [if_neg handled] at extracted ⊢
      exact ih extracted

end Builder

def Extractor.Silent {α : Type} (e : Extractor α) : Prop :=
  ∀ s, ∀ n ∈ (e.extract s).1, n.level.Quiet

namespace Builder

open Sql (Statement)

theorem extractNodes_subdued (b : Builder) (s : Statement) {es : List (Extractor Node)}
    (silent : ∀ e ∈ es, e.Silent) : Subdued (b.extractNodes s es).events := by
  induction es generalizing b with
  | nil => exact List.forall_mem_nil _
  | cons e rest ih =>
    rw [List.forall_mem_cons] at silent
    rw [extractNodes]
    split
    · apply Subdued.bind (Subdued.notes (silent.1 s))
      intro nodes _
      rw [Run.report_bind_events]
      refine Subdued.append (List.forall_mem_singleton.mpr LogLevel.quiet_debug) ?_
      exact (b.insertNodes_subdued nodes).bind fun next _ => ih next silent.2
    · exact ih b silent.2

theorem extractEdges_subdued (b : Builder) (s : Statement) {es : List (Extractor Edge)}
    (silent : ∀ e ∈ es, e.Silent) : Subdued (b.extractEdges s es).events := by
  induction es generalizing b with
  | nil => exact List.forall_mem_nil _
  | cons e rest ih =>
    rw [List.forall_mem_cons] at silent
    rw [extractEdges]
    split
    · apply Subdued.bind (Subdued.notes (silent.1 s))
      intro edges _
      rw [Run.report_bind_events]
      exact Subdued.append (List.forall_mem_singleton.mpr LogLevel.quiet_debug) (ih _ silent.2)
    · exact ih b silent.2

end Builder

/-- Details that account for a graph, then its dangling edges. -/
def Draws (events : List Event) (g : Graph) : Prop :=
  ∃ details b, b.build = g ∧
    events = details ++ g.dangling.map (fun e => .dangling e.source e.target) ∧
    Subdued details ∧ Accounts details .empty b

theorem Draws.after_notes {events : List Event} {g : Graph} (draws : Draws events g)
    {notes : List Note} (silent : ∀ n ∈ notes, n.level.Quiet) :
    Draws (notes.map .note ++ events) g := by
  obtain ⟨details, b, built, rfl, subdued, accounts⟩ := draws
  exact ⟨notes.map .note ++ details, b, built, (List.append_assoc ..).symm,
    (Subdued.notes silent).append subdued, (Accounts.notes notes _).append accounts⟩

theorem Subdued.none_of_level {events : List Event} (subdued : Subdued events) {level : LogLevel}
    (loud : ¬ level.Quiet) : ∀ e ∈ events, ¬ decide (e.level = level) = true := by
  intro e member
  rw [decide_eq_true_iff]
  rintro rfl
  exact loud (subdued e member)

structure Tallies (events : List Event) (g : Graph) : Prop where
  warnings : (events.countP fun e => e.level = .warn) = g.dangling.length
  infos : (events.filter fun e => e.level = .info) = []
  nodes : (events.map Event.nodesProduced).sum = g.nodes.length + events.countP Event.isDuplicate
  edges : (events.map Event.edgesProduced).sum = g.edges.length

theorem Draws.tallies {events : List Event} {g : Graph} (draws : Draws events g) :
    Tallies events g := by
  obtain ⟨details, b, rfl, rfl, subdued, accounts⟩ := draws
  have nodes := accounts.nodes
  have edges := accounts.edges
  constructor
  · rw [List.countP_append, List.countP_eq_zero.mpr (subdued.none_of_level fun quiet => quiet.2 rfl),
      List.countP_map]
    simp [Event.level, Function.comp_def]
  · rw [List.filter_append, List.filter_eq_nil_iff.mpr (subdued.none_of_level fun quiet => quiet.1 rfl),
      List.filter_map]
    simp [Event.level, Function.comp_def]
  · simp only [List.map_append, List.sum_append, List.countP_append, List.map_map,
      List.countP_map, Function.comp_def, Event.nodesProduced, Event.isDuplicate]
    simpa [Builder.build, Builder.empty] using nodes
  · simp only [List.map_append, List.sum_append, List.map_map, Function.comp_def,
      Event.edgesProduced]
    simpa [Builder.build, Builder.empty] using edges

structure Registry.Silent (r : Registry) : Prop where
  nodes : ∀ e ∈ r.nodeExtractors, e.Silent
  edges : ∀ e ∈ r.edgeExtractors, e.Silent

theorem Extraction.readPart_silent {α β : Type} {name : String} {part : Sql.Statement → Option α}
    {read : α → List Note × List β} (silent : ∀ p, ∀ n ∈ (read p).1, n.level.Quiet)
    (s : Sql.Statement) : ∀ n ∈ (readPart name part read s).1, n.level.Quiet := by
  rw [readPart]
  cases part s with
  | none => exact List.forall_mem_nil _
  | some p => exact silent p

namespace Registry

open Sql (Statement)
open Extraction (readPart_silent)

variable {r : Registry} {s : Statement}

theorem standard_silent : standard.Silent where
  nodes := by
    have tables : Extraction.baseTable.Silent :=
      readPart_silent fun _ => List.forall_mem_singleton.mpr LogLevel.quiet_debug
    have definitions : Extraction.cte.Silent :=
      readPart_silent fun _ => List.forall_mem_singleton.mpr LogLevel.quiet_debug
    have queries : Extraction.subquery.Silent := fun _ => List.forall_mem_nil _
    simp only [standard, List.forall_mem_cons]
    exact ⟨tables, definitions, queries, List.forall_mem_nil _⟩
  edges := by
    have joins : Extraction.join.Silent := readPart_silent fun select n noted => by
      obtain ⟨e, -, rfl⟩ := List.mem_map.mp noted
      exact LogLevel.quiet_debug
    exact List.forall_mem_singleton.mpr joins

theorem assemble_draws (silent : r.Silent) {g : Graph} (assembled : (r.assemble s).result = .ok g) :
    Draws (r.assemble s).events g := by
  rw [assemble] at assembled ⊢
  obtain ⟨noded, nodes, joining, events⟩ := Run.bind_result_eq_ok assembled
  obtain ⟨b, edges, built, more⟩ := Run.bind_result_eq_ok joining
  cases built
  refine ⟨(Builder.empty.extractNodes s r.nodeExtractors).events ++
    (noded.extractEdges s r.edgeExtractors).events, b, rfl, ?_, ?_, ?_⟩
  · rw [events, more, Run.report_bind_events, List.append_assoc]
    exact congrArg _ (congrArg _ (List.append_nil _))
  · exact (Builder.empty.extractNodes_subdued s silent.nodes).append
      (noded.extractEdges_subdued s silent.edges)
  · exact (Builder.extractNodes_accounts nodes).append (Builder.extractEdges_accounts edges)

theorem assemble_subdued (silent : r.Silent) {failure : Failure}
    (failed : (r.assemble s).result = .error failure) : Subdued (r.assemble s).events := by
  rw [assemble] at failed ⊢
  apply (Builder.empty.extractNodes_subdued s silent.nodes).bind
  intro noded nodes
  rw [Run.bind_result nodes] at failed
  apply (noded.extractEdges_subdued s silent.edges).bind
  intro b edges
  rw [Run.bind_result edges] at failed
  cases failed

end Registry

end JoinDiagram
