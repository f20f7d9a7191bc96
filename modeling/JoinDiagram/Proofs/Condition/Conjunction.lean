import JoinDiagram.Proofs.Condition.Connected
import Mathlib.Data.List.Infix

namespace JoinDiagram.Condition

open Text (isBlank)

instance : DecidablePred IsConnective := fun _ => inferInstanceAs (Decidable (_ ∨ _))

theorem connectorLength_connector_append {k : List Char} (connector : IsConnector k)
    (rest : List Char) : connectorLength (k ++ rest) ≠ 0 :=
  (connectorLength_append rest (List.forall_mem_nil _) connector).1

theorem connectorLength_eq (cs : List Char) :
    connectorLength cs =
      if cs.takeWhile isBlank = [] ∨ connectiveLength (cs.dropWhile isBlank) = 0 ∨
        ((cs.dropWhile isBlank).drop (connectiveLength (cs.dropWhile isBlank))).takeWhile isBlank =
          [] then 0
      else (cs.takeWhile isBlank).length + connectiveLength (cs.dropWhile isBlank) +
        (((cs.dropWhile isBlank).drop
          (connectiveLength (cs.dropWhile isBlank))).takeWhile isBlank).length := by
  simp only [connectorLength, ← List.drop_drop, drop_length_takeWhile, List.length_eq_zero_iff]

theorem connectorLength_inside {b : Char} {rest : List Char} (blank : isBlank b)
    (none : connectorLength (b :: rest) = 0) : connectorLength rest = 0 := by
  by_contra some
  have connector := take_connectorLength some
  have lead : ∀ d ∈ [b], isBlank d := by simpa using blank
  have longer := (connectorLength_append (rest.drop (connectorLength rest)) lead connector).1
  rw [List.take_append_drop, List.singleton_append] at longer
  exact longer none

theorem splitClauses_step {c : Char} {rest : List Char} (none : connectorLength (c :: rest) = 0) :
    splitClauses false (c :: rest) =
      (c :: (splitClauses false rest).1, (splitClauses false rest).2) := by
  have same : splitClauses (isBlank c) rest = splitClauses false rest := by
    cases blank : isBlank c with
    | false => rfl
    | true =>
      cases rest with
      | nil => rw [splitClauses_nil, splitClauses_nil]
      | cons d others =>
        have later : connectorLength (d :: others) = 0 := connectorLength_inside blank none
        rw [splitClauses_inside, splitClauses_read fun _ => later]
  rw [splitClauses_read fun _ => none, same]

/-- Induction along the scan: a character is read, or a connector is cut off. -/
@[elab_as_elim]
theorem scan_induction {motive : List Char → Prop} (cs : List Char) (nil : motive [])
    (read : ∀ c rest, connectorLength (c :: rest) = 0 → motive rest → motive (c :: rest))
    (cut : ∀ cs, connectorLength cs ≠ 0 → motive (cs.drop (connectorLength cs)) → motive cs) :
    motive cs := by
  match cs with
  | [] => exact nil
  | c :: rest =>
    by_cases none : connectorLength (c :: rest) = 0
    · exact read c rest none (scan_induction rest nil read cut)
    · exact cut (c :: rest) none (scan_induction _ nil read cut)
termination_by cs.length
decreasing_by all_goals simp only [List.length_cons, List.length_drop]; omega

structure Split (text : List Char) (pieces : List (List Char × List Char)) : Prop where
  rebuilt : pieces.flatMap (fun piece => piece.1 ++ piece.2) = text
  opened : pieces.head?.map (·.1) = some []
  connected : ∀ piece ∈ pieces.tail, IsConnector piece.1
  connectorless : ∀ piece ∈ pieces, ∀ k, k <:+: piece.2 → ¬ IsConnector k

theorem splitClauses_connectorless (cs : List Char) :
    (∀ k, k <:+: (splitClauses false cs).1 → ¬ IsConnector k) ∧
      ∀ piece ∈ (splitClauses false cs).2, ∀ k, k <:+: piece.2 → ¬ IsConnector k := by
  have filled : ∀ k, k <:+: [] → ¬ IsConnector k := by
    intro k inside connector
    obtain ⟨⟨c, rest, spelled, -⟩, -⟩ := connector.bounds
    rw [List.infix_nil.mp inside] at spelled
    cases spelled
  induction cs using scan_induction with
  | nil =>
    rw [splitClauses_nil]
    exact ⟨filled, List.forall_mem_nil _⟩
  | read c rest none ih =>
    have rebuilt := splitClauses_rebuild false (c :: rest)
    rw [splitClauses_step none] at rebuilt ⊢
    refine ⟨?_, ih.2⟩
    intro k inside connector
    rcases List.infix_cons_iff.mp inside with here | later
    · -- A connector at the front of the clause would have been cut off there.
      obtain ⟨after, spelled⟩ := here
      rw [← spelled, List.append_assoc] at rebuilt
      rw [← rebuilt] at none
      exact connectorLength_connector_append connector _ none
    · exact ih.1 k later connector
  | cut cs some ih =>
    rw [splitClauses_cut some]
    refine ⟨filled, ?_⟩
    intro piece member
    rcases List.mem_cons.mp member with rfl | later
    · exact ih.1
    · exact ih.2 piece later

theorem connectedClauses_split (text : List Char) : Split text (connectedClauses text) := by
  have connectorless := splitClauses_connectorless text
  rw [connectedClauses_eq]
  refine ⟨?_, rfl, splitClauses_connectors false text, ?_⟩
  · simpa using splitClauses_rebuild false text
  · intro piece member
    rcases List.mem_cons.mp member with rfl | later
    · exact connectorless.1
    · exact connectorless.2 piece later

/-- A text whose end is no part of a connector, whatever follows: it ends neither in a blank nor in a
    connective after a blank. -/
structure Closed (cs : List Char) : Prop where
  solid : ∀ b, [b] <:+ cs → isBlank b = false
  complete : ∀ b word, b :: word <:+ cs → isBlank b → ¬ IsConnective word

instance : DecidablePred Closed := fun cs =>
  decidable_of_iff (∀ tail ∈ cs.tails, ∀ b ∈ tail.take 1, isBlank b →
      tail.tail ≠ [] ∧ ¬ IsConnective tail.tail) <| by
    constructor
    · intro tails
      refine ⟨?_, ?_⟩
      · intro b last
        by_contra blank
        have apart := tails [b] ((List.mem_tails _ _).mpr last) b (by simp) (by simpa using blank)
        exact apart.1 rfl
      · intro b word last blank
        exact (tails (b :: word) ((List.mem_tails _ _).mpr last) b (by simp) blank).2
    · intro closed tail member b first blank
      have last := (List.mem_tails _ _).mp member
      cases tail with
      | nil => cases first
      | cons c word =>
        obtain rfl : b = c := by simpa using first
        refine ⟨?_, closed.complete b word last blank⟩
        rintro rfl
        rw [closed.solid b last] at blank
        cases blank

namespace Closed

variable {cs ds : List Char}

theorem of_suffix (closed : Closed cs) (suffix : ds <:+ cs) : Closed ds where
  solid b last := closed.solid b (last.trans suffix)
  complete b word last := closed.complete b word (last.trans suffix)

theorem takeWhile_append (closed : Closed cs) (filled : cs ≠ []) (rest : List Char) :
    (cs ++ rest).takeWhile isBlank = cs.takeWhile isBlank := by
  rw [List.takeWhile_append, if_neg]
  intro whole
  obtain ⟨start, c, rfl⟩ := (List.eq_nil_or_concat cs).resolve_left filled
  have all := (List.takeWhile_prefix isBlank).eq_of_length whole
  have blank : isBlank c := List.takeWhile_eq_self_iff.mp all c (by simp)
  rw [closed.solid c ⟨start, by simp⟩] at blank
  cases blank

theorem dropWhile_append (closed : Closed cs) (filled : cs ≠ []) (rest : List Char) :
    (cs ++ rest).dropWhile isBlank = cs.dropWhile isBlank ++ rest := by
  have within : (cs.takeWhile isBlank).length ≤ cs.length :=
    (List.takeWhile_prefix isBlank).length_le
  rw [← drop_length_takeWhile, closed.takeWhile_append filled,
    List.drop_append_of_le_length within, drop_length_takeWhile]

theorem drop_connective_ne_nil (closed : Closed cs) (lead : cs.takeWhile isBlank ≠ [])
    (connective : connectiveLength (cs.dropWhile isBlank) ≠ 0) :
    (cs.dropWhile isBlank).drop (connectiveLength (cs.dropWhile isBlank)) ≠ [] := by
  intro ended
  have word := connectiveLength_spec connective
  rw [List.take_of_length_le (List.drop_eq_nil_iff.mp ended)] at word
  obtain ⟨start, b, spelled⟩ := (List.eq_nil_or_concat (cs.takeWhile isBlank)).resolve_left lead
  have blank : isBlank b := List.mem_takeWhile_imp (l := cs) (by rw [spelled]; simp)
  have suffix : b :: cs.dropWhile isBlank <:+ cs := by
    refine ⟨start, ?_⟩
    rw [← List.singleton_append, ← List.append_assoc, ← List.concat_eq_append, ← spelled,
      List.takeWhile_append_dropWhile]
  exact closed.complete b _ suffix blank word

theorem connectorLength_append (closed : Closed cs) (filled : cs ≠ []) {b : Char}
    (blank : isBlank b) (rest : List Char) :
    connectorLength (cs ++ b :: rest) = connectorLength cs := by
  rw [connectorLength_eq, connectorLength_eq, closed.takeWhile_append filled,
    closed.dropWhile_append filled, connectiveLength_foreign _ _ (letter_of_isBlank blank)]
  by_cases none : cs.takeWhile isBlank = [] ∨ connectiveLength (cs.dropWhile isBlank) = 0
  · rw [if_pos (or_assoc.mp (.inl none)), if_pos (or_assoc.mp (.inl none))]
  · rw [not_or] at none
    have goesOn := closed.drop_connective_ne_nil none.1 none.2
    have later : Closed ((cs.dropWhile isBlank).drop (connectiveLength (cs.dropWhile isBlank))) :=
      closed.of_suffix ((List.drop_suffix _ _).trans (List.dropWhile_suffix _))
    rw [List.drop_append_of_le_length (connectiveLength_le _), later.takeWhile_append goesOn]

end Closed

theorem connectorLength_of_fresh {k rest : List Char} (connector : IsConnector k)
    (fresh : rest.head?.any isBlank = false) : connectorLength (k ++ rest) = k.length := by
  obtain ⟨-, dropped⟩ := connectorLength_append rest (List.forall_mem_nil _) connector
  have kept : rest.dropWhile isBlank = rest := by
    cases rest with
    | nil => rfl
    | cons c others => exact List.dropWhile_cons_of_neg (by simpa using fresh)
  have lengths := congrArg List.length dropped
  have bound := connectorLength_le (k ++ rest)
  rw [List.nil_append, kept, List.length_drop] at lengths
  rw [List.length_append] at lengths bound
  omega

/-- The step and the run of the scan across a connector: up to a connector after a closed text it
    finds what it finds in that text alone, and from there on what it finds in the rest alone. -/
theorem splitClauses_conjoined {cs k rest : List Char} (closed : Closed cs)
    (connector : IsConnector k) (fresh : rest.head?.any isBlank = false) :
    splitClauses false (cs ++ (k ++ rest)) =
      ((splitClauses false cs).1,
        (splitClauses false cs).2 ++ (k, (splitClauses false rest).1) ::
          (splitClauses false rest).2) := by
  obtain ⟨b, others, rfl, blank⟩ : ∃ b others, k = b :: others ∧ isBlank b := by
    obtain ⟨before, connective, after, rfl, filled, -, blank, -⟩ := connector
    obtain ⟨b, others, rfl⟩ := List.exists_cons_of_ne_nil filled
    exact ⟨b, others ++ connective ++ after, by simp, blank b (by simp)⟩
  induction cs using scan_induction with
  | nil =>
    have long := connectorLength_of_fresh connector fresh
    rw [List.nil_append, splitClauses_nil,
      splitClauses_cut (connectorLength_connector_append connector rest), long, List.take_left,
      List.drop_left, List.nil_append]
  | read c cs none ih =>
    have unconnected : connectorLength (c :: (cs ++ (b :: others ++ rest))) = 0 := by
      rw [← none]
      exact closed.connectorLength_append (List.cons_ne_nil c cs) blank (others ++ rest)
    rw [List.cons_append, splitClauses_step unconnected, splitClauses_step none,
      ih (closed.of_suffix (List.suffix_cons c cs))]
  | cut cs some ih =>
    have filled : cs ≠ [] := by
      rintro rfl
      exact some rfl
    have same : connectorLength (cs ++ (b :: others ++ rest)) = connectorLength cs :=
      closed.connectorLength_append filled blank (others ++ rest)
    have within := connectorLength_le cs
    rw [splitClauses_cut (by rw [same]; exact some), same, List.take_append_of_le_length within,
      List.drop_append_of_le_length within, ih (closed.of_suffix (List.drop_suffix _ cs)),
      splitClauses_cut some, List.cons_append]

theorem columns_eq_pieces (condition : String) :
    columns condition =
      (connectedClauses condition.toList).flatMap fun piece => clauseColumns piece.2 := by
  rw [columns_eq, clauses, List.flatMap_map]

/-- The columns of a conjunction are those of its two parts. Every condition is cut into clauses and
    the connectors between them; no clause holds another connector, and the columns of the condition
    are those of its clauses. -/
theorem columns_conjunction :
    (∀ before k after : String, Closed before.toList → IsConnector k.toList →
      after.toList.head?.any isBlank = false →
        columns (before ++ k ++ after) = columns before ++ columns after ∧
        edgeColumns (before ++ k ++ after) = edgeColumns before ++ edgeColumns after) ∧
    ∀ condition : String,
      Split condition.toList (connectedClauses condition.toList) ∧
      columns condition =
        (connectedClauses condition.toList).flatMap fun piece => clauseColumns piece.2 := by
  constructor
  · intro before k after closed connector fresh
    have joined : columns (before ++ k ++ after) = columns before ++ columns after := by
      simp only [columns_eq, clauses_eq, String.toList_append, List.append_assoc,
        splitClauses_conjoined closed connector fresh, List.map_append, List.map_cons,
        ← List.cons_append, List.flatMap_append]
    refine ⟨joined, ?_⟩
    rw [edgeColumns, joined, List.map_append, edgeColumns, edgeColumns]
  · intro condition
    exact ⟨connectedClauses_split _, columns_eq_pieces condition⟩

theorem columns_conjunction_connectives :
    Closed "a.x = b.and".toList ∧ IsConnector " \tOr\n".toList ∧
      "and.y = or.z".toList.head?.any isBlank = false ∧
      columns "a.x = b.and \tOr\nand.y = or.z" =
        [("a", "x"), ("b", "and"), ("and", "y"), ("or", "z")] ∧
      edgeColumns "a.x = b.and \tOr\nand.y = or.z" = ["x", "and", "y", "z"] := by
  have closed : Closed "a.x = b.and".toList := by decide +kernel
  have connector : IsConnector " \tOr\n".toList :=
    ⟨[' ', '\t'], ['O', 'r'], ['\n'], by decide, by decide, by decide, by decide, by decide,
      .inr (by decide)⟩
  have fresh : "and.y = or.z".toList.head?.any isBlank = false := by decide
  obtain ⟨pairs, fields⟩ := columns_conjunction.1 _ _ _ closed connector fresh
  have spelled : "a.x = b.and" ++ " \tOr\n" ++ "and.y = or.z" =
      "a.x = b.and \tOr\nand.y = or.z" := by decide
  rw [spelled] at pairs fields
  have parts : columns "a.x = b.and" = [("a", "x"), ("b", "and")] ∧
      columns "and.y = or.z" = [("and", "y"), ("or", "z")] := by decide +kernel
  have named : edgeColumns "a.x = b.and" = ["x", "and"] ∧
      edgeColumns "and.y = or.z" = ["y", "z"] := by decide +kernel
  rw [parts.1, parts.2] at pairs
  rw [named.1, named.2] at fields
  exact ⟨closed, connector, fresh, pairs, fields⟩

end JoinDiagram.Condition
