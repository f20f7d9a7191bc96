import JoinDiagram.Condition.Columns
import JoinDiagram.Proofs.Condition.Words
import JoinDiagram.Proofs.Text.CharClass
import Mathlib.Data.List.TakeWhile

namespace JoinDiagram.Condition

open Text (asciiUpper isBlank sameIgnoringCase sameIgnoringCase_length sameIgnoringCase_take_append)

/-- The first clause of a text, then each connector with the clause after it. Inside a run of blanks
    no connector begins. -/
def splitClauses (afterBlank : Bool) (cs : List Char) :
    List Char × List (List Char × List Char) :=
  match cs with
  | [] => ([], [])
  | c :: rest =>
    match if afterBlank then 0 else connectorLength (c :: rest) with
    | 0 =>
      let next := splitClauses (isBlank c) rest
      (c :: next.1, next.2)
    | n + 1 =>
      let next := splitClauses false (rest.drop n)
      ([], (c :: rest.take n, next.1) :: next.2)
termination_by cs.length
decreasing_by all_goals simp only [List.length_cons, List.length_drop]; omega

theorem splitClauses_nil (afterBlank : Bool) : splitClauses afterBlank [] = ([], []) := by
  rw [splitClauses]

theorem splitClauses_read {afterBlank : Bool} {c : Char} {rest : List Char}
    (h : afterBlank = false → connectorLength (c :: rest) = 0) :
    splitClauses afterBlank (c :: rest) =
      (c :: (splitClauses (isBlank c) rest).1, (splitClauses (isBlank c) rest).2) := by
  rw [splitClauses]
  cases afterBlank
  · simp [h rfl]
  · simp

theorem splitClauses_connector {c : Char} {rest : List Char} {n : Nat}
    (h : connectorLength (c :: rest) = n + 1) :
    splitClauses false (c :: rest) =
      ([], (c :: rest.take n, (splitClauses false (rest.drop n)).1) ::
        (splitClauses false (rest.drop n)).2) := by
  rw [splitClauses]
  simp [h]

theorem splitClauses_cut {cs : List Char} (some : connectorLength cs ≠ 0) :
    splitClauses false cs =
      ([], (cs.take (connectorLength cs), (splitClauses false (cs.drop (connectorLength cs))).1) ::
        (splitClauses false (cs.drop (connectorLength cs))).2) := by
  cases cs with
  | nil => exact absurd rfl some
  | cons c rest =>
    obtain ⟨n, long⟩ := Nat.exists_eq_succ_of_ne_zero some
    rw [long, splitClauses_connector long, List.take_succ_cons, List.drop_succ_cons]

theorem connectorLength_unblank {c : Char} (rest : List Char) (h : isBlank c = false) :
    connectorLength (c :: rest) = 0 := by
  simp [connectorLength, h]

theorem splitClauses_unblank {before : List Char} (unblank : ∀ c ∈ before, isBlank c = false)
    (rest : List Char) :
    splitClauses false (before ++ rest) =
      (before ++ (splitClauses false rest).1, (splitClauses false rest).2) := by
  induction before with
  | nil => rfl
  | cons c before ih =>
    have here := unblank c (by simp)
    rw [List.cons_append, splitClauses_read fun _ => connectorLength_unblank _ here, here,
      ih fun d member => unblank d (List.mem_cons_of_mem _ member)]
    rfl

theorem splitClauses_blank {d : Char} {rest : List Char} (unblank : isBlank d = false)
    (plain : connectiveLength (d :: rest) = 0) :
    splitClauses false (' ' :: d :: rest) =
      (' ' :: d :: (splitClauses false rest).1, (splitClauses false rest).2) := by
  have blank : isBlank ' ' = true := by decide
  have unconnected : connectorLength (' ' :: d :: rest) = 0 := by
    simp [connectorLength, blank, unblank, plain]
  rw [splitClauses_read fun _ => unconnected, splitClauses_read fun _ => connectorLength_unblank _
    unblank, unblank]

theorem clausesFrom_eq (connector clause cs : List Char) (read : List (List Char × List Char)) :
    clausesFrom connector clause cs read =
      read.reverse ++
        (connector, clause.reverse ++ (splitClauses (clause.head?.any isBlank) cs).1) ::
          (splitClauses (clause.head?.any isBlank) cs).2 := by
  fun_induction clausesFrom connector clause cs read with
  | case1 => simp [splitClauses_nil]
  | case2 connector clause read c rest blank none ih =>
    rw [ih, splitClauses_read fun _ => none]
    simp
  | case3 connector clause read c rest blank n some ih =>
    have fresh : clause.head?.any isBlank = false := by
      simp only [Bool.and_eq_true, Bool.not_eq_true'] at blank
      exact blank.2
    have same : clause.attach.reverse.unattach = clause.reverse := by simp
    rw [same] at ih
    rw [ih, fresh, splitClauses_connector some]
    simp
  | case4 connector clause read c rest inside ih =>
    -- Either a run of blanks goes on here, or there is no blank: no connector begins either way.
    have unconnected : clause.head?.any isBlank = false → connectorLength (c :: rest) = 0 := by
      intro fresh
      apply connectorLength_unblank
      simpa [fresh] using inside
    rw [ih, splitClauses_read unconnected]
    simp

theorem connectedClauses_eq (cs : List Char) :
    connectedClauses cs = ([], (splitClauses false cs).1) :: (splitClauses false cs).2 := by
  rw [connectedClauses, clausesFrom_eq]
  simp

theorem clauses_eq (cs : List Char) :
    clauses cs = (splitClauses false cs).1 :: (splitClauses false cs).2.map (·.2) := by
  rw [clauses, connectedClauses_eq, List.map_cons]

def IsConnector (k : List Char) : Prop :=
  ∃ before connective after, k = before ++ connective ++ after ∧
    before ≠ [] ∧ after ≠ [] ∧ (∀ c ∈ before, isBlank c) ∧ (∀ c ∈ after, isBlank c) ∧
    (sameIgnoringCase connective ['A', 'N', 'D'] ∨ sameIgnoringCase connective ['O', 'R'])

theorem connectiveLength_cases (cs : List Char) :
    (connectiveLength cs = 3 ∧ sameIgnoringCase (cs.take 3) ['A', 'N', 'D']) ∨
      (connectiveLength cs = 2 ∧ sameIgnoringCase (cs.take 2) ['O', 'R']) ∨
      connectiveLength cs = 0 := by
  unfold connectiveLength
  split
  · rename_i same
    exact .inl ⟨rfl, same⟩
  · split
    · rename_i same
      exact .inr (.inl ⟨rfl, same⟩)
    · exact .inr (.inr rfl)

theorem letter_of_isBlank {c : Char} (blank : isBlank c) :
    asciiUpper c ∉ ['A', 'N', 'D', 'O', 'R'] := by
  rw [Text.asciiUpper_of_isBlank blank]
  intro letter
  have unblank : ∀ d ∈ ['A', 'N', 'D', 'O', 'R'], isBlank d = false := by decide
  rw [unblank c letter] at blank
  cases blank

theorem connectiveLength_foreign (before after : List Char) {c : Char}
    (foreign : asciiUpper c ∉ ['A', 'N', 'D', 'O', 'R']) :
    connectiveLength (before ++ c :: after) = connectiveLength before := by
  have conjunction := sameIgnoringCase_take_append before after
    (show asciiUpper c ∉ ['A', 'N', 'D'].map asciiUpper from
      fun letter => foreign (List.mem_append_left ['O', 'R'] letter))
  have disjunction := sameIgnoringCase_take_append before after
    (show asciiUpper c ∉ ['O', 'R'].map asciiUpper from
      fun letter => foreign (List.mem_append_right ['A', 'N', 'D'] letter))
  simp only [List.length_cons, List.length_nil, Nat.zero_add, Nat.reduceAdd] at conjunction disjunction
  rw [connectiveLength, connectiveLength, conjunction, disjunction]

theorem connectiveLength_le (cs : List Char) : connectiveLength cs ≤ cs.length := by
  rcases connectiveLength_cases cs with ⟨long, same⟩ | ⟨long, same⟩ | none
  · have lengths := sameIgnoringCase_length same
    simp only [List.length_take, List.length_cons, List.length_nil] at lengths
    omega
  · have lengths := sameIgnoringCase_length same
    simp only [List.length_take, List.length_cons, List.length_nil] at lengths
    omega
  · omega

theorem connectorLength_le (cs : List Char) : connectorLength cs ≤ cs.length := by
  have before := (List.takeWhile_prefix isBlank (l := cs)).length_le
  have connective := connectiveLength_le (cs.drop (cs.takeWhile isBlank).length)
  have after := (List.takeWhile_prefix isBlank (l := cs.drop ((cs.takeWhile isBlank).length +
    connectiveLength (cs.drop (cs.takeWhile isBlank).length)))).length_le
  rw [List.length_drop] at connective after
  rw [connectorLength]
  split
  · omega
  · omega

theorem connectiveLength_spec {cs : List Char} (h : connectiveLength cs ≠ 0) :
    sameIgnoringCase (cs.take (connectiveLength cs)) ['A', 'N', 'D'] ∨
      sameIgnoringCase (cs.take (connectiveLength cs)) ['O', 'R'] := by
  rcases connectiveLength_cases cs with ⟨long, same⟩ | ⟨long, same⟩ | none
  · rw [long]
    exact .inl same
  · rw [long]
    exact .inr same
  · exact absurd none h

theorem take_length_takeWhile (p : Char → Bool) (cs : List Char) :
    cs.take (cs.takeWhile p).length = cs.takeWhile p := by
  have split := List.takeWhile_append_dropWhile (p := p) (l := cs)
  calc cs.take (cs.takeWhile p).length
      = (cs.takeWhile p ++ cs.dropWhile p).take (cs.takeWhile p).length := by rw [split]
    _ = cs.takeWhile p := List.take_left

theorem drop_length_takeWhile (p : Char → Bool) (cs : List Char) :
    cs.drop (cs.takeWhile p).length = cs.dropWhile p := by
  have split := List.takeWhile_append_dropWhile (p := p) (l := cs)
  calc cs.drop (cs.takeWhile p).length
      = (cs.takeWhile p ++ cs.dropWhile p).drop (cs.takeWhile p).length := by rw [split]
    _ = cs.dropWhile p := List.drop_left

theorem take_connectorLength {cs : List Char} (h : connectorLength cs ≠ 0) :
    IsConnector (cs.take (connectorLength cs)) := by
  rw [connectorLength] at h ⊢
  set before := (cs.takeWhile isBlank).length with beforeLength
  set connective := connectiveLength (cs.drop before) with connectiveIs
  set after := ((cs.drop (before + connective)).takeWhile isBlank).length with afterLength
  split at h
  · exact absurd rfl h
  · rename_i filled
    rw [if_neg filled]
    simp only [not_or] at filled
    obtain ⟨beforeFilled, connectiveFilled, afterFilled⟩ := filled
    refine ⟨cs.take before, (cs.drop before).take connective,
      (cs.drop (before + connective)).take after, ?_, ?_, ?_, ?_, ?_, ?_⟩
    · rw [List.take_add, List.take_add]
    · rw [beforeLength, take_length_takeWhile]
      exact List.ne_nil_of_length_pos (Nat.pos_of_ne_zero beforeFilled)
    · rw [afterLength, take_length_takeWhile]
      exact List.ne_nil_of_length_pos (Nat.pos_of_ne_zero afterFilled)
    · intro c member
      rw [beforeLength, take_length_takeWhile] at member
      exact List.mem_takeWhile_imp member
    · intro c member
      rw [afterLength, take_length_takeWhile] at member
      exact List.mem_takeWhile_imp member
    · exact connectiveLength_spec connectiveFilled

theorem IsConnector.bounds {k : List Char} (h : IsConnector k) :
    (∃ c rest, k = c :: rest ∧ isSeparator c) ∧ ∃ start c, k = start ++ [c] ∧ isSeparator c := by
  obtain ⟨before, connective, after, rfl, beforeFilled, afterFilled, beforeBlank, afterBlank, -⟩ := h
  have separates : ∀ c, isBlank c → isSeparator c := fun c blank => by simp [isSeparator, blank]
  obtain ⟨c, rest, rfl⟩ := List.exists_cons_of_ne_nil beforeFilled
  obtain ⟨start, d, rfl⟩ := (List.eq_nil_or_concat after).resolve_left afterFilled
  constructor
  · exact ⟨c, rest ++ connective ++ start.concat d, by simp, separates c (beforeBlank c (by simp))⟩
  · exact ⟨c :: rest ++ connective ++ start, d, by simp, separates d (afterBlank d (by simp))⟩

theorem splitClauses_rebuild (afterBlank : Bool) (cs : List Char) :
    (splitClauses afterBlank cs).1 ++
      (splitClauses afterBlank cs).2.flatMap (fun piece => piece.1 ++ piece.2) = cs := by
  fun_induction splitClauses afterBlank cs with
  | case1 => rfl
  | case2 afterBlank c rest none next ih =>
    rw [List.cons_append, ih]
  | case3 afterBlank c rest n some next ih =>
    rw [List.flatMap_cons, List.nil_append, List.append_assoc, ih, List.cons_append,
      List.take_append_drop]

theorem splitClauses_connectors (afterBlank : Bool) (cs : List Char) :
    ∀ piece ∈ (splitClauses afterBlank cs).2, IsConnector piece.1 := by
  fun_induction splitClauses afterBlank cs with
  | case1 => simp
  | case2 afterBlank c rest none next ih => exact ih
  | case3 afterBlank c rest n some next ih =>
    intro piece member
    rcases List.mem_cons.mp member with rfl | later
    · have long : connectorLength (c :: rest) = n + 1 := by
        cases afterBlank
        · simpa using some
        · simp at some
      have whole : c :: rest.take n = (c :: rest).take (connectorLength (c :: rest)) := by
        rw [long, List.take_succ_cons]
      rw [whole]
      exact take_connectorLength (by rw [long]; exact Nat.succ_ne_zero n)
    · exact ih piece later

theorem clause_bounded {cs clause : List Char} (member : clause ∈ clauses cs) :
    ∃ before after, cs = before ++ clause ++ after ∧ Bounded before clause after := by
  have rebuilt := splitClauses_rebuild false cs
  have connected := splitClauses_connectors false cs
  rw [clauses_eq] at member
  generalize splitClauses false cs = split at rebuilt connected member
  obtain ⟨first, pieces⟩ := split
  have opened : ∀ later : List (List Char × List Char), (∀ piece ∈ later, IsConnector piece.1) →
      later.flatMap (fun piece => piece.1 ++ piece.2) = [] ∨
        ∃ c rest, later.flatMap (fun piece => piece.1 ++ piece.2) = c :: rest ∧ isSeparator c := by
    intro later connectors
    cases later with
    | nil => exact .inl rfl
    | cons piece others =>
      obtain ⟨⟨c, rest, spelled, separator⟩, -⟩ := (connectors piece (by simp)).bounds
      refine .inr ⟨c, rest ++ piece.2 ++ others.flatMap (fun piece => piece.1 ++ piece.2), ?_,
        separator⟩
      rw [List.flatMap_cons, spelled]
      simp
  rcases List.mem_cons.mp member with rfl | inside
  · exact ⟨[], _, rebuilt.symm, ⟨.inl rfl, opened pieces connected⟩⟩
  · obtain ⟨piece, present, rfl⟩ := List.mem_map.mp inside
    obtain ⟨earlier, later, rfl⟩ := List.append_of_mem present
    obtain ⟨-, start, c, spelled, separator⟩ := (connected piece present).bounds
    refine ⟨first ++ earlier.flatMap (fun piece => piece.1 ++ piece.2) ++ piece.1,
      later.flatMap (fun piece => piece.1 ++ piece.2), ?_, .inr ?_, ?_⟩
    · rw [← rebuilt]
      simp
    · exact ⟨first ++ earlier.flatMap (fun piece => piece.1 ++ piece.2) ++ start, c,
        by rw [spelled]; simp, separator⟩
    · exact opened later fun other member => connected other (by simp [member])

end JoinDiagram.Condition
