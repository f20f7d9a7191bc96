import JoinDiagram.Proofs.Condition.Equality

namespace JoinDiagram.Condition

open Text (asciiUpper isBlank sameIgnoringCase sameIgnoringCase_length)

structure Foreign (c : Char) : Prop where
  solid : isBlank c = false
  letter : asciiUpper c ∉ ['A', 'N', 'D', 'O', 'R']

instance : DecidablePred Foreign := fun c =>
  decidable_of_iff (isBlank c = false ∧ asciiUpper c ∉ ['A', 'N', 'D', 'O', 'R'])
    ⟨fun ⟨solid, letter⟩ => ⟨solid, letter⟩, fun foreign => ⟨foreign.solid, foreign.letter⟩⟩

/-- A text in which no connective stands by itself: each of its pieces between blanks has a character
    that belongs to no connective. -/
inductive Unconnected : List Char → Prop
  | blanks {bs : List Char} (blank : ∀ d ∈ bs, isBlank d) : Unconnected bs
  | piece {bs before : List Char} {c : Char} {after rest : List Char} (blank : ∀ d ∈ bs, isBlank d)
      (solid : ∀ d ∈ before ++ after, isBlank d = false) (foreign : Foreign c)
      (later : Unconnected rest) : Unconnected (bs ++ (before ++ c :: after) ++ rest)

namespace Unconnected

theorem append {cs ds : List Char} (first : Unconnected cs) (second : Unconnected ds) :
    Unconnected (cs ++ ds) := by
  induction first with
  | @blanks bs blank =>
    cases second with
    | blanks otherBlank =>
      refine .blanks fun d member => ?_
      rcases List.mem_append.mp member with inside | inside
      · exact blank d inside
      · exact otherBlank d inside
    | @piece others before c after rest otherBlank solid foreign later =>
      have all : ∀ d ∈ bs ++ others, isBlank d := by
        intro d member
        rcases List.mem_append.mp member with inside | inside
        · exact blank d inside
        · exact otherBlank d inside
      simpa using piece all solid foreign later
  | piece blank solid foreign _ ih => simpa using piece blank solid foreign ih

theorem nil : Unconnected [] := .blanks (List.forall_mem_nil _)

theorem word (before : List Char) {c : Char} (after : List Char)
    (solid : ∀ d ∈ before ++ after, isBlank d = false) (foreign : Foreign c) :
    Unconnected (before ++ c :: after) := by
  simpa using piece (List.forall_mem_nil _) solid foreign nil

theorem dropWhile {cs : List Char} (plain : Unconnected cs) :
    Unconnected (cs.dropWhile isBlank) := by
  cases plain with
  | blanks blank =>
    have gone : List.dropWhile isBlank cs = [] := by simpa using blank
    rw [gone]
    exact nil
  | @piece bs before c after rest blank solid foreign later =>
    have kept : List.dropWhile isBlank (before ++ c :: after ++ rest) =
        before ++ c :: after ++ rest := by
      cases before with
      | nil => simp [foreign.solid]
      | cons d others => simp [solid d (by simp)]
    rw [List.append_assoc, List.dropWhile_append_of_pos blank, kept]
    exact (word before after solid foreign).append later

theorem of_loose {cs : List Char} (loose : ∀ c ∈ cs, isLoose c) : Unconnected cs := by
  induction cs with
  | nil => exact .nil
  | cons c rest ih =>
    have later := ih fun d member => loose d (List.mem_cons_of_mem c member)
    have here := loose c List.mem_cons_self
    simp only [isLoose, Bool.or_eq_true, beq_iff_eq] at here
    have alone : Unconnected [c] := by
      rcases here with (blank | rfl) | rfl
      · exact .blanks (by simpa using blank)
      · exact .word [] [] (by simp) (by decide)
      · exact .word [] [] (by simp) (by decide)
    exact alone.append later

end Unconnected

theorem takeWhile_solid {before : List Char} {c : Char} (rest : List Char)
    (solid : ∀ d ∈ before, isBlank d = false) (here : isBlank c = false) :
    (before ++ c :: rest).takeWhile isBlank = [] := by
  cases before with
  | nil => simp [here]
  | cons d others => simp [solid d (by simp)]

theorem connectorLength_foreign {bs before : List Char} {c : Char} (rest : List Char)
    (blank : ∀ d ∈ bs, isBlank d) (solid : ∀ d ∈ before, isBlank d = false) (foreign : Foreign c) :
    connectorLength (bs ++ (before ++ c :: rest)) = 0 := by
  have leading : (bs ++ (before ++ c :: rest)).takeWhile isBlank = bs := by
    rw [List.takeWhile_append_of_pos blank, takeWhile_solid rest solid foreign.solid,
      List.append_nil]
  have short := connectiveLength_le before
  have following : ((before ++ c :: rest).drop (connectiveLength before)).takeWhile isBlank = [] := by
    rw [List.drop_append_of_le_length short]
    exact takeWhile_solid rest (fun d member => solid d (List.mem_of_mem_drop member)) foreign.solid
  rw [connectorLength, leading, List.drop_left, connectiveLength_foreign _ _ foreign.letter,
    ← List.drop_drop, List.drop_left, following]
  simp

theorem splitClauses_inside (c : Char) (rest : List Char) :
    splitClauses true (c :: rest) =
      (c :: (splitClauses (isBlank c) rest).1, (splitClauses (isBlank c) rest).2) :=
  splitClauses_read (by simp)

theorem splitClauses_skip {bs : List Char} {c : Char} (rest : List Char)
    (blank : ∀ d ∈ bs, isBlank d) (solid : isBlank c = false) :
    splitClauses true (bs ++ c :: rest) =
      (bs ++ (splitClauses false (c :: rest)).1, (splitClauses false (c :: rest)).2) := by
  induction bs with
  | nil =>
    rw [List.nil_append, splitClauses_inside,
      splitClauses_read fun _ => connectorLength_unblank rest solid]
    rfl
  | cons b others ih =>
    rw [List.cons_append, splitClauses_inside,
      blank b (by simp), ih fun d member => blank d (List.mem_cons_of_mem b member)]
    rfl

theorem splitClauses_piece {bs before : List Char} {c : Char} {after : List Char} (rest : List Char)
    (blank : ∀ d ∈ bs, isBlank d) (solid : ∀ d ∈ before ++ after, isBlank d = false)
    (foreign : Foreign c) :
    splitClauses false (bs ++ (before ++ c :: after) ++ rest) =
      (bs ++ (before ++ c :: after) ++ (splitClauses false rest).1, (splitClauses false rest).2) := by
  have whole : ∀ d ∈ before ++ c :: after, isBlank d = false := by
    intro d member
    rcases List.mem_append.mp member with inside | inside
    · exact solid d (List.mem_append_left after inside)
    · rcases List.mem_cons.mp inside with rfl | later
      · exact foreign.solid
      · exact solid d (List.mem_append_right before later)
  have read := splitClauses_unblank whole rest
  obtain ⟨d, others, split⟩ := List.exists_cons_of_ne_nil (show before ++ c :: after ≠ [] by simp)
  cases bs with
  | nil => simpa using read
  | cons b bs =>
    have unconnected : connectorLength (b :: bs ++ (before ++ c :: after) ++ rest) = 0 := by
      have none := connectorLength_foreign (after ++ rest) blank
        (fun d member => solid d (List.mem_append_left after member)) foreign
      simpa using none
    have here : isBlank d = false := whole d (by rw [split]; exact List.mem_cons_self)
    rw [split, List.append_assoc, List.cons_append, List.cons_append] at unconnected ⊢
    rw [split, List.cons_append] at read
    rw [splitClauses_read fun _ => unconnected, blank b (by simp),
      splitClauses_skip _ (fun d member => blank d (List.mem_cons_of_mem b member)) here, read]
    simp

theorem splitClauses_blanks {bs : List Char} (blank : ∀ d ∈ bs, isBlank d) (afterBlank : Bool) :
    splitClauses afterBlank bs = (bs, []) := by
  induction bs generalizing afterBlank with
  | nil => exact splitClauses_nil afterBlank
  | cons b others ih =>
    have leading : (b :: others).takeWhile isBlank = b :: others :=
      List.takeWhile_eq_self_iff.mpr blank
    have unconnected : connectorLength (b :: others) = 0 := by
      rw [connectorLength, leading, List.drop_length]
      simp [connectiveLength, sameIgnoringCase]
    rw [splitClauses_read fun _ => unconnected,
      ih fun d member => blank d (List.mem_cons_of_mem b member)]

theorem splitClauses_last {cs : List Char} (plain : Unconnected cs) :
    splitClauses false cs = (cs, []) := by
  induction plain with
  | blanks blank => exact splitClauses_blanks blank false
  | piece blank solid foreign later ih =>
    rw [splitClauses_piece _ blank solid foreign, ih]

def IsConnective (cs : List Char) : Prop :=
  sameIgnoringCase cs ['A', 'N', 'D'] ∨ sameIgnoringCase cs ['O', 'R']

namespace IsConnective

variable {connective : List Char}

theorem letters (word : IsConnective connective) :
    ∀ c ∈ connective, asciiUpper c ∈ ['A', 'N', 'D', 'O', 'R'] := by
  intro c member
  have mapped := List.mem_map_of_mem (f := asciiUpper) member
  rcases word with same | same
  · rw [beq_iff_eq.mp same] at mapped
    exact List.mem_append_left ['O', 'R'] mapped
  · rw [beq_iff_eq.mp same] at mapped
    exact List.mem_append_right ['A', 'N', 'D'] mapped

theorem solid (word : IsConnective connective) : ∀ c ∈ connective, isBlank c = false := by
  intro c member
  by_contra blank
  exact letter_of_isBlank (by simpa using blank) (word.letters c member)

theorem filled (word : IsConnective connective) : connective ≠ [] := by
  rintro rfl
  exact absurd word (by simp [IsConnective, sameIgnoringCase])

theorem length_eq (word : IsConnective connective) (rest : List Char) :
    connectiveLength (connective ++ rest) = connective.length := by
  rcases word with same | same
  · have long : connective.length = 3 := sameIgnoringCase_length same
    have taken : (connective ++ rest).take 3 = connective := by rw [← long, List.take_left]
    rw [connectiveLength, taken, if_pos same, long]
  · have long : connective.length = 2 := sameIgnoringCase_length same
    have taken : (connective ++ rest).take 2 = connective := by rw [← long, List.take_left]
    -- The longer connective does not begin with the letter of the shorter one.
    have other : ¬ sameIgnoringCase ((connective ++ rest).take 3) ['A', 'N', 'D'] := by
      intro conjunction
      obtain ⟨c, d, rfl⟩ := List.length_eq_two.mp long
      simp only [sameIgnoringCase, beq_iff_eq, List.cons_append, List.take_succ_cons, List.map_cons,
        List.cons.injEq] at conjunction same
      rw [conjunction.1] at same
      exact absurd same.1 (by decide)
    rw [connectiveLength, if_neg other, taken, if_pos same, long]

end IsConnective

theorem IsConnector.undotted {k : List Char} (connector : IsConnector k) : '.' ∉ k := by
  obtain ⟨before, connective, after, rfl, -, -, beforeBlank, afterBlank, word⟩ := connector
  have dot : isBlank '.' = false ∧ asciiUpper '.' ∉ ['A', 'N', 'D', 'O', 'R'] := by decide
  intro member
  rcases List.mem_append.mp member with inside | inside
  · rcases List.mem_append.mp inside with first | second
    · exact absurd (beforeBlank '.' first) (by simp [dot.1])
    · exact dot.2 (IsConnective.letters word '.' second)
  · exact absurd (afterBlank '.' inside) (by simp [dot.1])

theorem connectorLength_connective {bs connective rest : List Char} (filled : bs ≠ [])
    (blank : ∀ d ∈ bs, isBlank d) (word : IsConnective connective)
    (follows : rest.takeWhile isBlank ≠ []) :
    connectorLength (bs ++ (connective ++ rest)) =
      bs.length + connective.length + (rest.takeWhile isBlank).length := by
  obtain ⟨c, others, rfl⟩ := List.exists_cons_of_ne_nil word.filled
  have leading : (bs ++ (c :: others ++ rest)).takeWhile isBlank = bs := by
    rw [List.takeWhile_append_of_pos blank, List.cons_append, List.takeWhile_cons_of_neg,
      List.append_nil]
    simp [word.solid c (by simp)]
  have before : bs.length ≠ 0 := fun none => filled (List.length_eq_zero_iff.mp none)
  have after : (rest.takeWhile isBlank).length ≠ 0 :=
    fun none => follows (List.length_eq_zero_iff.mp none)
  rw [connectorLength, leading, List.drop_left, word.length_eq, ← List.drop_drop, List.drop_left,
    List.drop_left]
  simp only [List.length_cons]
  rw [if_neg (by omega)]

theorem connectorLength_append {bs k : List Char} (rest : List Char) (blank : ∀ d ∈ bs, isBlank d)
    (connector : IsConnector k) :
    connectorLength (bs ++ (k ++ rest)) ≠ 0 ∧
      (bs ++ (k ++ rest)).drop (connectorLength (bs ++ (k ++ rest))) = rest.dropWhile isBlank := by
  obtain ⟨before, connective, after, rfl, beforeFilled, afterFilled, beforeBlank, afterBlank, word⟩ :=
    connector
  have spelled : bs ++ (before ++ connective ++ after ++ rest) =
      (bs ++ before) ++ (connective ++ (after ++ rest)) := by simp
  have blanks : ∀ d ∈ bs ++ before, isBlank d := by
    intro d member
    rcases List.mem_append.mp member with inside | inside
    · exact blank d inside
    · exact beforeBlank d inside
  have trailing : (after ++ rest).takeWhile isBlank = after ++ rest.takeWhile isBlank :=
    List.takeWhile_append_of_pos afterBlank
  have follows : (after ++ rest).takeWhile isBlank ≠ [] := by simp [trailing, afterFilled]
  rw [spelled, connectorLength_connective (by simp [beforeFilled]) blanks word follows]
  constructor
  · have positive : 0 < connective.length := List.length_pos_iff.mpr (IsConnective.filled word)
    omega
  · have split : after ++ rest.takeWhile isBlank ++ rest.dropWhile isBlank = after ++ rest := by
      rw [List.append_assoc, List.takeWhile_append_dropWhile]
    rw [← List.drop_drop, ← List.drop_drop, List.drop_left, List.drop_left, trailing, ← split,
      List.drop_left]

theorem splitClauses_connector_append {bs k : List Char} (rest : List Char)
    (blank : ∀ d ∈ bs, isBlank d) (connector : IsConnector k) :
    ∃ whole, splitClauses false (bs ++ (k ++ rest)) =
      ([], (whole, (splitClauses false (rest.dropWhile isBlank)).1) ::
        (splitClauses false (rest.dropWhile isBlank)).2) := by
  obtain ⟨positive, dropped⟩ := connectorLength_append rest blank connector
  exact ⟨_, by rw [splitClauses_cut positive, dropped]⟩

/-- The step of the scan along connected texts: up to the connector, and without the blanks in front of
    it, the first text is a clause. -/
theorem splitClauses_unconnected {cs k : List Char} (plain : Unconnected cs)
    (connector : IsConnector k) (rest : List Char) :
    ∃ clause bs whole, cs = clause ++ bs ∧ (∀ d ∈ bs, isBlank d) ∧
      splitClauses false (cs ++ (k ++ rest)) =
        (clause, (whole, (splitClauses false (rest.dropWhile isBlank)).1) ::
          (splitClauses false (rest.dropWhile isBlank)).2) := by
  induction plain with
  | @blanks bs blank =>
    obtain ⟨whole, split⟩ := splitClauses_connector_append rest blank connector
    exact ⟨[], bs, whole, rfl, blank, split⟩
  | @piece bs before c after others blank solid foreign _ ih =>
    obtain ⟨clause, trailing, whole, rfl, trailingBlank, split⟩ := ih
    refine ⟨bs ++ (before ++ c :: after) ++ clause, trailing, whole, by simp, trailingBlank, ?_⟩
    rw [List.append_assoc, splitClauses_piece _ blank solid foreign, split]

theorem any_getLast_append {bs cs : List Char} {p : Char → Bool} (none : ∀ d ∈ bs, p d = false) :
    (bs ++ cs).getLast?.any p = cs.getLast?.any p := by
  rw [List.getLast?_append]
  cases cs.getLast? with
  | some c => rfl
  | none =>
    cases last : bs.getLast? with
    | none => rfl
    | some d => simp [none d (List.mem_of_getLast? last)]

theorem any_head_append {bs cs : List Char} {p : Char → Bool} (none : ∀ d ∈ bs, p d = false) :
    (cs ++ bs).head?.any p = cs.head?.any p := by
  rw [List.head?_append]
  cases cs.head? with
  | some c => rfl
  | none =>
    cases first : bs.head? with
    | none => rfl
    | some d => simp [none d (List.mem_of_head? first)]

theorem splitEquality_strip {bs trailing : List Char} (clause : List Char)
    (blank : ∀ d ∈ bs, isBlank d) (trailingBlank : ∀ d ∈ trailing, isBlank d) :
    splitEquality (bs ++ clause ++ trailing) =
      (splitEquality clause).map fun sides => (bs ++ sides.1, sides.2 ++ trailing) := by
  have unmarked : ∀ marks : List Char, (∀ d ∈ marks, isBlank d = false) →
      ∀ {cs : List Char}, (∀ d ∈ cs, isBlank d) → ∀ d ∈ cs, marks.contains d = false := by
    intro marks solid cs blank d member
    by_contra listed
    rw [Bool.not_eq_false, List.contains_iff_mem] at listed
    have here := blank d member
    rw [solid d listed] at here
    cases here
  have unequal : ∀ {cs : List Char}, (∀ d ∈ cs, isBlank d) → '=' ∉ cs :=
    fun blank equal => absurd (blank '=' equal) (by decide)
  by_cases equal : '=' ∈ clause
  · obtain ⟨left, right, rfl, unequalLeft⟩ := List.eq_append_cons_of_mem equal
    have whole : bs ++ (left ++ '=' :: right) ++ trailing =
        (bs ++ left) ++ '=' :: (right ++ trailing) := by simp
    rw [whole, splitEquality_append _ (by simp [unequal blank, unequalLeft]),
      splitEquality_append _ unequalLeft,
      any_getLast_append (unmarked ['<', '>', '!'] (by decide) blank),
      any_head_append (unmarked ['=', '>'] (by decide) trailingBlank)]
    split <;> rfl
  · rw [splitEquality_of_notMem equal, splitEquality_of_notMem
      (by simp [unequal blank, unequal trailingBlank, equal])]
    rfl

theorem clauseColumns_strip (bs clause trailing : List Char)
    (blank : ∀ d ∈ bs, isBlank d) (trailingBlank : ∀ d ∈ trailing, isBlank d) :
    clauseColumns (bs ++ clause ++ trailing) = clauseColumns clause := by
  have left : ∀ side, sideColumn (bs ++ side) = sideColumn side := by
    intro side
    have same := bareSide_loose bs side []
      (fun d member => by simp [isLoose, blank d (by simpa using member)])
    rw [List.append_nil] at same
    rw [sideColumn, same, sideColumn]
  have right : ∀ side, sideColumn (side ++ trailing) = sideColumn side := by
    intro side
    have same := bareSide_loose [] side trailing
      (fun d member => by simp [isLoose, trailingBlank d (by simpa using member)])
    rw [List.nil_append] at same
    rw [sideColumn, same, sideColumn]
  simp only [clauseColumns_eq_getD, splitEquality_strip clause blank trailingBlank, Option.map_map,
    Function.comp_def, left, right]

def connect (first : List Char) (more : List (List Char × List Char)) : List Char :=
  first ++ more.flatMap fun link => link.1 ++ link.2

theorem clauseColumns_connect {first : List Char} {more : List (List Char × List Char)}
    (plain : Unconnected first)
    (links : ∀ link ∈ more, IsConnector link.1 ∧ Unconnected link.2 ∧
      link.2.dropWhile isBlank ≠ []) :
    (clauses (connect first more)).flatMap clauseColumns =
      clauseColumns first ++ more.flatMap fun link => clauseColumns link.2 := by
  induction more generalizing first with
  | nil =>
    rw [connect, List.flatMap_nil, List.append_nil, clauses_eq, splitClauses_last plain]
    simp
  | cons link rest ih =>
    obtain ⟨connector, next, filled⟩ := links link List.mem_cons_self
    have later := ih next.dropWhile fun other member => links other (List.mem_cons_of_mem _ member)
    obtain ⟨clause, bs, whole, rfl, blank, split⟩ := splitClauses_unconnected plain connector
      (link.2 ++ rest.flatMap fun link => link.1 ++ link.2)
    have spelled : connect (clause ++ bs) (link :: rest) =
        clause ++ bs ++ (link.1 ++ (link.2 ++ rest.flatMap fun link => link.1 ++ link.2)) := by
      simp [connect]
    have remaining : (link.2 ++ rest.flatMap fun link => link.1 ++ link.2).dropWhile isBlank =
        connect (link.2.dropWhile isBlank) rest := by
      rw [List.dropWhile_append, if_neg (by simpa using filled), connect]
    have here : clauseColumns clause = clauseColumns (clause ++ bs) := by
      simpa using (clauseColumns_strip [] clause bs (by simp) blank).symm
    have following : clauseColumns (link.2.dropWhile isBlank) = clauseColumns link.2 := by
      have stripped := clauseColumns_strip (link.2.takeWhile isBlank) (link.2.dropWhile isBlank) []
        (fun _ member => List.mem_takeWhile_imp member) (by simp)
      rw [List.append_nil, List.takeWhile_append_dropWhile] at stripped
      exact stripped.symm
    rw [remaining] at split
    rw [clauses_eq] at later
    rw [clauses_eq, spelled, split, List.map_cons, List.flatMap_cons, later, here, following,
      List.flatMap_cons]

end JoinDiagram.Condition
