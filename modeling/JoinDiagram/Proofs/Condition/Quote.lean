import JoinDiagram.Proofs.Condition.Clauses

namespace JoinDiagram.Condition

open Text (isBlank)

/-- The pieces of a text from those before and after a quote in it. The quote itself ends no piece. -/
def atQuote (before after : List (List Char)) : List (List Char) :=
  before.dropLast ++ (before.getLast?.getD [] ++ '\'' :: after.head?.getD []) :: after.tail

theorem atQuote_cons (piece : List Char) {before : List (List Char)} (after : List (List Char))
    (filled : before ≠ []) : atQuote (piece :: before) after = piece :: atQuote before after := by
  obtain ⟨next, rest, rfl⟩ := List.exists_cons_of_ne_nil filled
  simp [atQuote]

theorem atQuote_modifyHead (c : Char) {before : List (List Char)} (after : List (List Char))
    (filled : before ≠ []) :
    atQuote (before.modifyHead (c :: ·)) after = (atQuote before after).modifyHead (c :: ·) := by
  obtain ⟨piece, rest, rfl⟩ := List.exists_cons_of_ne_nil filled
  cases rest with
  | nil => rfl
  | cons next others => simp [atQuote_cons]

theorem splitOnP_atQuote (before after : List Char) :
    (before ++ '\'' :: after).splitOnP isSeparator =
      atQuote (before.splitOnP isSeparator) (after.splitOnP isSeparator) := by
  have inside : isSeparator '\'' = false := by decide
  induction before with
  | nil =>
    obtain ⟨piece, rest, split⟩ :=
      List.exists_cons_of_ne_nil (List.splitOnP_ne_nil isSeparator after)
    rw [List.nil_append, List.splitOnP_cons_eq_if_modifyHead, inside, split]
    rfl
  | cons c rest ih =>
    have filled := List.splitOnP_ne_nil isSeparator rest
    rw [List.cons_append, List.splitOnP_cons_eq_if_modifyHead,
      List.splitOnP_cons_eq_if_modifyHead, ih]
    by_cases separator : isSeparator c = true
    · rw [if_pos separator, if_pos separator, atQuote_cons [] _ filled]
    · rw [if_neg separator, if_neg separator, atQuote_modifyHead c _ filled]

theorem takeWhile_blank_quote (before after : List Char) :
    (before ++ '\'' :: after).takeWhile isBlank = before.takeWhile isBlank := by
  have unblank : isBlank '\'' = false := by decide
  rw [List.takeWhile_append, List.takeWhile_cons_of_neg (by simp [unblank])]
  split
  · rename_i whole
    rw [List.append_nil]
    exact (List.takeWhile_prefix isBlank).eq_of_length whole |>.symm
  · rfl

theorem connectiveLength_quote (before after : List Char) :
    connectiveLength (before ++ '\'' :: after) = connectiveLength before :=
  connectiveLength_foreign before after (by decide)

theorem connectorLength_quote (before after : List Char) :
    connectorLength (before ++ '\'' :: after) = connectorLength before := by
  have blanks := (List.takeWhile_prefix isBlank (l := before)).length_le
  have connective := connectiveLength_le (before.drop (before.takeWhile isBlank).length)
  rw [List.length_drop] at connective
  rw [connectorLength, connectorLength, takeWhile_blank_quote, List.drop_append_of_le_length blanks,
    connectiveLength_quote, List.drop_append_of_le_length (by omega), takeWhile_blank_quote]

def clausesAfter (afterBlank : Bool) (cs : List Char) : List (List Char) :=
  (splitClauses afterBlank cs).1 :: (splitClauses afterBlank cs).2.map (·.2)

theorem clausesAfter_quote (afterBlank : Bool) (before after : List Char) :
    clausesAfter afterBlank (before ++ '\'' :: after) =
      atQuote (clausesAfter afterBlank before) (clausesAfter false after) := by
  have unblank : isBlank '\'' = false := by decide
  fun_induction splitClauses afterBlank before with
  | case1 afterBlank =>
    rw [List.nil_append, clausesAfter, clausesAfter, splitClauses_nil,
      splitClauses_read fun _ => connectorLength_unblank after unblank, unblank]
    rfl
  | case2 afterBlank c rest none next ih =>
    have unconnected : afterBlank = false → connectorLength (c :: rest) = 0 := by
      rintro rfl
      simpa using none
    have unconnectedQuote : afterBlank = false →
        connectorLength (c :: (rest ++ '\'' :: after)) = 0 := by
      intro fresh
      rw [← List.cons_append, connectorLength_quote, unconnected fresh]
    have read : ∀ cs, (afterBlank = false → connectorLength (c :: cs) = 0) →
        clausesAfter afterBlank (c :: cs) = (clausesAfter (isBlank c) cs).modifyHead (c :: ·) := by
      intro cs connector
      rw [clausesAfter, splitClauses_read connector, clausesAfter, List.modifyHead_cons]
    rw [List.cons_append, read _ unconnectedQuote, read _ unconnected, ih, atQuote_modifyHead]
    exact List.cons_ne_nil _ _
  | case3 afterBlank c rest n some next ih =>
    -- The connector ends before the quote, so the quote stays in the rest.
    obtain ⟨rfl, long⟩ : afterBlank = false ∧ connectorLength (c :: rest) = n + 1 := by
      cases afterBlank
      · exact ⟨rfl, by simpa using some⟩
      · simp at some
    have longQuote : connectorLength (c :: (rest ++ '\'' :: after)) = n + 1 := by
      rw [← List.cons_append, connectorLength_quote, long]
    have inside : n ≤ rest.length := by
      have bound := connectorLength_le (c :: rest)
      rw [long, List.length_cons] at bound
      omega
    have connected : ∀ cs, connectorLength (c :: cs) = n + 1 →
        clausesAfter false (c :: cs) = [] :: clausesAfter false (cs.drop n) := by
      intro cs connector
      rw [clausesAfter, splitClauses_connector connector, clausesAfter, List.map_cons]
    rw [List.cons_append, connected _ longQuote, connected _ long,
      List.drop_append_of_le_length inside, ih, atQuote_cons]
    exact List.cons_ne_nil _ _

theorem clauses_atQuote (before after : List Char) :
    clauses (before ++ '\'' :: after) = atQuote (clauses before) (clauses after) := by
  simp only [clauses_eq]
  exact clausesAfter_quote false before after

end JoinDiagram.Condition
