import JoinDiagram.Proofs.Condition.Equality

namespace JoinDiagram.Condition

open Text (isBlank)

def uncast (side : List Char) : List Char := side.takeWhile (· != ':')

theorem beforeCast_of_notMem {cs : List Char} (h : ':' ∉ beforeCast cs) :
    beforeCast cs = cs.takeWhile (· != ':') := by
  induction cs with
  | nil => rfl
  | cons c rest ih =>
    rw [beforeCast_cons] at h ⊢
    by_cases colon : c = ':'
    · subst c
      split at h
      · rename_i cast
        rw [if_pos cast]
        simp
      · simp at h
    · have uncut : (c == ':' && rest.head? == some ':') = false := by simp [colon]
      rw [uncut] at h ⊢
      simp only [Bool.false_eq_true, ↓reduceIte, List.mem_cons, not_or] at h ⊢
      rw [ih h.2, List.takeWhile_cons_of_pos (by simpa using colon)]

theorem takeWhile_filter_uncast {p : Char → Bool} (keeps : p ':' = true) (cs : List Char) :
    (cs.filter p).takeWhile (· != ':') = (uncast cs).filter p := by
  rw [uncast]
  induction cs with
  | nil => rfl
  | cons c rest ih =>
    by_cases colon : c = ':'
    · subst c
      simp [keeps]
    · by_cases kept : p c = true
      · simp [colon, kept, ih]
      · simp [colon, kept, ih]

theorem bareSide_of_qualified {side reference field : List Char}
    (h : splitQualifiedChars (bareSide side) = some (reference, field)) :
    bareSide side = (words (uncast side)).flatten := by
  -- A name holds no colon, so the side ends at its first colon or at its cast alike.
  have unseparated := qualified_unseparated h
  have uncut : ':' ∉ bareSide side := fun colon => absurd (unseparated ':' colon) (by decide)
  have spelled : bareSide side = (uncast side).filter fun c => !isLoose c := by
    rw [bareSide_eq] at uncut ⊢
    rw [beforeCast_of_notMem uncut, takeWhile_filter_uncast (by decide)]
  rw [words_flatten, spelled]
  apply List.filter_congr
  intro c member
  by_cases kept : isLoose c = true
  · rw [kept, isSeparator_of_isLoose kept]
  · have inside : c ∈ bareSide side := by
      rw [spelled]
      exact List.mem_filter.mpr ⟨member, by simpa using kept⟩
    rw [unseparated c inside]
    simpa using kept

theorem words_of_side {condition : String} {side : List Char}
    (member : side ∈ equalitySides condition) :
    ∀ word ∈ words (uncast side), word ∈ words condition.toList := by
  obtain ⟨before, after, spelled, bounded⟩ := side_bounded member
  have split : uncast side ++ side.dropWhile (· != ':') = side := List.takeWhile_append_dropWhile
  have cut : Bounded before (uncast side) (side.dropWhile (· != ':') ++ after) := by
    refine ⟨bounded.left, ?_⟩
    cases rest : side.dropWhile (· != ':') with
    | nil => exact bounded.right
    | cons c others =>
      have colon : c = ':' := by
        have stops := List.head_dropWhile_not (· != ':') (l := side) (by simp [rest])
        simpa [rest] using stops
      exact .inr ⟨c, others ++ after, rfl, by rw [colon]; decide⟩
  intro word inside
  have whole := words_of_bounded cut
  rw [List.append_assoc, ← List.append_assoc (uncast side), split, ← List.append_assoc,
    ← spelled] at whole
  rw [whole]
  simp [inside]

def Written (condition : String) (column : String × String) : Prop :=
  ∃ word ∈ words condition.toList, splitQualified (String.ofList word) = some column

instance (condition : String) (column : String × String) : Decidable (Written condition column) :=
  inferInstanceAs (Decidable (∃ word ∈ words condition.toList,
    splitQualified (String.ofList word) = some column))

def spokenWords (side : List Char) : List (List Char) :=
  (words (uncast side)).filter fun word => !(unquote word).isEmpty

/-- The side is read as a column, but only because several words run together. -/
def Glued (side : List Char) : Prop := (sideColumn side).isSome ∧ 1 < (spokenWords side).length

theorem unquote_flatten (tokens : List (List Char)) :
    unquote tokens.flatten =
      (tokens.filter fun word => !(unquote word).isEmpty).flatMap unquote := by
  induction tokens with
  | nil => rfl
  | cons token rest ih =>
    rw [List.flatten_cons, unquote_append, ih]
    by_cases mute : unquote token = []
    · simp [mute]
    · simp [mute]

theorem splitQualified_word {word : List Char} {column : String × String} :
    splitQualified (String.ofList word) = some column ↔
      (splitQualifiedChars word).map (fun parts =>
        (String.ofList parts.1, String.ofList parts.2)) = some column := by
  rw [splitQualified, String.toList_ofList]

theorem splitQualifiedChars_congr {token other : List Char} (h : unquote token = unquote other) :
    splitQualifiedChars token = splitQualifiedChars other := by
  rw [splitQualifiedChars, splitQualifiedChars, h]

theorem unquote_of_column {token other : List Char} {column : String × String}
    (h : splitQualified (String.ofList token) = some column)
    (h' : splitQualified (String.ofList other) = some column) : unquote token = unquote other := by
  rw [splitQualified_word, Option.map_eq_some_iff] at h h'
  obtain ⟨⟨reference, field⟩, first, rfl⟩ := h
  obtain ⟨⟨reference', field'⟩, second, same⟩ := h'
  simp only [Prod.mk.injEq, String.ofList_inj] at same
  obtain ⟨rfl, rfl⟩ := same
  rw [(splitQualifiedChars_eq_some_iff.mp first).1, (splitQualifiedChars_eq_some_iff.mp second).1]

theorem sideColumn_eq (side : List Char) :
    sideColumn side = splitQualified (String.ofList (bareSide side)) := by
  rw [splitQualified, String.toList_ofList, sideColumn]

theorem spoken_of_unglued {side : List Char} {column : String × String}
    (named : sideColumn side = some column) (unglued : ¬ Glued side) :
    ∃ word ∈ words (uncast side), unquote word = unquote (bareSide side) := by
  have few : (spokenWords side).length ≤ 1 := by
    by_contra many
    exact unglued ⟨by rw [named]; rfl, by omega⟩
  rw [sideColumn, Option.map_eq_some_iff] at named
  obtain ⟨⟨reference, field⟩, qualified, -⟩ := named
  have whole : unquote (bareSide side) = (spokenWords side).flatMap unquote := by
    rw [bareSide_of_qualified qualified, unquote_flatten, spokenWords]
  have filled : unquote (bareSide side) ≠ [] := by
    rw [(splitQualifiedChars_eq_some_iff.mp qualified).1]
    simp
  match alone : spokenWords side with
  | [] =>
    rw [whole, alone] at filled
    exact absurd rfl filled
  | [word] =>
    have inside : word ∈ spokenWords side := by simp [alone]
    exact ⟨word, (List.mem_filter.mp inside).1, by rw [whole, alone]; simp⟩
  | _ :: _ :: _ =>
    rw [alone] at few
    simp at few

/-- Every column of a condition is a word of it exactly if each side whose words run together to a
    qualified name is also spelled as one word somewhere. Then the columns belong to relations that
    the condition refers to. -/
theorem columns_written_iff (condition : String) :
    ((∀ column ∈ columns condition, Written condition column) ↔
      ∀ side ∈ equalitySides condition, Glued side →
        ∃ word ∈ words condition.toList, unquote word = unquote (bareSide side)) ∧
    ((∀ column ∈ columns condition, Written condition column) →
      ∀ column ∈ columns condition, column.1 ∈ references condition) := by
  refine ⟨⟨?_, ?_⟩, ?_⟩
  · intro written side member glued
    obtain ⟨column, named⟩ := Option.isSome_iff_exists.mp glued.1
    have found : column ∈ columns condition := by
      rw [columns_eq_sides]
      exact List.mem_filterMap.mpr ⟨side, member, named⟩
    obtain ⟨word, inside, read⟩ := written column found
    rw [sideColumn_eq] at named
    exact ⟨word, inside, unquote_of_column read named⟩
  · intro spelled column found
    rw [columns_eq_sides] at found
    obtain ⟨side, member, named⟩ := List.mem_filterMap.mp found
    have word : ∃ word ∈ words condition.toList, unquote word = unquote (bareSide side) := by
      by_cases glued : Glued side
      · exact spelled side member glued
      · obtain ⟨word, inside, same⟩ := spoken_of_unglued named glued
        exact ⟨word, words_of_side member word inside, same⟩
    obtain ⟨word, inside, same⟩ := word
    refine ⟨word, inside, ?_⟩
    rw [splitQualified_word, splitQualifiedChars_congr same]
    exact named
  · intro written column found
    obtain ⟨word, inside, read⟩ := written column found
    rw [splitQualified_word, Option.map_eq_some_iff] at read
    obtain ⟨parts, qualified, rfl⟩ := read
    rw [references, List.mem_eraseDups, List.mem_filterMap]
    exact ⟨word, inside, by rw [qualified]; rfl⟩

theorem columns_cast_unwritten :
    ("CASTa", "idASTEXT") ∈ columns "CAST(a.id AS TEXT) = c.code" ∧
      ¬ ∀ column ∈ columns "CAST(a.id AS TEXT) = c.code",
        Written "CAST(a.id AS TEXT) = c.code" column := by
  decide +kernel

end JoinDiagram.Condition
