import JoinDiagram.Proofs.Condition.Words
import JoinDiagram.Proofs.List.Distinct

namespace JoinDiagram.Condition

theorem eraseDups_filter {α : Type} [BEq α] [LawfulBEq α] (keep : α → Bool) (xs : List α) :
    (xs.filter keep).eraseDups = xs.eraseDups.filter keep := firstPer_filter id keep xs

theorem removeAll_eq_filter {α : Type} [BEq α] (xs removed : List α) :
    xs.removeAll removed = xs.filter fun x => !removed.contains x := rfl

theorem eraseDups_nodup {α : Type} [BEq α] [LawfulBEq α] (xs : List α) : xs.eraseDups.Nodup := by
  have distinct := firstPer_nodup id xs
  rwa [List.map_id] at distinct

theorem eraseDups_of_nodup {α : Type} [BEq α] [LawfulBEq α] {xs : List α} (distinct : xs.Nodup) :
    xs.eraseDups = xs := firstPer_eq_self id (by simpa using distinct)

theorem eraseDups_concat {α : Type} [BEq α] [LawfulBEq α] (xs : List α) (x : α) :
    (xs ++ [x]).eraseDups = if xs.contains x then xs.eraseDups else xs.eraseDups ++ [x] := by
  rw [List.eraseDups_append, removeAll_eq_filter]
  by_cases seen : xs.contains x = true
  · rw [if_pos seen, List.filter_cons_of_neg (by simpa using seen)]
    simp
  · rw [if_neg seen, List.filter_cons_of_pos (by simpa using seen)]
    simp [List.eraseDups_cons]

theorem eraseDups_congr_part {α : Type} [BEq α] [LawfulBEq α] (before after : List α)
    {part other : List α} (same : part.eraseDups = other.eraseDups) :
    (before ++ part ++ after).eraseDups = (before ++ other ++ after).eraseDups := by
  have members : ∀ x, part.contains x = other.contains x := by
    intro x
    rw [Bool.eq_iff_iff, List.contains_iff_mem, List.contains_iff_mem, ← List.mem_eraseDups, same,
      List.mem_eraseDups]
  have left : (before ++ part).eraseDups = (before ++ other).eraseDups := by
    simp only [List.eraseDups_append, removeAll_eq_filter, eraseDups_filter, same]
  have right : after.removeAll (before ++ part) = after.removeAll (before ++ other) := by
    rw [removeAll_eq_filter, removeAll_eq_filter]
    apply List.filter_congr
    intro x _
    rw [List.contains_append, List.contains_append, members]
  calc (before ++ part ++ after).eraseDups
      = (before ++ part).eraseDups ++ (after.removeAll (before ++ part)).eraseDups :=
        List.eraseDups_append
    _ = (before ++ other).eraseDups ++ (after.removeAll (before ++ other)).eraseDups := by
        rw [left, right]
    _ = (before ++ other ++ after).eraseDups := List.eraseDups_append.symm

theorem eraseDups_append_eraseDups {α : Type} [BEq α] [LawfulBEq α] (xs ys : List α) :
    (xs.eraseDups ++ ys.eraseDups).eraseDups = (xs ++ ys).eraseDups := by
  have left := eraseDups_congr_part [] ys.eraseDups (eraseDups_of_nodup (eraseDups_nodup xs))
  have right := eraseDups_congr_part xs [] (eraseDups_of_nodup (eraseDups_nodup ys))
  rw [List.nil_append, List.nil_append] at left
  rw [List.append_nil, List.append_nil] at right
  rw [left, right]

theorem find_eraseDups (names : List String) (p : String → Bool) :
    names.eraseDups.find? p = names.find? p := by
  rw [← List.head?_filter, ← List.head?_filter, ← eraseDups_filter]
  cases names.filter p with
  | nil => rfl
  | cons name rest => rw [List.eraseDups_cons, List.head?_cons, List.head?_cons]

def wordReference (word : List Char) : Option String :=
  (splitQualifiedChars word).map fun (reference, _) => String.ofList reference

theorem references_eq (condition : String) :
    references condition =
      ((condition.toList.splitOnP isSeparator).filterMap wordReference).eraseDups := by
  have empty : ∀ pieces : List (List Char),
      (pieces.filter fun word => !word.isEmpty).filterMap wordReference =
        pieces.filterMap wordReference := by
    intro pieces
    have none : wordReference [] = none := rfl
    induction pieces with
    | nil => rfl
    | cons piece rest ih =>
      cases piece with
      | nil => simpa [none] using ih
      | cons c cs => simp [List.filterMap_cons, ih]
  rw [references, words_eq_splitOnP, ← empty]
  rfl

def namedIn (cs : List Char) : List String := (words cs).filterMap wordReference

theorem references_eq_namedIn (condition : String) :
    references condition = (namedIn condition.toList).eraseDups := rfl

theorem namedIn_of_undotted {cs : List Char} (undotted : '.' ∉ cs) : namedIn cs = [] := by
  rw [namedIn, List.filterMap_eq_nil_iff]
  intro word member
  rw [wordReference, Option.map_eq_none_iff, Option.eq_none_iff_forall_ne_some]
  rintro ⟨reference, field⟩ qualified
  obtain ⟨spelled, -⟩ := splitQualifiedChars_eq_some_iff.mp qualified
  have inWord : '.' ∈ word := by
    have inside : '.' ∈ unquote word := by simp [spelled]
    exact List.mem_of_mem_filter inside
  have inWords : '.' ∈ (words cs).flatten := List.mem_flatten.mpr ⟨word, member, inWord⟩
  rw [words_flatten] at inWords
  exact undotted (List.mem_of_mem_filter inWords)

theorem namedIn_append_begins {cs ds : List Char} (apart : BeginsApart ds) :
    namedIn (cs ++ ds) = namedIn cs ++ namedIn ds := by
  have cut : Bounded [] cs ds := ⟨.inl rfl, apart⟩
  have split := words_of_bounded cut
  rw [List.nil_append, words_nil, List.nil_append] at split
  rw [namedIn, split, List.filterMap_append, namedIn, namedIn]

theorem namedIn_append_ends {cs ds : List Char} (apart : EndsApart cs) :
    namedIn (cs ++ ds) = namedIn cs ++ namedIn ds := by
  have cut : Bounded cs ds [] := ⟨apart, .inl rfl⟩
  have split := words_of_bounded cut
  rw [List.append_nil, words_nil, List.append_nil] at split
  rw [namedIn, split, List.filterMap_append, namedIn, namedIn]

theorem quoted_unqualified {token : List Char} (quoted : '\'' ∈ token) :
    splitQualifiedChars token = none := by
  rw [Option.eq_none_iff_forall_ne_some]
  rintro ⟨reference, field⟩ qualified
  exact absurd (qualified_spelled qualified '\'' quoted) (by decide)

end JoinDiagram.Condition
