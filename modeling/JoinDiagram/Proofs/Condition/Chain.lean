import JoinDiagram.Proofs.Condition.Words

namespace JoinDiagram.Condition

structure Dotted (text reference field : List Char) : Prop where
  spelled : text = reference ++ '.' :: field
  named : ∀ word ∈ reference.splitOn '.' ++ [field], ∀ c ∈ word, isNameChar c
  digitless : text.head?.any Text.isAsciiDigit = false

structure Chain (text reference field : List Char) : Prop extends Dotted text reference field where
  filled : ∀ word ∈ reference.splitOn '.' ++ [field], word ≠ []

/-- There is something before and after the last dot, but a word before it is empty: the text begins
    with a dot or has two dots in a row. -/
structure Gapped (text reference field : List Char) : Prop extends Dotted text reference field where
  opened : reference ≠ []
  closed : field ≠ []
  gap : [] ∈ reference.splitOn '.'

theorem named_splitOn_iff (reference : List Char) :
    (∀ word ∈ reference.splitOn '.', ∀ c ∈ word, isNameChar c) ↔
      ∀ c ∈ reference, isNameChar c ∨ c = '.' := by
  have letters := splitOnP_flatten (· == '.') reference
  rw [← List.splitOn_eq_splitOnP] at letters
  constructor
  · intro named c member
    by_cases dot : c = '.'
    · exact .inr dot
    · have kept : c ∈ (reference.splitOn '.').flatten := by
        rw [letters]
        exact List.mem_filter.mpr ⟨member, by simpa using dot⟩
      obtain ⟨word, inside, spelled⟩ := List.mem_flatten.mp kept
      exact .inl (named word inside c spelled)
  · intro named word inside c spelled
    have kept : c ∈ (reference.splitOn '.').flatten := List.mem_flatten.mpr ⟨word, inside, spelled⟩
    rw [letters, List.mem_filter] at kept
    exact (named c kept.1).resolve_right (by simpa using kept.2)

theorem splitQualifiedChars_dotted_iff {token reference field : List Char} :
    splitQualifiedChars token = some (reference, field) ↔
      Dotted (unquote token) reference field ∧ reference ≠ [] ∧ field ≠ [] := by
  have front : reference ≠ [] →
      (reference ++ '.' :: field).head?.any Text.isAsciiDigit =
        reference.head?.any Text.isAsciiDigit := by
    intro filled
    obtain ⟨c, rest, rfl⟩ := List.exists_cons_of_ne_nil filled
    rfl
  rw [splitQualifiedChars_eq_some_iff]
  constructor
  · rintro ⟨spelled, opened, closed, digitless, names, fieldNames⟩
    refine ⟨⟨spelled, ?_, ?_⟩, opened, closed⟩
    · intro word member
      rcases List.mem_append.mp member with inside | last
      · exact (named_splitOn_iff reference).mpr names word inside
      · rw [List.mem_singleton.mp last]
        exact fieldNames
    · rw [spelled, front opened, digitless]
  · rintro ⟨⟨spelled, named, digitless⟩, opened, closed⟩
    rw [spelled, front opened] at digitless
    refine ⟨spelled, opened, closed, digitless, ?_, ?_⟩
    · exact (named_splitOn_iff reference).mp fun word inside =>
        named word (List.mem_append_left _ inside)
    · exact named field (by simp)

theorem dotted_cases {text reference field : List Char} :
    (Dotted text reference field ∧ reference ≠ [] ∧ field ≠ []) ↔
      Chain text reference field ∨ Gapped text reference field := by
  constructor
  · rintro ⟨dotted, opened, closed⟩
    by_cases gap : [] ∈ reference.splitOn '.'
    · exact .inr ⟨dotted, opened, closed, gap⟩
    · left
      refine ⟨dotted, ?_⟩
      rintro word member rfl
      rcases List.mem_append.mp member with inside | last
      · exact gap inside
      · exact closed (List.mem_singleton.mp last).symm
  · rintro (chain | gapped)
    · refine ⟨chain.toDotted, ?_, chain.filled field (by simp)⟩
      rintro rfl
      exact chain.filled [] (by simp) rfl
    · exact ⟨gapped.toDotted, gapped.opened, gapped.closed⟩

theorem Gapped.not_chain {text reference field : List Char} (gapped : Gapped text reference field) :
    ¬ Chain text reference field :=
  fun chain => chain.filled [] (List.mem_append_left _ gapped.gap) rfl

theorem splitQualified_eq_some_iff {token reference field : String} :
    splitQualified token = some (reference, field) ↔
      splitQualifiedChars token.toList = some (reference.toList, field.toList) := by
  rw [splitQualified, Option.map_eq_some_iff]
  constructor
  · rintro ⟨⟨relation, column⟩, split, same⟩
    simp only [Prod.mk.injEq] at same
    rw [split, ← same.1, ← same.2, String.toList_ofList, String.toList_ofList]
  · intro split
    exact ⟨_, split, by simp only [String.ofList_toList]⟩

/-- A token is read as a qualified name, split at its last dot, if it is a chain of names or a gapped
    one. So the readings of a token are its splits into chains exactly if it is not gapped. -/
theorem splitQualified_chain_iff (token : String) :
    (∀ reference field : String, splitQualified token = some (reference, field) ↔
      Chain (unquote token.toList) reference.toList field.toList ∨
        Gapped (unquote token.toList) reference.toList field.toList) ∧
    ((∀ reference field : String, splitQualified token = some (reference, field) ↔
        Chain (unquote token.toList) reference.toList field.toList) ↔
      ∀ reference field, ¬ Gapped (unquote token.toList) reference field) := by
  have read : ∀ reference field : String, splitQualified token = some (reference, field) ↔
      Chain (unquote token.toList) reference.toList field.toList ∨
        Gapped (unquote token.toList) reference.toList field.toList := by
    intro reference field
    rw [splitQualified_eq_some_iff, splitQualifiedChars_dotted_iff, dotted_cases]
  refine ⟨read, ?_, ?_⟩
  · intro chained reference field gapped
    have spelled : Gapped (unquote token.toList) (String.ofList reference).toList
        (String.ofList field).toList := by
      simpa using gapped
    exact spelled.not_chain ((chained _ _).mp ((read _ _).mpr (.inr spelled)))
  · intro whole reference field
    rw [read]
    exact or_iff_left (whole _ _)

theorem splitQualified_gapped :
    splitQualified "a..b" = some ("a.", "b") ∧ splitQualified "..a" = some (".", "a") ∧
      ¬ ∀ token reference field : String, splitQualified token = some (reference, field) ↔
        Chain (unquote token.toList) reference.toList field.toList := by
  have inner : splitQualified "a..b" = some ("a.", "b") := by decide +kernel
  refine ⟨inner, by decide +kernel, ?_⟩
  intro chained
  have chain := (chained "a..b" "a." "b").mp inner
  exact chain.filled [] (by decide) rfl

end JoinDiagram.Condition
