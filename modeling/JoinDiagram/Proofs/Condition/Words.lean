import JoinDiagram.Condition.Reference
import Mathlib.Data.List.Basic

namespace JoinDiagram.Condition

open Text (isBlank)

def closeWord (state : List Char × List (List Char)) : List (List Char) :=
  if state.1.isEmpty then state.2 else state.1 :: state.2

def readChar (c : Char) (state : List Char × List (List Char)) : List Char × List (List Char) :=
  if isSeparator c then ([], closeWord state) else (c :: state.1, state.2)

theorem closeWord_filter (piece : List Char) (pieces : List (List Char)) :
    closeWord (piece, pieces.filter fun word => !word.isEmpty) =
      (piece :: pieces).filter fun word => !word.isEmpty := by
  cases piece <;> simp [closeWord]

theorem foldr_readChar (cs : List Char) :
    ∃ piece pieces, cs.splitOnP isSeparator = piece :: pieces ∧
      cs.foldr readChar ([], []) = (piece, pieces.filter fun word => !word.isEmpty) := by
  induction cs with
  | nil => exact ⟨[], [], rfl, rfl⟩
  | cons c rest ih =>
    obtain ⟨piece, pieces, split, state⟩ := ih
    rw [List.foldr_cons, state, List.splitOnP_cons_eq_if_modifyHead, split]
    by_cases separator : isSeparator c = true
    · refine ⟨[], piece :: pieces, if_pos separator, ?_⟩
      rw [readChar, if_pos separator, closeWord_filter]
    · refine ⟨c :: piece, pieces, if_neg separator, ?_⟩
      rw [readChar, if_neg separator]

theorem words_eq_splitOnP (cs : List Char) :
    words cs = (cs.splitOnP isSeparator).filter fun word => !word.isEmpty := by
  obtain ⟨piece, pieces, split, state⟩ := foldr_readChar cs
  change closeWord (cs.foldr readChar ([], [])) = _
  rw [state, closeWord_filter, split]

@[simp]
theorem words_nil : words [] = [] := rfl

theorem words_append_separator (before after : List Char) {c : Char} (separator : isSeparator c) :
    words (before ++ c :: after) = words before ++ words after := by
  simp only [words_eq_splitOnP, List.splitOnP_append_cons before after separator,
    List.filter_append]

theorem words_of_unseparated {cs : List Char} (filled : cs ≠ [])
    (unseparated : ∀ c ∈ cs, isSeparator c = false) : words cs = [cs] := by
  rw [words_eq_splitOnP, List.splitOnP_eq_singleton unseparated]
  simp [filled]

theorem unblank_of_unseparated {c : Char} (unseparated : isSeparator c = false) :
    isBlank c = false := by
  rw [isSeparator, Bool.or_eq_false_iff] at unseparated
  exact unseparated.1

structure Bounded (before piece after : List Char) : Prop where
  left : before = [] ∨ ∃ start c, before = start ++ [c] ∧ isSeparator c
  right : after = [] ∨ ∃ c rest, after = c :: rest ∧ isSeparator c

def BeginsApart (cs : List Char) : Prop := cs = [] ∨ ∃ c rest, cs = c :: rest ∧ isSeparator c

def EndsApart (cs : List Char) : Prop := cs = [] ∨ ∃ start c, cs = start ++ [c] ∧ isSeparator c

theorem BeginsApart.append {cs ds : List Char} (first : BeginsApart cs) (second : BeginsApart ds) :
    BeginsApart (cs ++ ds) := by
  rcases first with rfl | ⟨c, rest, rfl, separator⟩
  · exact second
  · exact .inr ⟨c, rest ++ ds, rfl, separator⟩

theorem beginsApart_of_separators {cs : List Char} (separators : ∀ c ∈ cs, isSeparator c) :
    BeginsApart cs := by
  cases cs with
  | nil => exact .inl rfl
  | cons c rest => exact .inr ⟨c, rest, rfl, separators c (by simp)⟩

theorem endsApart_of_separators {cs : List Char} (separators : ∀ c ∈ cs, isSeparator c) :
    EndsApart cs := by
  rcases List.eq_nil_or_concat cs with rfl | ⟨start, c, rfl⟩
  · exact .inl rfl
  · exact .inr ⟨start, c, by simp, separators c (by simp)⟩

theorem words_of_bounded {before piece after : List Char} (h : Bounded before piece after) :
    words (before ++ piece ++ after) = words before ++ words piece ++ words after := by
  have right : words (piece ++ after) = words piece ++ words after := by
    rcases h.right with rfl | ⟨c, rest, rfl, separator⟩
    · simp
    · have alone := words_append_separator [] rest separator
      rw [words_append_separator piece rest separator]
      simpa using alone.symm
  rcases h.left with rfl | ⟨start, c, rfl, separator⟩
  · simpa using right
  · have alone := words_append_separator start [] separator
    simp only [List.append_assoc, List.cons_append, List.nil_append]
    rw [words_append_separator start _ separator, right, alone]
    simp

theorem splitOnP_flatten (p : Char → Bool) (cs : List Char) :
    (cs.splitOnP p).flatten = cs.filter fun c => !p c := by
  induction cs with
  | nil => rfl
  | cons c rest ih =>
    obtain ⟨piece, others, split⟩ := List.exists_cons_of_ne_nil (List.splitOnP_ne_nil p rest)
    rw [split] at ih
    rw [List.splitOnP_cons_eq_if_modifyHead, split]
    by_cases separator : p c = true
    · simpa [separator] using ih
    · simpa [separator] using ih

theorem words_flatten (cs : List Char) :
    (words cs).flatten = cs.filter fun c => !isSeparator c := by
  have pieces : ∀ pieces : List (List Char),
      (pieces.filter fun word => !word.isEmpty).flatten = pieces.flatten := by
    intro pieces
    induction pieces with
    | nil => rfl
    | cons piece rest ih => cases piece <;> simp [ih]
  rw [words_eq_splitOnP, pieces, splitOnP_flatten]

theorem unquote_append (cs ds : List Char) : unquote (cs ++ ds) = unquote cs ++ unquote ds :=
  List.filter_append ..

theorem splitAtLastDot_append {reference field : List Char} (undotted : '.' ∉ field) :
    splitAtLastDot (reference ++ '.' :: field) = some (reference, field) := by
  have last : ((reference ++ '.' :: field).reverse.takeWhile (· != '.')).reverse = field := by
    rw [List.reverse_append, List.reverse_cons, List.append_assoc, List.takeWhile_append_of_pos]
    · simp
    · intro c member
      have inside := List.mem_reverse.mp member
      simpa using fun same : c = '.' => undotted (same ▸ inside)
  have dotted : (reference ++ '.' :: field).contains '.' = true := by simp
  rw [splitAtLastDot, if_pos dotted]
  simp only [last, List.length_append, List.length_cons]
  rw [show reference.length + (field.length + 1) - field.length - 1 = reference.length by omega]
  simp

theorem splitAtLastDot_eq_some_iff {cs reference field : List Char} :
    splitAtLastDot cs = some (reference, field) ↔
      cs = reference ++ '.' :: field ∧ '.' ∉ field := by
  constructor
  · intro found
    have dotted : '.' ∈ cs.reverse := by
      by_contra undotted
      have absent : ¬ cs.contains '.' = true := by simpa using undotted
      rw [splitAtLastDot, if_neg absent] at found
      cases found
    obtain ⟨last, rest, split, undotted⟩ := List.eq_append_cons_of_mem dotted
    have spelled : cs = rest.reverse ++ '.' :: last.reverse := by
      rw [← List.reverse_reverse cs, split]
      simp
    have undotted : '.' ∉ last.reverse := by simpa using undotted
    rw [spelled, splitAtLastDot_append undotted] at found
    cases found
    exact ⟨spelled, undotted⟩
  · rintro ⟨rfl, undotted⟩
    exact splitAtLastDot_append undotted

theorem splitQualifiedChars_eq_some_iff {token reference field : List Char} :
    splitQualifiedChars token = some (reference, field) ↔
      unquote token = reference ++ '.' :: field ∧ reference ≠ [] ∧ field ≠ [] ∧
        reference.head?.any Text.isAsciiDigit = false ∧
        (∀ c ∈ reference, isNameChar c ∨ c = '.') ∧ ∀ c ∈ field, isNameChar c := by
  have undotted : ∀ field : List Char, (∀ c ∈ field, isNameChar c) → '.' ∉ field :=
    fun field names dotted => absurd (names '.' dotted) (by decide)
  constructor
  · intro found
    rw [splitQualifiedChars] at found
    cases split : splitAtLastDot (unquote token) with
    | none =>
      rw [split] at found
      cases found
    | some parts =>
      obtain ⟨spelled, -⟩ := splitAtLastDot_eq_some_iff.mp split
      rw [split] at found
      simp only [Option.ite_none_left_eq_some, Option.ite_none_right_eq_some] at found
      obtain ⟨filled, digit, names, same⟩ := found
      cases same
      simp_all
  · rintro ⟨spelled, referenceFilled, fieldFilled, digit, names, fieldNames⟩
    rw [splitQualifiedChars, spelled, splitAtLastDot_append (undotted field fieldNames)]
    simp_all

theorem blank_unnamed {c : Char} (blank : isBlank c) : isNameChar c = false := by
  rw [isBlank, Text.inRanges, List.any_eq_true] at blank
  obtain ⟨⟨low, high⟩, listed, inside⟩ := blank
  simp only [Bool.and_eq_true, decide_eq_true_eq] at inside
  have unnamed : ∀ range ∈ [(0x9, 0xD), (0x20, 0x20), (0x85, 0x85), (0xA0, 0xA0), (0x1680, 0x1680),
      (0x2000, 0x200A), (0x2028, 0x2029), (0x202F, 0x202F), (0x205F, 0x205F), (0x3000, 0x3000)],
      ∀ k < range.2 + 1 - range.1, isNameChar (Char.ofNat (range.1 + k)) = false := by
    decide +kernel
  have found := unnamed (low, high) listed (c.toNat - low) (by dsimp only; omega)
  have same : low + (c.toNat - low) = c.toNat := by omega
  rwa [same, Char.ofNat_toNat] at found

theorem separator_unnamed {c : Char} (separator : isSeparator c) : isNameChar c = false := by
  rw [isSeparator, Bool.or_eq_true] at separator
  rcases separator with blank | listed
  · exact blank_unnamed blank
  · have unnamed : (['(', ')', '=', '<', '>', '!', ',', '+', '-', '*', '/', '%', '|', '&', ';',
        ':'].all fun c => !isNameChar c) = true := by decide +kernel
    simpa using List.all_eq_true.mp unnamed c (by simpa using listed)

theorem unquoted_of_named {c : Char} (named : isNameChar c) : isQuote c = false := by
  by_contra quote
  rw [Bool.not_eq_false] at quote
  simp only [isQuote, Bool.or_eq_true, beq_iff_eq] at quote
  rcases quote with ((rfl | rfl) | rfl) | rfl
  all_goals exact absurd named (by decide)

theorem qualified_spelled {token reference field : List Char}
    (h : splitQualifiedChars token = some (reference, field)) :
    ∀ c ∈ token, isNameChar c ∨ c = '.' ∨ isQuote c := by
  obtain ⟨spelled, -, -, -, names, fieldNames⟩ := splitQualifiedChars_eq_some_iff.mp h
  intro c member
  by_cases quoted : isQuote c = true
  · exact .inr (.inr quoted)
  · have kept : c ∈ reference ++ '.' :: field := by
      rw [← spelled]
      exact List.mem_filter.mpr ⟨member, by simpa using quoted⟩
    simp only [List.mem_append, List.mem_cons] at kept
    rcases kept with inside | dot | inside
    · rcases names c inside with named | dot
      · exact .inl named
      · exact .inr (.inl dot)
    · exact .inr (.inl dot)
    · exact .inl (fieldNames c inside)

theorem qualified_unseparated {token reference field : List Char}
    (h : splitQualifiedChars token = some (reference, field)) :
    ∀ c ∈ token, isSeparator c = false := by
  intro c member
  by_contra separator
  rw [Bool.not_eq_false] at separator
  rcases qualified_spelled h c member with named | rfl | quoted
  · rw [separator_unnamed separator] at named
    cases named
  · exact absurd separator (by decide)
  · simp only [isQuote, Bool.or_eq_true, beq_iff_eq] at quoted
    rcases quoted with ((rfl | rfl) | rfl) | rfl
    all_goals exact absurd separator (by decide)

end JoinDiagram.Condition
