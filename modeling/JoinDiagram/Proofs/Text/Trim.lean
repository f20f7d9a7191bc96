import JoinDiagram.Text.Trim
import Mathlib.Data.List.DropRight
import Mathlib.Data.List.TakeWhile

namespace JoinDiagram.Text

structure Bare (cs : List Char) : Prop where
  front : ∀ c ∈ cs.head?, isBlank c = false
  back : ∀ c ∈ cs.getLast?, isBlank c = false

structure Framed (text lead core trail : List Char) : Prop where
  spelled : text = lead ++ (core ++ trail)
  lead : ∀ c ∈ lead, isBlank c
  trail : ∀ c ∈ trail, isBlank c
  bare : Bare core

theorem trimStartChars_append {lead rest : List Char} (blank : ∀ c ∈ lead, isBlank c)
    (front : ∀ c ∈ rest.head?, isBlank c = false) : trimStartChars (lead ++ rest) = rest := by
  rw [trimStartChars, List.dropWhile_append_of_pos blank]
  cases rest with
  | nil => rfl
  | cons c rest => exact List.dropWhile_cons_of_neg (by simp [front c (by simp)])

theorem trimEndChars_eq_rdropWhile (cs : List Char) : trimEndChars cs = cs.rdropWhile isBlank := rfl

theorem trimEndChars_append {cs trail : List Char} (blank : ∀ c ∈ trail, isBlank c)
    (back : ∀ c ∈ cs.getLast?, isBlank c = false) : trimEndChars (cs ++ trail) = cs := by
  have backwards : trimStartChars (trail.reverse ++ cs.reverse) = cs.reverse :=
    trimStartChars_append (by simpa using blank) (by simpa using back)
  rw [trimStartChars] at backwards
  rw [trimEndChars, List.reverse_append, backwards, List.reverse_reverse]

theorem Framed.trimChars_eq {text lead core trail : List Char}
    (h : Framed text lead core trail) : trimChars text = core := by
  rw [trimChars, h.spelled]
  by_cases empty : core = []
  · have blank : ∀ c ∈ lead ++ trail, isBlank c :=
      fun c member => (List.mem_append.mp member).elim (h.lead c) (h.trail c)
    have started : trimStartChars (lead ++ trail) = [] := List.dropWhile_eq_nil_iff.mpr blank
    rw [empty, List.nil_append, started]
    rfl
  · have front : ∀ c ∈ (core ++ trail).head?, isBlank c = false := by
      rw [List.head?_append_of_ne_nil core empty]
      exact h.bare.front
    rw [trimStartChars_append h.lead front, trimEndChars_append h.trail h.bare.back]

theorem Framed.core_eq_nil_iff {text lead core trail : List Char}
    (h : Framed text lead core trail) : core = [] ↔ ∀ c ∈ text, isBlank c := by
  rw [h.spelled]
  constructor
  · rintro rfl
    exact fun c member => (List.mem_append.mp member).elim (h.lead c) (h.trail c)
  · intro blank
    by_contra filled
    have front := h.bare.front _ (List.head?_eq_some_head filled)
    rw [blank _ (by simp)] at front
    cases front

theorem framed_trimChars (text : List Char) :
    ∃ lead trail, Framed text lead (trimChars text) trail := by
  have start := List.head?_dropWhile_not isBlank text
  refine ⟨text.takeWhile isBlank, (trimStartChars text).rtakeWhile isBlank, ?_, ?_, ?_, ?_, ?_⟩
  · rw [trimChars, trimEndChars_eq_rdropWhile, List.rdropWhile_append_rtakeWhile]
    exact List.takeWhile_append_dropWhile.symm
  · exact fun c member => List.mem_takeWhile_imp member
  · exact fun c member => List.mem_rtakeWhile_imp member
  · intro c first
    obtain ⟨rest, kept⟩ : trimChars text <+: trimStartChars text :=
      List.rdropWhile_prefix isBlank (trimStartChars text)
    have begins : (trimStartChars text).head? = some c := by
      rw [← kept, List.head?_append, first, Option.some_or]
    rw [trimStartChars] at begins
    rw [begins] at start
    simpa using start
  · intro c last
    have stop := List.head?_dropWhile_not isBlank (trimStartChars text).reverse
    rw [trimChars, trimEndChars, List.getLast?_reverse, Option.mem_def] at last
    rw [last] at stop
    simpa using stop

theorem trim_isEmpty (s : String) : (trim s).isEmpty = isBlankText s := by
  obtain ⟨lead, trail, framed⟩ := framed_trimChars s.toList
  rw [Bool.eq_iff_iff, trim, String.isEmpty_iff, String.ofList_eq_empty_iff, framed.core_eq_nil_iff,
    isBlankText, List.all_eq_true]

/-- The first line of a text, what ends it and what follows. A line feed ends a line, together with a
    carriage return directly before it; so does the end of the text. -/
structure FirstLine (text line ending more : List Char) : Prop where
  spelled : text = line ++ (ending ++ more)
  unbroken : '\n' ∉ line
  ended : ending = ['\r', '\n'] ∨ ending = ['\n'] ∧ line.getLast? ≠ some '\r' ∨
    ending = [] ∧ more = []

theorem takeWhile_unbroken {line : List Char} (unbroken : '\n' ∉ line) (rest : List Char) :
    (line ++ rest).takeWhile (· != '\n') = line ++ rest.takeWhile (· != '\n') := by
  apply List.takeWhile_append_of_pos
  intro c member
  rw [bne_iff_ne]
  rintro rfl
  exact unbroken member

theorem FirstLine.firstLineChars_eq {text line ending more : List Char}
    (h : FirstLine text line ending more) : firstLineChars text = line := by
  rw [h.spelled, firstLineChars, takeWhile_unbroken h.unbroken]
  rcases h.ended with rfl | ⟨rfl, uncarried⟩ | ⟨rfl, rfl⟩
  · simp
  · simp [uncarried]
  · simp

theorem firstLine_firstLineChars (text : List Char) :
    ∃ ending more, FirstLine text (firstLineChars text) ending more := by
  have split : text = text.takeWhile (· != '\n') ++ text.dropWhile (· != '\n') :=
    List.takeWhile_append_dropWhile.symm
  have unbroken : '\n' ∉ text.takeWhile (· != '\n') := by
    intro member
    simpa using List.mem_takeWhile_imp member
  have stop := List.head?_dropWhile_not (· != '\n') text
  generalize text.takeWhile (· != '\n') = line at split unbroken
  generalize text.dropWhile (· != '\n') = rest at split stop
  cases rest with
  | nil =>
    have whole : FirstLine text line [] [] := ⟨by simpa using split, unbroken, .inr (.inr ⟨rfl, rfl⟩)⟩
    exact ⟨[], [], whole.firstLineChars_eq.symm ▸ whole⟩
  | cons c more =>
    have feed : c = '\n' := by simpa using stop
    subst feed
    by_cases carried : line.getLast? = some '\r'
    · obtain ⟨start, rfl⟩ := List.getLast?_eq_some_iff.mp carried
      have ended : FirstLine text start ['\r', '\n'] more :=
        ⟨by simpa using split, fun member => unbroken (List.mem_append_left _ member), .inl rfl⟩
      exact ⟨_, _, ended.firstLineChars_eq.symm ▸ ended⟩
    · have ended : FirstLine text line ['\n'] more :=
        ⟨by simpa using split, unbroken, .inr (.inl ⟨rfl, carried⟩)⟩
      exact ⟨_, _, ended.firstLineChars_eq.symm ▸ ended⟩

end JoinDiagram.Text
