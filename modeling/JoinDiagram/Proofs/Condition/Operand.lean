import JoinDiagram.Proofs.Condition.Connected
import JoinDiagram.Proofs.Condition.References

namespace JoinDiagram.Condition

open Text (isAsciiDigit isBlank)

inductive Quotation where
  | bare
  | double
  | back
  | brackets

def Quotation.wrap : Quotation → List Char → List Char
  | bare, cs => cs
  | double, cs => '"' :: (cs ++ ['"'])
  | back, cs => '\x60' :: (cs ++ ['\x60'])
  | brackets, cs => '[' :: (cs ++ [']'])

structure NamePart where
  word : List Char
  quotation : Quotation := .bare
  filled : word ≠ [] := by decide
  named : ∀ c ∈ word, isNameChar c := by decide

def NamePart.text (p : NamePart) : List Char := p.quotation.wrap p.word

structure QualifiedName where
  first : NamePart
  more : List NamePart := []
  quotation : Quotation := .bare
  field : NamePart
  digitless : first.word.head?.any isAsciiDigit = false := by decide

structure CastType where
  word : List Char
  filled : word ≠ [] := by decide
  whole : ∀ c ∈ word, isSeparator c = false := by decide
  undotted : '.' ∉ word := by decide

structure Operand where
  before : List Char := []
  name : QualifiedName
  after : List Char := []
  cast : Option CastType := none
  last : List Char := []
  loose : ∀ c ∈ before ++ after ++ last, isLoose c := by decide

theorem Quotation.unquote_wrap (quotation : Quotation) (cs : List Char) :
    unquote (quotation.wrap cs) = unquote cs := by
  cases quotation <;> simp [wrap, unquote, List.filter_append, isQuote]

theorem NamePart.unquote_text (p : NamePart) : unquote p.text = p.word := by
  rw [text, Quotation.unquote_wrap, unquote, List.filter_eq_self]
  intro c member
  simp [unquoted_of_named (p.named c member)]

namespace QualifiedName

def relationChars (n : QualifiedName) : List Char :=
  n.first.word ++ n.more.flatMap fun part => '.' :: part.word

def relation (n : QualifiedName) : String := String.ofList n.relationChars

def column (n : QualifiedName) : String × String := (n.relation, String.ofList n.field.word)

def relationText (n : QualifiedName) : List Char :=
  n.quotation.wrap (n.first.text ++ n.more.flatMap fun part => '.' :: part.text)

def text (n : QualifiedName) : List Char := n.relationText ++ '.' :: n.field.text

theorem unquote_relationText (n : QualifiedName) : unquote n.relationText = n.relationChars := by
  have parts : ∀ parts : List NamePart,
      unquote (parts.flatMap fun part => '.' :: part.text) =
        parts.flatMap fun part => '.' :: part.word := by
    intro parts
    have dotted : isQuote '.' = false := by decide
    induction parts with
    | nil => rfl
    | cons part rest ih =>
      have here : unquote ('.' :: part.text) = '.' :: part.word := by
        rw [unquote, List.filter_cons_of_pos (by simp [dotted])]
        exact congrArg _ part.unquote_text
      rw [List.flatMap_cons, unquote_append, here, ih, List.flatMap_cons]
  rw [relationText, Quotation.unquote_wrap, unquote_append, NamePart.unquote_text, parts,
    relationChars]

theorem read (n : QualifiedName) :
    splitQualifiedChars n.text = some (n.relationChars, n.field.word) := by
  have dotted : isQuote '.' = false := by decide
  have fieldText : unquote ('.' :: n.field.text) = '.' :: n.field.word := by
    rw [unquote, List.filter_cons_of_pos (by simp [dotted])]
    exact congrArg _ n.field.unquote_text
  obtain ⟨c, others, first⟩ := List.exists_cons_of_ne_nil n.first.filled
  rw [splitQualifiedChars_eq_some_iff]
  refine ⟨?_, ?_, n.field.filled, ?_, ?_, n.field.named⟩
  · rw [text, unquote_append, unquote_relationText, fieldText]
  · rw [relationChars, first]
    exact List.cons_ne_nil _ _
  · have digitless := n.digitless
    rw [first] at digitless
    rw [relationChars, first]
    exact digitless
  · intro d member
    rcases List.mem_append.mp member with inside | inside
    · exact .inl (n.first.named d inside)
    · obtain ⟨part, -, within⟩ := List.mem_flatMap.mp inside
      rcases List.mem_cons.mp within with rfl | named
      · exact .inr rfl
      · exact .inl (part.named d named)

theorem whole (n : QualifiedName) : ∀ c ∈ n.text, isSeparator c = false :=
  qualified_unseparated n.read

theorem namedIn_text (n : QualifiedName) : namedIn n.text = [n.relation] := by
  have filled : n.text ≠ [] := by simp [text]
  have reference : wordReference n.text = some n.relation := by
    rw [wordReference, n.read]
    rfl
  rw [namedIn, words_of_unseparated filled n.whole, List.filterMap_cons_some reference,
    List.filterMap_nil]

theorem unconnected (n : QualifiedName) : Unconnected n.text := by
  have solid : ∀ c ∈ n.relationText ++ n.field.text, isBlank c = false := by
    intro c member
    apply unblank_of_unseparated
    apply n.whole
    rcases List.mem_append.mp member with inside | inside
    · exact List.mem_append_left _ inside
    · exact List.mem_append_right _ (List.mem_cons_of_mem _ inside)
  exact .word n.relationText n.field.text solid (by decide)

end QualifiedName

namespace Operand

def castText (o : Operand) : List Char :=
  match o.cast with
  | some type => ':' :: ':' :: type.word
  | none => []

def tail (o : Operand) : List Char := o.after ++ (o.castText ++ o.last)

def text (o : Operand) : List Char := o.before ++ (o.name.text ++ o.tail)

theorem before_loose (o : Operand) : ∀ c ∈ o.before, isLoose c :=
  fun c member => o.loose c (by simp [member])

theorem after_loose (o : Operand) : ∀ c ∈ o.after, isLoose c :=
  fun c member => o.loose c (by simp [member])

theorem last_loose (o : Operand) : ∀ c ∈ o.last, isLoose c :=
  fun c member => o.loose c (by simp [member])

theorem castText_cases (o : Operand) :
    o.castText = [] ∨ ∃ type : CastType, o.castText = ':' :: ':' :: type.word := by
  rw [castText]
  cases o.cast with
  | none => exact .inl rfl
  | some type => exact .inr ⟨type, rfl⟩

theorem mem_text {o : Operand} {c : Char} (member : c ∈ o.text) :
    isLoose c ∨ c = ':' ∨ isSeparator c = false := by
  simp only [text, tail, List.mem_append] at member
  rcases member with before | name | after | cast | last
  · exact .inl (o.before_loose c before)
  · exact .inr (.inr (o.name.whole c name))
  · exact .inl (o.after_loose c after)
  · rcases o.castText_cases with none | ⟨type, some⟩
    · rw [none] at cast
      cases cast
    · simp only [some, List.mem_cons] at cast
      rcases cast with colon | colon | inside
      · exact .inr (.inl colon)
      · exact .inr (.inl colon)
      · exact .inr (.inr (type.whole c inside))
  · exact .inl (o.last_loose c last)

theorem unmarked (o : Operand) : ∀ c ∈ ['=', '<', '>', '!'], c ∉ o.text := by
  intro c mark member
  have marks : ∀ d ∈ ['=', '<', '>', '!'], isLoose d = false ∧ d ≠ ':' ∧ isSeparator d = true := by
    decide
  obtain ⟨tight, other, separator⟩ := marks c mark
  rcases mem_text member with loose | colon | whole
  · rw [tight] at loose
    cases loose
  · exact other colon
  · rw [separator] at whole
    cases whole

theorem sideColumn_text (o : Operand) : sideColumn o.text = some o.name.column := by
  have uncolon : ':' ∉ o.name.text := fun colon => absurd (o.name.whole ':' colon) (by decide)
  have kept : bareSide o.text = o.name.text := by
    rw [bareSide_eq, text, tail, List.filter_append, List.filter_append, List.filter_append,
      List.filter_append, filter_loose o.before_loose, filter_loose o.after_loose,
      filter_loose o.last_loose, filter_unseparated o.name.whole, List.nil_append, List.nil_append,
      List.append_nil]
    rcases o.castText_cases with none | ⟨type, some⟩
    · rw [none, List.filter_nil, List.append_nil, beforeCast_of_uncolon uncolon]
    · have tight : isLoose ':' = false := by decide
      rw [some, List.filter_cons_of_pos (by simp [tight]),
        List.filter_cons_of_pos (by simp [tight]), beforeCast_append _ uncolon]
  rw [sideColumn, kept, o.name.read]
  rfl

theorem undotted_of_loose {cs : List Char} (loose : ∀ c ∈ cs, isLoose c) : '.' ∉ cs :=
  fun dot => absurd (loose '.' dot) (by decide)

theorem tail_undotted (o : Operand) : '.' ∉ o.tail := by
  rw [tail, List.mem_append, List.mem_append, not_or, not_or]
  refine ⟨undotted_of_loose o.after_loose, ?_, undotted_of_loose o.last_loose⟩
  rcases o.castText_cases with none | ⟨type, some⟩
  · simp [none]
  · simp [some, type.undotted]

theorem tail_beginsApart (o : Operand) : BeginsApart o.tail := by
  have after := beginsApart_of_separators fun c member =>
    isSeparator_of_isLoose (o.after_loose c member)
  have last := beginsApart_of_separators fun c member =>
    isSeparator_of_isLoose (o.last_loose c member)
  have cast : BeginsApart o.castText := by
    rcases o.castText_cases with none | ⟨type, some⟩
    · exact .inl none
    · exact .inr ⟨':', ':' :: type.word, some, by decide⟩
  exact after.append (cast.append last)

theorem namedIn_text (o : Operand) : namedIn o.text = [o.name.relation] := by
  have before := endsApart_of_separators fun c member =>
    isSeparator_of_isLoose (o.before_loose c member)
  rw [text, namedIn_append_ends before, namedIn_append_begins o.tail_beginsApart,
    namedIn_of_undotted (undotted_of_loose o.before_loose), namedIn_of_undotted o.tail_undotted,
    o.name.namedIn_text]
  rfl

theorem unconnected (o : Operand) : Unconnected o.text := by
  have cast : Unconnected o.castText := by
    rcases o.castText_cases with none | ⟨type, some⟩
    · rw [none]
      exact .nil
    · have solid : ∀ c ∈ ':' :: type.word, isBlank c = false := by
        intro c member
        rcases List.mem_cons.mp member with rfl | inside
        · decide
        · exact unblank_of_unseparated (type.whole c inside)
      rw [some]
      exact .word [] (':' :: type.word) solid (by decide)
  have before := Unconnected.of_loose o.before_loose
  have after := Unconnected.of_loose o.after_loose
  have last := Unconnected.of_loose o.last_loose
  exact before.append (o.name.unconnected.append (after.append (cast.append last)))

end Operand

end JoinDiagram.Condition
