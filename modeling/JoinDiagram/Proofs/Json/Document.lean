import JoinDiagram.Proofs.Json.Quoted
import JoinDiagram.Proofs.Text.CharClass
import Mathlib.Data.List.Forall2

namespace JoinDiagram.Json

section List

variable {α : Type}

def readParts (one : List Char → Option (α × List Char)) (closing : Char) :
    Nat → List Char → Option (List α × List Char)
  | fuel + 1, cs => do
    let (a, rest) ← one (skipBlanks cs)
    match skipBlanks rest with
    | c :: rest =>
      if c == ',' then (readParts one closing fuel rest).map fun (as, rest) => (a :: as, rest)
      else if c == closing then some ([a], rest)
      else none
    | [] => none
  | 0, _ => none

def readBracket (one : List Char → Option (α × List Char)) (closing : Char) (cs : List Char) :
    Option (List α × List Char) :=
  match skipBlanks cs with
  | c :: rest => if c == closing then some ([], rest) else readParts one closing cs.length cs
  | [] => none

end List

def readNatural (cs : List Char) : Option (Nat × List Char) :=
  let digits := cs.takeWhile Text.isAsciiDigit
  if digits.isEmpty || digits.head? == some '0' && digits.length > 1 then none
  else some (Nat.ofDigitChars 10 digits 0, cs.drop digits.length)

def readField (one : List Char → Option (Json × List Char)) (cs : List Char) :
    Option ((String × Json) × List Char) := do
  let (key, rest) ← readString cs.length cs
  match skipBlanks rest with
  | ':' :: rest => (one (skipBlanks rest)).map fun (v, rest) => ((key, v), rest)
  | _ => none

def readValue : Nat → List Char → Option (Json × List Char)
  | fuel + 1, cs =>
    match cs with
    | '"' :: _ => (readString cs.length cs).map fun (s, rest) => (string s, rest)
    | '[' :: rest =>
      (readBracket (readValue fuel) ']' rest).map fun (items, rest) => (array items, rest)
    | '{' :: rest =>
      (readBracket (readField (readValue fuel)) '}' rest).map fun (fields, rest) =>
        (object fields, rest)
    | 'n' :: rest => (skipWord ['u', 'l', 'l'] rest).map fun rest => (null, rest)
    | 't' :: rest => (skipWord ['r', 'u', 'e'] rest).map fun rest => (bool true, rest)
    | 'f' :: rest => (skipWord ['a', 'l', 's', 'e'] rest).map fun rest => (bool false, rest)
    | _ => (readNatural cs).map fun (n, rest) => (natural n, rest)
  | 0, _ => none

def ofText? (text : String) : Option Json :=
  match readValue text.length text.toList with
  | some (v, []) => some v
  | _ => none

/-! ## Blanks -/

def Blank (cs : List Char) : Prop := ∀ c ∈ cs, isBlank c

theorem skipBlanks_append {front : List Char} (blank : Blank front) (rest : List Char) :
    skipBlanks (front ++ rest) = skipBlanks rest :=
  List.dropWhile_append_of_pos blank

theorem skipBlanks_cons {c : Char} (solid : isBlank c = false) (rest : List Char) :
    skipBlanks (c :: rest) = c :: rest :=
  List.dropWhile_cons_of_neg (by simp [solid])

structure Layout.Sparse (l : Layout) : Prop where
  afterColon : Blank l.afterColon.toList
  lineBreak : ∀ depth, Blank (l.lineBreak depth).toList

theorem Layout.compact_sparse : compact.Sparse := by
  refine ⟨fun c member => ?_, fun depth c member => ?_⟩
  · cases member
  · cases member

theorem Layout.pretty_sparse : pretty.Sparse := by
  refine ⟨fun c member => ?_, fun depth c member => ?_⟩
  · rw [List.mem_singleton.mp member]
    rfl
  · change c ∈ (String.ofList _).toList at member
    rw [String.toList_ofList, List.mem_cons] at member
    rcases member with rfl | member
    · rfl
    · rw [List.eq_of_mem_replicate member]
      rfl

/-! ## Reading what was laid out -/

def Ends : List Char → Prop
  | [] => True
  | c :: _ => Text.isAsciiDigit c = false

theorem isAsciiDigit_of_isBlank {c : Char} (blank : isBlank c) : Text.isAsciiDigit c = false := by
  simp only [isBlank, Bool.or_eq_true, beq_iff_eq] at blank
  rcases blank with ((rfl | rfl) | rfl) | rfl <;> rfl

theorem ends_append {front rest : List Char} (blank : Blank front) (ends : Ends rest) :
    Ends (front ++ rest) := by
  cases front with
  | nil => exact ends
  | cons c front => exact isAsciiDigit_of_isBlank (blank c List.mem_cons_self)

def Opens : List Char → Prop
  | [] => False
  | c :: _ => isBlank c = false ∧ c ≠ ']' ∧ c ≠ '}'

theorem Opens.skipBlanks {text : List Char} (opens : Opens text) (rest : List Char) :
    skipBlanks (text ++ rest) = text ++ rest := by
  cases text with
  | nil => cases opens
  | cons c cs => exact skipBlanks_cons opens.1 (cs ++ rest)

theorem Opens.length_pos {text : List Char} (opens : Opens text) : 1 ≤ text.length := by
  cases text with
  | nil => cases opens
  | cons c cs => simp

theorem length_le_intercalate {text : List Char} (sep : List Char) {texts : List (List Char)}
    (member : text ∈ texts) : text.length ≤ (sep.intercalate texts).length := by
  induction texts with
  | nil => cases member
  | cons first texts ih =>
    cases texts with
    | nil =>
      rw [List.mem_singleton.mp member, List.intercalate_singleton]
    | cons second texts =>
      rw [List.intercalate_cons_cons, List.length_append, List.length_append]
      rcases List.mem_cons.mp member with rfl | later
      · omega
      · have inside := ih later
        omega

theorem count_le_intercalate (sep : List Char) {texts : List (List Char)}
    (opens : ∀ text ∈ texts, Opens text) : texts.length ≤ (sep.intercalate texts).length := by
  induction texts with
  | nil => exact Nat.zero_le _
  | cons first texts ih =>
    have one := (opens first List.mem_cons_self).length_pos
    have more := ih fun text member => opens text (List.mem_cons_of_mem first member)
    cases texts with
    | nil =>
      rw [List.intercalate_singleton]
      exact one
    | cons second texts =>
      rw [List.intercalate_cons_cons, List.length_append, List.length_append]
      simp only [List.length_cons] at more ⊢
      omega

section List

variable {α : Type} {one : List Char → Option (α × List Char)} {o closing : Char}

structure ReadsAs (one : List Char → Option (α × List Char)) (text : List Char) (a : α) :
    Prop where
  opens : Opens text
  reads : ∀ rest, Ends rest → one (text ++ rest) = some (a, rest)

structure Closes (closing : Char) : Prop where
  solid : isBlank closing = false
  ends : Text.isAsciiDigit closing = false
  comma : (closing == ',') = false
  unopened : ∀ text, Opens text → text.head? ≠ some closing

theorem closes_bracket : Closes ']' := by
  refine ⟨rfl, rfl, rfl, fun text opens head => ?_⟩
  cases text with
  | nil => cases opens
  | cons c cs => exact opens.2.1 (Option.some.inj head)

theorem closes_brace : Closes '}' := by
  refine ⟨rfl, rfl, rfl, fun text opens head => ?_⟩
  cases text with
  | nil => cases opens
  | cons c cs => exact opens.2.2 (Option.some.inj head)

theorem readParts_step {text front rest : List Char} {a : α} (first : ReadsAs one text a)
    (blank : Blank front) (ends : Ends rest) (fuel : Nat) :
    readParts one closing (fuel + 1) (front ++ (text ++ rest)) =
      match skipBlanks rest with
      | c :: rest =>
        if c == ',' then (readParts one closing fuel rest).map fun (as, rest) => (a :: as, rest)
        else if c == closing then some ([a], rest)
        else none
      | [] => none := by
  rw [readParts, skipBlanks_append blank, first.opens.skipBlanks, first.reads rest ends]
  rfl

theorem readParts_intercalate {texts : List (List Char)} {values : List α}
    (each : List.Forall₂ (ReadsAs one) texts values) (closes : Closes closing)
    {gap last : List Char} (gapBlank : Blank gap) (lastBlank : Blank last) (rest : List Char)
    (fuel : Nat) (enough : texts.length ≤ fuel) (filled : texts ≠ []) {front : List Char}
    (blank : Blank front) :
    readParts one closing fuel
        (front ++ ((',' :: gap).intercalate texts ++ (last ++ closing :: rest))) =
      some (values, rest) := by
  induction each generalizing fuel front with
  | nil => exact absurd rfl filled
  | cons first later ih =>
    cases fuel with
    | zero => cases enough
    | succ fuel =>
      cases later with
      | nil =>
        have ends : Ends (last ++ closing :: rest) := ends_append lastBlank closes.ends
        rw [List.intercalate_singleton, readParts_step first blank ends,
          skipBlanks_append lastBlank, skipBlanks_cons closes.solid]
        simp only [closes.comma, beq_self_eq_true, Bool.false_eq_true, if_false, if_true]
      | cons second more =>
        have shorter := Nat.le_of_succ_le_succ enough
        have ends : ∀ text, Ends (',' :: text) := fun _ => rfl
        have tail := ih fuel shorter (List.cons_ne_nil _ _) gapBlank
        rw [List.intercalate_cons_cons, List.append_assoc, List.append_assoc, List.cons_append,
          readParts_step first blank (ends _), skipBlanks_cons rfl]
        simp only [beq_self_eq_true, if_true, tail, Option.map_some]

theorem Layout.toList_bracket (l : Layout) (depth : Nat) (opening closing : String)
    {texts : List String} (filled : texts ≠ []) :
    (l.bracket depth opening closing texts).toList =
      opening.toList ++ ((l.lineBreak (depth + 1)).toList ++
        ((',' :: (l.lineBreak (depth + 1)).toList).intercalate (texts.map String.toList) ++
          ((l.lineBreak depth).toList ++ closing.toList))) := by
  have listed : texts.isEmpty = false := List.isEmpty_eq_false_iff.mpr filled
  simp [Layout.bracket, listed, String.toList_intercalate]

theorem Layout.length_lt_bracket (l : Layout) (depth : Nat) (opening closing : String)
    (opens : opening.toList.length = 1) {text : String} {texts : List String}
    (member : text ∈ texts) :
    text.toList.length < (l.bracket depth opening closing texts).toList.length := by
  have inside := length_le_intercalate (',' :: (l.lineBreak (depth + 1)).toList)
    (List.mem_map_of_mem (f := String.toList) member)
  rw [l.toList_bracket depth opening closing (List.ne_nil_of_mem member), List.length_append,
    List.length_append, List.length_append, opens]
  omega

theorem opens_of_readsAs {texts : List (List Char)} {values : List α}
    (each : List.Forall₂ (ReadsAs one) texts values) : ∀ text ∈ texts, Opens text := by
  induction each with
  | nil => exact List.forall_mem_nil _
  | cons first _ ih => exact List.forall_mem_cons.mpr ⟨first.opens, ih⟩

theorem opens_intercalate (sep : List Char) {texts : List (List Char)}
    (opens : ∀ text ∈ texts, Opens text) (filled : texts ≠ []) : Opens (sep.intercalate texts) := by
  cases texts with
  | nil => exact absurd rfl filled
  | cons first texts =>
    have head := opens first List.mem_cons_self
    cases first with
    | nil => cases head
    | cons c cs => cases texts <;> exact head

theorem readBracket_intercalate {texts : List (List Char)} {values : List α}
    (each : List.Forall₂ (ReadsAs one) texts values) (closes : Closes closing)
    {gap last : List Char} (gapBlank : Blank gap) (lastBlank : Blank last)
    (filled : texts ≠ []) (rest : List Char) :
    readBracket one closing (gap ++ ((',' :: gap).intercalate texts ++ (last ++ closing :: rest))) =
      some (values, rest) := by
  have opens := opens_of_readsAs each
  have partsOpen := opens_intercalate (',' :: gap) opens filled
  have counted := count_le_intercalate (',' :: gap) opens
  have enough : texts.length ≤
      (gap ++ ((',' :: gap).intercalate texts ++ (last ++ closing :: rest))).length := by
    rw [List.length_append, List.length_append]
    omega
  have unclosed := closes.unopened _ partsOpen
  have parts := readParts_intercalate each closes gapBlank lastBlank rest _ enough filled gapBlank
  rw [readBracket, skipBlanks_append gapBlank, partsOpen.skipBlanks]
  cases head : (',' :: gap).intercalate texts with
  | nil =>
    rw [head] at partsOpen
    cases partsOpen
  | cons c cs =>
    rw [head] at parts unclosed
    have other : (c == closing) = false :=
      beq_false_of_ne fun same => unclosed (congrArg some same)
    simp only [List.cons_append, other, Bool.false_eq_true, if_false]
    exact parts

theorem readBracket_bracket {l : Layout} (sparse : l.Sparse) {texts : List String}
    {values : List α} (each : List.Forall₂ (ReadsAs one) (texts.map String.toList) values)
    (closes : Closes closing) (depth : Nat) (before after : String)
    (opened : before.toList = [o]) (closed : after.toList = [closing]) :
    ∃ body, (l.bracket depth before after texts).toList = o :: body ∧
      ∀ rest, readBracket one closing (body ++ rest) = some (values, rest) := by
  cases texts with
  | nil =>
    cases each
    refine ⟨[closing], ?_, ?_⟩
    · rw [Layout.bracket, List.isEmpty_nil, if_pos rfl, String.toList_append, opened, closed]
      rfl
    · intro rest
      rw [readBracket, List.singleton_append, skipBlanks_cons closes.solid]
      simp only [beq_self_eq_true, if_true]
  | cons first texts =>
    have text := l.toList_bracket depth before after (List.cons_ne_nil first texts)
    rw [opened, closed, List.singleton_append] at text
    refine ⟨_, text, fun rest => ?_⟩
    have read := readBracket_intercalate each closes (sparse.lineBreak (depth + 1))
      (sparse.lineBreak depth) (List.cons_ne_nil _ _) rest
    simpa only [List.append_assoc, List.singleton_append] using read

end List

/-! ## Numbers -/

theorem takeWhile_append_ends {digits rest : List Char}
    (all : ∀ c ∈ digits, Text.isAsciiDigit c) (ends : Ends rest) :
    (digits ++ rest).takeWhile Text.isAsciiDigit = digits := by
  rw [List.takeWhile_append_of_pos all]
  cases rest with
  | nil => rw [List.takeWhile_nil, List.append_nil]
  | cons c rest =>
    have stops : Text.isAsciiDigit c = false := ends
    rw [List.takeWhile_cons_of_neg (by simp [stops]), List.append_nil]

theorem readNatural_toDigits (n : Nat) {rest : List Char} (ends : Ends rest) :
    readNatural (Nat.toDigits 10 n ++ rest) = some (n, rest) := by
  have digits := takeWhile_append_ends
    (fun _ member => Text.isAsciiDigit_of_mem_toDigits (n := n) member) ends
  have some : (Nat.toDigits 10 n).isEmpty = false :=
    List.isEmpty_eq_false_iff.mpr Nat.toDigits_ne_nil
  have unpadded : ((Nat.toDigits 10 n).head? == .some '0' &&
      decide ((Nat.toDigits 10 n).length > 1)) = false := by
    by_cases positive : 0 < n
    · rw [beq_false_of_ne (Text.head_toDigits positive), Bool.false_and]
    · obtain rfl : n = 0 := by omega
      rfl
  rw [readNatural, digits, some, unpadded, List.drop_left, Nat.ofDigitChars_ten_toDigits]
  rfl

/-! ## Values -/

theorem skipWord_append (word rest : List Char) : skipWord word (word ++ rest) = some rest := by
  rw [skipWord, List.take_left, List.drop_left, if_pos (beq_self_eq_true word)]

theorem readValue_digit {c : Char} (digit : Text.isAsciiDigit c) (fuel : Nat) (cs : List Char) :
    readValue (fuel + 1) (c :: cs) =
      (readNatural (c :: cs)).map fun (n, rest) => (natural n, rest) := by
  have quote : c ≠ '"' := by rintro rfl; cases digit
  have bracket : c ≠ '[' := by rintro rfl; cases digit
  have brace : c ≠ '{' := by rintro rfl; cases digit
  have n : c ≠ 'n' := by rintro rfl; cases digit
  have t : c ≠ 't' := by rintro rfl; cases digit
  have f : c ≠ 'f' := by rintro rfl; cases digit
  simp [readValue, quote, bracket, brace, n, t, f]

theorem readsAs_natural (n fuel : Nat) :
    ReadsAs (readValue (fuel + 1)) (Nat.toDigits 10 n) (natural n) := by
  cases digits : Nat.toDigits 10 n with
  | nil => exact absurd digits Nat.toDigits_ne_nil
  | cons c cs =>
    have digit : Text.isAsciiDigit c := by
      refine Text.isAsciiDigit_of_mem_toDigits (n := n) ?_
      rw [digits]
      exact List.mem_cons_self
    constructor
    · refine ⟨?_, ?_, ?_⟩
      · by_contra blank
        rw [isAsciiDigit_of_isBlank (by simpa using blank)] at digit
        cases digit
      · rintro rfl
        cases digit
      · rintro rfl
        cases digit
    · intro rest ends
      rw [List.cons_append, readValue_digit digit, ← List.cons_append, ← digits,
        readNatural_toDigits n ends]
      rfl

theorem readsAs_string (s : String) (fuel : Nat) :
    ReadsAs (readValue (fuel + 1)) (quoted s).toList (string s) := by
  have text := toList_quoted s
  constructor
  · rw [text]
    exact ⟨rfl, by decide, by decide⟩
  · intro rest _
    have enough : s.toList.length < ((quoted s).toList ++ rest).length := by
      have shorter := length_lt_quoted s
      rw [List.length_append]
      omega
    have read := readString_quoted s rest enough
    rw [text, List.cons_append] at read ⊢
    rw [readValue, read]
    rfl

theorem readsAs_field {l : Layout} (sparse : l.Sparse) {one : List Char → Option (Json × List Char)}
    {value : String} {v : Json} (inside : ReadsAs one value.toList v) (key : String) :
    ReadsAs (readField one) (quoted key ++ ":" ++ l.afterColon ++ value).toList (key, v) := by
  constructor
  · simp only [String.toList_append, toList_quoted]
    exact ⟨rfl, by decide, by decide⟩
  · intro rest ends
    have text : (quoted key ++ ":" ++ l.afterColon ++ value).toList ++ rest =
        (quoted key).toList ++ ':' :: (l.afterColon.toList ++ (value.toList ++ rest)) := by
      simp
    have enough : key.toList.length < ((quoted key).toList ++
        ':' :: (l.afterColon.toList ++ (value.toList ++ rest))).length := by
      have shorter := length_lt_quoted key
      rw [List.length_append]
      omega
    rw [text, readField, readString_quoted key _ enough]
    simp only [Option.bind_eq_bind, Option.bind_some, skipBlanks_cons (c := ':') rfl]
    rw [skipBlanks_append sparse.afterColon, inside.opens.skipBlanks, inside.reads rest ends]
    rfl

theorem renderAt_length_pos (l : Layout) (depth : Nat) (v : Json) :
    1 ≤ (renderAt l depth v).toList.length := by
  cases v with
  | null => rw [renderAt]; decide
  | bool value => cases value <;> rw [renderAt] <;> decide
  | natural n =>
    rw [renderAt, Nat.toString_eq_repr, Nat.toList_repr]
    exact List.length_pos_of_ne_nil Nat.toDigits_ne_nil
  | string s =>
    rw [renderAt, toList_quoted, List.length_cons]
    omega
  | array items =>
    rw [renderAt, Layout.bracket]
    split <;> simp
  | object fields =>
    rw [renderAt, Layout.bracket]
    split <;> simp

theorem exists_fuel {l : Layout} {depth fuel : Nat} {v : Json}
    (enough : (renderAt l depth v).toList.length ≤ fuel) : ∃ n, fuel = n + 1 :=
  Nat.exists_eq_add_one.mpr ((renderAt_length_pos l depth v).trans enough)

mutual

theorem readsAs_render {l : Layout} (sparse : l.Sparse) (v : Json) (fuel depth : Nat)
    (enough : (renderAt l depth v).toList.length ≤ fuel) :
    ReadsAs (readValue fuel) (renderAt l depth v).toList v := by
  obtain ⟨fuel, rfl⟩ := exists_fuel enough
  cases v with
  | null =>
    rw [renderAt]
    exact ⟨⟨rfl, by decide, by decide⟩, fun rest _ =>
      congrArg (Option.map fun rest => (null, rest)) (skipWord_append ['u', 'l', 'l'] rest)⟩
  | bool value =>
    rw [renderAt]
    cases value with
    | true => exact ⟨⟨rfl, by decide, by decide⟩, fun rest _ =>
      congrArg (Option.map fun rest => (bool true, rest)) (skipWord_append ['r', 'u', 'e'] rest)⟩
    | false => exact ⟨⟨rfl, by decide, by decide⟩, fun rest _ =>
      congrArg (Option.map fun rest => (bool false, rest))
        (skipWord_append ['a', 'l', 's', 'e'] rest)⟩
  | natural n =>
    rw [renderAt, Nat.toString_eq_repr, Nat.toList_repr]
    exact readsAs_natural n fuel
  | string s =>
    rw [renderAt]
    exact readsAs_string s fuel
  | array items =>
    rw [renderAt] at enough ⊢
    -- every part is shorter than the brackets around it, so the remaining fuel is enough for it
    have each := readsAs_renderItems sparse items fuel (depth + 1) fun text member => by
      have shorter := l.length_lt_bracket depth "[" "]" rfl member
      omega
    obtain ⟨body, text, read⟩ :=
      readBracket_bracket sparse each closes_bracket depth "[" "]" (o := '[') rfl rfl
    rw [text]
    refine ⟨⟨rfl, by decide, by decide⟩, fun rest _ => ?_⟩
    rw [List.cons_append, readValue, read]
    rfl
  | object fields =>
    rw [renderAt] at enough ⊢
    have each := readsAs_renderFields sparse fields fuel (depth + 1) fun text member => by
      have shorter := l.length_lt_bracket depth "\x7b" "\x7d" rfl member
      omega
    obtain ⟨body, text, read⟩ :=
      readBracket_bracket sparse each closes_brace depth "\x7b" "\x7d" (o := '{') rfl rfl
    rw [text]
    refine ⟨⟨rfl, by decide, by decide⟩, fun rest _ => ?_⟩
    rw [List.cons_append, readValue, read]
    rfl

theorem readsAs_renderItems {l : Layout} (sparse : l.Sparse) :
    (vs : List Json) → (fuel depth : Nat) →
    (∀ text ∈ renderItems l depth vs, text.toList.length ≤ fuel) →
    List.Forall₂ (ReadsAs (readValue fuel)) ((renderItems l depth vs).map String.toList) vs
  | [], _, _, _ => .nil
  | v :: vs, fuel, depth, enough => by
    rw [renderItems] at enough ⊢
    obtain ⟨first, later⟩ := List.forall_mem_cons.mp enough
    exact .cons (readsAs_render sparse v fuel depth first)
      (readsAs_renderItems sparse vs fuel depth later)

theorem readsAs_renderFields {l : Layout} (sparse : l.Sparse) :
    (fs : List (String × Json)) → (fuel depth : Nat) →
    (∀ text ∈ renderFields l depth fs, text.toList.length ≤ fuel) →
    List.Forall₂ (ReadsAs (readField (readValue fuel)))
      ((renderFields l depth fs).map String.toList) fs
  | [], _, _, _ => .nil
  | (key, v) :: fs, fuel, depth, enough => by
    rw [renderFields] at enough ⊢
    obtain ⟨first, later⟩ := List.forall_mem_cons.mp enough
    have shorter : (renderAt l depth v).toList.length ≤ fuel := by
      rw [String.toList_append, List.length_append] at first
      omega
    exact .cons (readsAs_field sparse (readsAs_render sparse v fuel depth shorter) key)
      (readsAs_renderFields sparse fs fuel depth later)

end

theorem ofText_render {l : Layout} (sparse : l.Sparse) (v : Json) :
    ofText? (v.render l) = some v := by
  have read := (readsAs_render sparse v _ 0 (Nat.le_refl _)).reads [] trivial
  rw [List.append_nil] at read
  rw [ofText?, render, ← String.length_toList, read]

example : ofText? "[10,\n null]" = some (array [natural 10, null]) := rfl

example : ofText? "[] " = none := rfl

example : ofText? "[010]" = none := rfl

end JoinDiagram.Json
