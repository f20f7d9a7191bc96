import JoinDiagram.Proofs.Analysis.SettingsFile
import JoinDiagram.Proofs.Text.CharClass
import Mathlib.Data.List.Forall2

namespace JoinDiagram.Settings

open Yaml (Scalar)

def Field.spellings : Field → List String
  | .maxQueryLength => ["max_query_length", "max-query-length"]
  | .complexityWarningThreshold =>
    ["complexity_warning_threshold", "complexity-warning-threshold"]

theorem Field.ofKey?_eq_some_iff {key : String} {f : Field} :
    ofKey? key = some f ↔ key ∈ f.spellings := by
  rw [ofKey?]
  by_cases isLength : key = "max_query_length" ∨ key = "max-query-length"
  · rcases isLength with rfl | rfl <;> cases f <;> decide
  · by_cases isThreshold :
      key = "complexity_warning_threshold" ∨ key = "complexity-warning-threshold"
    · rcases isThreshold with rfl | rfl <;> cases f <;> decide
    · cases f <;> simp_all [spellings, lengthField, thresholdField]

def Names (e : Scalar × Scalar) (f : Field) : Prop := e.1.text ∈ f.spellings

theorem Names.unique {e : Scalar × Scalar} {f g : Field} (names : Names e f) (names' : Names e g) :
    f = g := by
  have found := Field.ofKey?_eq_some_iff.mpr names
  rw [Field.ofKey?_eq_some_iff.mpr names'] at found
  exact (Option.some.inj found).symm

def Gives (entries : List (Scalar × Scalar)) (f : Field) (n : Nat) : Prop :=
  ∃ e ∈ entries, Names e f ∧ value? e.2 = some n

/-- No fault in any entry: limits of zero are none. -/
structure Legible (entries : List (Scalar × Scalar)) : Prop where
  known : ∀ e ∈ entries, ∃ f, Names e f
  once : entries.Pairwise fun e e' => ∀ f, Names e f → ¬ Names e' f
  numbers : ∀ e ∈ entries, ∃ n, value? e.2 = some n

namespace Given

theorem get_set (p : Given) (n : Nat) (f g : Field) :
    (p.set n f).get g = if f = g then some n else p.get g := by
  cases f <;> cases g <;> rfl

theorem addEntry_eq_some_iff {p q : Given} {e : Scalar × Scalar} :
    p.addEntry e.1 e.2 = some q ↔
      ∃ f n, Names e f ∧ value? e.2 = some n ∧ p.get f = none ∧ q = p.set n f := by
  have named : ∀ f, Names e f ↔ Field.ofKey? e.1.text = some f :=
    fun f => Field.ofKey?_eq_some_iff.symm
  simp only [addEntry, named, Option.bind_eq_bind, Option.bind_eq_some_iff]
  constructor
  · rintro ⟨f, key, added⟩
    split at added
    · cases added
    · rename_i fresh
      obtain ⟨n, number, set⟩ := Option.bind_eq_some_iff.mp added
      exact ⟨f, n, key, number, by simpa using fresh, (Option.some.inj set).symm⟩
  · rintro ⟨f, n, key, number, fresh, rfl⟩
    refine ⟨f, key, ?_⟩
    rw [fresh, number]
    rfl

end Given

def addEntries (p : Given) (entries : List (Scalar × Scalar)) : Option Given :=
  entries.foldlM (fun p (key, value) => Given.addEntry p key value) p

theorem legible_cons {e : Scalar × Scalar} {rest : List (Scalar × Scalar)} :
    Legible (e :: rest) ↔ (∃ f, Names e f) ∧ (∀ e' ∈ rest, ∀ f, Names e f → ¬ Names e' f) ∧
      (∃ n, value? e.2 = some n) ∧ Legible rest := by
  constructor
  · rintro ⟨known, once, numbers⟩
    rw [List.forall_mem_cons] at known numbers
    rw [List.pairwise_cons] at once
    exact ⟨known.1, once.1, numbers.1, known.2, once.2, numbers.2⟩
  · rintro ⟨key, apart, number, known, once, numbers⟩
    exact ⟨List.forall_mem_cons.mpr ⟨key, known⟩, List.pairwise_cons.mpr ⟨apart, once⟩,
      List.forall_mem_cons.mpr ⟨number, numbers⟩⟩

def Fresh (p : Given) (entries : List (Scalar × Scalar)) : Prop :=
  ∀ e ∈ entries, ∀ f, Names e f → p.get f = none

theorem gives_cons {e : Scalar × Scalar} {rest : List (Scalar × Scalar)} {f : Field} {n : Nat} :
    Gives (e :: rest) f n ↔ (Names e f ∧ value? e.2 = some n) ∨ Gives rest f n := by
  simp [Gives]

theorem addEntries_cons (p : Given) (e : Scalar × Scalar) (rest : List (Scalar × Scalar)) :
    addEntries p (e :: rest) = (p.addEntry e.1 e.2).bind (addEntries · rest) := rfl

theorem legible_of_addEntries {p q : Given} {entries : List (Scalar × Scalar)}
    (added : addEntries p entries = some q) : Legible entries ∧ Fresh p entries := by
  induction entries generalizing p with
  | nil => exact ⟨⟨by simp, .nil, by simp⟩, by simp [Fresh]⟩
  | cons e rest ih =>
    rw [addEntries_cons, Option.bind_eq_some_iff] at added
    obtain ⟨next, entered, more⟩ := added
    obtain ⟨f, n, key, number, fresh, rfl⟩ := Given.addEntry_eq_some_iff.mp entered
    obtain ⟨legible, later⟩ := ih more
    have apart : ∀ e' ∈ rest, ¬ Names e' f := by
      intro e' member again
      have taken := later e' member f again
      rw [Given.get_set, if_pos rfl] at taken
      cases taken
    constructor
    · rw [legible_cons]
      refine ⟨⟨f, key⟩, ?_, ⟨n, number⟩, legible⟩
      intro e' member g key'
      rw [key'.unique key]
      exact apart e' member
    · rw [Fresh, List.forall_mem_cons]
      constructor
      · intro g key'
        rw [key'.unique key]
        exact fresh
      · intro e' member g again
        have different : f ≠ g := by
          rintro rfl
          exact apart e' member again
        have open' := later e' member g again
        rwa [Given.get_set, if_neg different] at open'

theorem addEntries_of_legible {p : Given} {entries : List (Scalar × Scalar)}
    (legible : Legible entries) (fresh : Fresh p entries) :
    ∃ q, addEntries p entries = some q ∧
      ∀ f n, q.get f = some n ↔ p.get f = some n ∨ Gives entries f n := by
  induction entries generalizing p with
  | nil => exact ⟨p, rfl, by simp [Gives]⟩
  | cons e rest ih =>
    obtain ⟨⟨f, key⟩, apart, ⟨n, number⟩, others⟩ := legible_cons.mp legible
    rw [Fresh, List.forall_mem_cons] at fresh
    have entered : p.addEntry e.1 e.2 = some (p.set n f) :=
      Given.addEntry_eq_some_iff.mpr ⟨f, n, key, number, fresh.1 f key, rfl⟩
    have later : Fresh (p.set n f) rest := by
      intro e' member g key'
      have different : f ≠ g := by
        rintro rfl
        exact apart e' member f key key'
      rw [Given.get_set, if_neg different]
      exact fresh.2 e' member g key'
    obtain ⟨q, added, gets⟩ := ih others later
    refine ⟨q, by rw [addEntries_cons, entered]; exact added, ?_⟩
    intro g m
    rw [gets, gives_cons, Given.get_set]
    by_cases same : f = g
    · subst same
      rw [if_pos rfl, fresh.1 f key, number, Option.some.injEq]
      simp [key]
    · have unnamed : ¬ Names e g := fun key' => same (key.unique key')
      rw [if_neg same]
      simp [unnamed]

def get (s : Settings) : Field → Nat
  | .maxQueryLength => s.maxQueryLength
  | .complexityWarningThreshold => s.complexityWarningThreshold

structure Fits (s : Settings) (entries : List (Scalar × Scalar)) : Prop where
  given : ∀ f n, Gives entries f n → s.get f = n
  missing : ∀ f, (∀ n, ¬ Gives entries f n) → s.get f = standard.get f

theorem Given.complete_get (p : Given) (f : Field) :
    p.complete.get f = (p.get f).getD (standard.get f) := by
  cases f <;> rfl

theorem ofEntries?_of_legible {entries : List (Scalar × Scalar)} (legible : Legible entries) :
    ∃ s, ofEntries? entries = some s ∧ s.Fits entries := by
  have fresh : Fresh Given.empty entries := by
    intro e _ f _
    cases f <;> rfl
  obtain ⟨q, added, gets⟩ := addEntries_of_legible legible fresh
  have gives : ∀ f n, q.get f = some n ↔ Gives entries f n := by
    intro f n
    rw [gets]
    cases f <;> simp [Given.get, Given.empty]
  refine ⟨q.complete, congrArg (Option.map Given.complete) added, ?_, ?_⟩
  · intro f n given
    rw [Given.complete_get, (gives f n).mpr given, Option.getD_some]
  · intro f missing
    have absent : q.get f = none :=
      Option.eq_none_iff_forall_ne_some.mpr fun n found => missing n ((gives f n).mp found)
    rw [Given.complete_get, absent, Option.getD_none]

theorem legible_of_ofEntries? {entries : List (Scalar × Scalar)} {s : Settings}
    (read : ofEntries? entries = some s) : Legible entries := by
  obtain ⟨q, added, -⟩ := Option.map_eq_some_iff.mp read
  exact (legible_of_addEntries added).1

theorem Fits.unique {s s' : Settings} {entries : List (Scalar × Scalar)} (fits : s.Fits entries)
    (fits' : s'.Fits entries) : s = s' := by
  have same : ∀ f, s.get f = s'.get f := by
    intro f
    by_cases given : ∃ n, Gives entries f n
    · obtain ⟨n, given⟩ := given
      rw [fits.given f n given, fits'.given f n given]
    · have missing := not_exists.mp given
      rw [fits.missing f missing, fits'.missing f missing]
  have length : s.maxQueryLength = s'.maxQueryLength := same .maxQueryLength
  have threshold : s.complexityWarningThreshold = s'.complexityWarningThreshold :=
    same .complexityWarningThreshold
  cases s
  cases s'
  simp_all

theorem Fits.get_eq_zero_iff {s : Settings} {entries : List (Scalar × Scalar)}
    (fits : s.Fits entries) (f : Field) : s.get f = 0 ↔ Gives entries f 0 := by
  constructor
  · intro zero
    by_cases given : ∃ n, Gives entries f n
    · obtain ⟨n, given⟩ := given
      rw [fits.given f n given] at zero
      rwa [zero] at given
    · rw [fits.missing f (not_exists.mp given)] at zero
      cases f <;> cases zero
  · exact fits.given f 0

theorem ofEntries_of_legible {entries : List (Scalar × Scalar)} (legible : Legible entries) :
    ∃ s, s.Fits entries ∧ ofEntries entries =
      if s.get .maxQueryLength = 0 then .error (.notPositive lengthField)
      else if s.get .complexityWarningThreshold = 0 then .error (.notPositive thresholdField)
      else .ok s := by
  obtain ⟨s, read, fits⟩ := ofEntries?_of_legible legible
  refine ⟨s, fits, ?_⟩
  rw [ofEntries, read]
  rfl

theorem ofEntries_of_not_legible {entries : List (Scalar × Scalar)} (faulty : ¬ Legible entries) :
    ofEntries entries = .error .malformed := by
  rw [ofEntries]
  cases read : ofEntries? entries with
  | none => rfl
  | some s => exact absurd (legible_of_ofEntries? read) faulty

theorem ofEntries_eq_malformed_iff {entries : List (Scalar × Scalar)} :
    ofEntries entries = .error .malformed ↔ ¬ Legible entries := by
  constructor
  · intro decoded legible
    obtain ⟨s, -, outcome⟩ := ofEntries_of_legible legible
    rw [decoded] at outcome
    split at outcome
    · cases outcome
    · split at outcome <;> cases outcome
  · exact ofEntries_of_not_legible

theorem ofEntries_eq_length_iff {entries : List (Scalar × Scalar)} :
    ofEntries entries = .error (.notPositive lengthField) ↔
      Legible entries ∧ Gives entries .maxQueryLength 0 := by
  by_cases legible : Legible entries
  · obtain ⟨s, fits, outcome⟩ := ofEntries_of_legible legible
    have zero := fits.get_eq_zero_iff .maxQueryLength
    rw [outcome, ← zero]
    by_cases empty : s.get .maxQueryLength = 0
    · simp [empty, legible]
    · rw [if_neg empty]
      split <;> simp [empty, lengthField, thresholdField]
  · rw [ofEntries_of_not_legible legible]
    simp [legible]

theorem ofEntries_eq_threshold_iff {entries : List (Scalar × Scalar)} :
    ofEntries entries = .error (.notPositive thresholdField) ↔
      Legible entries ∧ ¬ Gives entries .maxQueryLength 0 ∧
        Gives entries .complexityWarningThreshold 0 := by
  by_cases legible : Legible entries
  · obtain ⟨s, fits, outcome⟩ := ofEntries_of_legible legible
    have length := fits.get_eq_zero_iff .maxQueryLength
    have threshold := fits.get_eq_zero_iff .complexityWarningThreshold
    rw [outcome, ← length, ← threshold]
    by_cases empty : s.get .maxQueryLength = 0
    · simp [empty, lengthField, thresholdField]
    · rw [if_neg empty]
      split <;> simp_all
  · rw [ofEntries_of_not_legible legible]
    simp [legible]

theorem ofEntries_fits {entries : List (Scalar × Scalar)} {s : Settings}
    (decoded : ofEntries entries = .ok s) : Legible entries ∧ s.Fits entries := by
  by_cases legible : Legible entries
  · obtain ⟨s', fits, outcome⟩ := ofEntries_of_legible legible
    rw [decoded] at outcome
    split at outcome
    · cases outcome
    · split at outcome
      · cases outcome
      · cases outcome
        exact ⟨legible, fits⟩
  · rw [ofEntries_of_not_legible legible] at decoded
    cases decoded

theorem ofEntries_accepts_iff {entries : List (Scalar × Scalar)} :
    (∃ s, ofEntries entries = .ok s) ↔ Legible entries ∧ ∀ f, ¬ Gives entries f 0 := by
  constructor
  · rintro ⟨s, decoded⟩
    obtain ⟨legible, fits⟩ := ofEntries_fits decoded
    obtain ⟨-, length, threshold⟩ := ofEntries_eq_ok_iff.mp decoded
    refine ⟨legible, ?_⟩
    intro f zero
    have empty := fits.given f 0 zero
    cases f with
    | maxQueryLength => exact length.ne' empty
    | complexityWarningThreshold => exact threshold.ne' empty
  · rintro ⟨legible, positive⟩
    obtain ⟨s, fits, outcome⟩ := ofEntries_of_legible legible
    have filled : ∀ f, s.get f ≠ 0 := fun f zero => positive f ((fits.get_eq_zero_iff f).mp zero)
    rw [if_neg (filled _), if_neg (filled _)] at outcome
    exact ⟨s, outcome⟩

theorem Legible.perm {entries other : List (Scalar × Scalar)} (same : entries.Perm other)
    (legible : Legible entries) : Legible other where
  known := fun e member => legible.known e (same.mem_iff.mpr member)
  once := by
    refine (same.pairwise_iff ?_).mp legible.once
    intro e e' apart f key' key
    exact apart f key key'
  numbers := fun e member => legible.numbers e (same.mem_iff.mpr member)

theorem gives_perm {entries other : List (Scalar × Scalar)} (same : entries.Perm other) (f : Field)
    (n : Nat) : Gives entries f n ↔ Gives other f n := by
  simp only [Gives, same.mem_iff]

theorem ofEntries_perm {entries other : List (Scalar × Scalar)} (same : entries.Perm other) :
    ofEntries other = ofEntries entries := by
  by_cases legible : Legible entries
  · obtain ⟨s, fits, decoded⟩ := ofEntries_of_legible legible
    obtain ⟨s', fits', decoded'⟩ := ofEntries_of_legible (legible.perm same)
    have fits'' : s'.Fits entries :=
      ⟨fun f n given => fits'.given f n ((gives_perm same f n).mp given),
        fun f missing => fits'.missing f fun n given => missing n ((gives_perm same f n).mpr given)⟩
    rw [decoded, decoded', fits.unique fits'']
  · have faulty : ¬ Legible other := fun legible' => legible (legible'.perm same.symm)
    rw [ofEntries_of_not_legible legible, ofEntries_of_not_legible faulty]

def SameEntry (e e' : Scalar × Scalar) : Prop := (∀ f, Names e f ↔ Names e' f) ∧ e.2 = e'.2

theorem SameEntry.addEntry_eq {e e' : Scalar × Scalar} (same : SameEntry e e') (p : Given) :
    p.addEntry e.1 e.2 = p.addEntry e'.1 e'.2 := by
  have key : Field.ofKey? e.1.text = Field.ofKey? e'.1.text := by
    apply Option.ext
    intro f
    rw [Field.ofKey?_eq_some_iff, Field.ofKey?_eq_some_iff]
    exact same.1 f
  rw [Given.addEntry, Given.addEntry, key, same.2]

theorem ofEntries_respelled {entries other : List (Scalar × Scalar)}
    (same : List.Forall₂ SameEntry entries other) : ofEntries other = ofEntries entries := by
  have added : ∀ p, addEntries p other = addEntries p entries := by
    induction same with
    | nil => exact fun _ => rfl
    | cons first _ ih =>
      intro p
      simp only [addEntries_cons, first.addEntry_eq, ih]
  have read : ofEntries? other = ofEntries? entries :=
    congrArg (Option.map Given.complete) (added Given.empty)
  rw [ofEntries, ofEntries, read]

theorem numeral?_lt {base n : Nat} {digits : List Char} (read : numeral? base digits = some n) :
    n < UInt64.size := by
  simp only [numeral?, Option.bind_eq_bind] at read
  split at read
  · cases read
  · obtain ⟨values, -, number⟩ := Option.bind_eq_some_iff.mp read
    split at number
    · rename_i small
      cases number
      exact small
    · cases number

theorem decimal?_lt {n : Nat} {digits : List Char} (read : decimal? digits = some n) :
    n < UInt64.size := by
  rw [decimal?] at read
  split at read
  · cases read
  · exact numeral?_lt read

theorem value?_lt {s : Scalar} {n : Nat} (read : value? s = some n) : n < UInt64.size := by
  rw [value?] at read
  split at read
  · simp only [number?] at read
    split at read
    · exact numeral?_lt read
    · exact numeral?_lt read
    · exact numeral?_lt read
    · exact decimal?_lt read
  · cases read

theorem digitValue?_of_isAsciiDigit {c : Char} (digit : Text.isAsciiDigit c) :
    digitValue? 10 c = some (c.toNat - '0'.toNat) := by
  have bounds := Text.isAsciiDigit_bounds digit
  have zero : '0'.toNat = 48 := rfl
  rw [digitValue?, if_pos digit, zero]
  exact if_pos (by omega)

theorem mapM_digitValue? {digits : List Char} (all : ∀ c ∈ digits, Text.isAsciiDigit c) :
    digits.mapM (digitValue? 10) = some (digits.map fun c => c.toNat - '0'.toNat) := by
  induction digits with
  | nil => rfl
  | cons c rest ih =>
    rw [List.forall_mem_cons] at all
    rw [List.mapM_cons, digitValue?_of_isAsciiDigit all.1, ih all.2]
    rfl

theorem numeral?_toDigits {n : Nat} (small : n < UInt64.size) :
    numeral? 10 (Nat.toDigits 10 n) = some n := by
  have filled : ¬ (Nat.toDigits 10 n).isEmpty = true := by simp
  have values := mapM_digitValue? fun c member =>
    Text.isAsciiDigit_of_mem_toDigits (n := n) (c := c) member
  have number : ((Nat.toDigits 10 n).map fun c => c.toNat - '0'.toNat).foldl
      (fun n d => n * 10 + d) 0 = n := by
    have read := Nat.ofDigitChars_ten_toDigits (n := n)
    rw [Nat.ofDigitChars_eq_foldl] at read
    rw [List.foldl_map]
    simpa only [Nat.mul_comm] using read
  rw [numeral?, if_neg filled, values]
  simp only [Option.bind_eq_bind, Option.bind_some, number, if_pos small]
  rfl

theorem value?_decimal {n : Nat} (small : n < UInt64.size) (tag : String) :
    value? ⟨tag, .plain, toString n⟩ = some n := by
  have digits : (toString n).toList = Nat.toDigits 10 n := by simp
  have plain : value? ⟨tag, .plain, toString n⟩ = number? (toString n) := rfl
  rw [plain, number?, digits]
  by_cases positive : 0 < n
  · have unpadded := Text.head_toDigits positive
    cases spelled : Nat.toDigits 10 n with
    | nil => exact absurd spelled Nat.toDigits_ne_nil
    | cons c cs =>
      have digit : Text.isAsciiDigit c :=
        Text.isAsciiDigit_of_mem_toDigits (n := n) (by rw [spelled]; exact List.mem_cons_self)
      have unsigned : c ≠ '+' := by
        rintro rfl
        cases digit
      have unmarked : c ≠ '0' := by
        rintro rfl
        exact unpadded (congrArg List.head? spelled)
      have read := numeral?_toDigits small
      rw [spelled] at read
      simp [unsigned, unmarked, decimal?, read]
  · obtain rfl : n = 0 := by omega
    rfl

theorem ofYaml_of_unread {text : String}
    (unread : (Yaml.Document.ofText? text).bind (·.scalars?) = none) :
    ofYaml text = .error .malformed := by
  rw [ofYaml, unread]

theorem ofYaml_of_entries {text : String} {entries : List (Scalar × Scalar)}
    (read : (Yaml.Document.ofText? text).bind (·.scalars?) = some entries) :
    ofYaml text = ofEntries entries := by
  rw [ofYaml, read]

/-- A mapping is accepted exactly if each of its keys spells a field, no field is given twice, and all
    values are positive numbers of 64 bits. The settings are then those given, with defaults for the
    rest. Any other fault comes before zeros, and a length of zero before a threshold of zero.
    Neither the order of the entries nor their spelling matters. -/
theorem ofEntries_decoded (entries : List (Scalar × Scalar)) :
    (∀ text, (Yaml.Document.ofText? text).bind (·.scalars?) = some entries →
      ofYaml text = ofEntries entries) ∧
    (∀ text, (Yaml.Document.ofText? text).bind (·.scalars?) = none →
      ofYaml text = .error .malformed) ∧
    ((∃ s, ofEntries entries = .ok s) ↔
      (∀ e ∈ entries, ∃ f, Names e f) ∧
      (entries.Pairwise fun e e' => ∀ f, Names e f → ¬ Names e' f) ∧
      ∀ e ∈ entries, ∃ n, value? e.2 = some n ∧ 1 ≤ n ∧ n < UInt64.size) ∧
    (∀ n < UInt64.size, ∀ tag, value? ⟨tag, .plain, toString n⟩ = some n) ∧
    (∀ s, ofEntries entries = .ok s → s.Fits entries ∧ s.validate = .ok s) ∧
    (ofEntries entries = .error .malformed ↔ ¬ Legible entries) ∧
    (ofEntries entries = .error (.notPositive lengthField) ↔
      Legible entries ∧ Gives entries .maxQueryLength 0) ∧
    (ofEntries entries = .error (.notPositive thresholdField) ↔
      Legible entries ∧ ¬ Gives entries .maxQueryLength 0 ∧
        Gives entries .complexityWarningThreshold 0) ∧
    (∀ other, entries.Perm other → ofEntries other = ofEntries entries) ∧
    ∀ other, List.Forall₂ SameEntry entries other → ofEntries other = ofEntries entries := by
  refine ⟨fun _ => ofYaml_of_entries, fun _ => ofYaml_of_unread, ?_,
    fun n small => value?_decimal small, ?_, ofEntries_eq_malformed_iff, ofEntries_eq_length_iff,
    ofEntries_eq_threshold_iff, fun _ => ofEntries_perm, fun _ => ofEntries_respelled⟩
  · rw [ofEntries_accepts_iff]
    constructor
    · rintro ⟨⟨known, once, numbers⟩, positive⟩
      refine ⟨known, once, ?_⟩
      intro e member
      obtain ⟨f, key⟩ := known e member
      obtain ⟨n, number⟩ := numbers e member
      have filled : n ≠ 0 := by
        rintro rfl
        exact positive f ⟨e, member, key, number⟩
      exact ⟨n, number, by omega, value?_lt number⟩
    · rintro ⟨known, once, numbers⟩
      refine ⟨⟨known, once, ?_⟩, ?_⟩
      · intro e member
        obtain ⟨n, number, -⟩ := numbers e member
        exact ⟨n, number⟩
      · rintro f ⟨e, member, -, zero⟩
        obtain ⟨n, number, positive, -⟩ := numbers e member
        rw [zero] at number
        cases number
        omega
  · intro s decoded
    obtain ⟨-, length, threshold⟩ := ofEntries_eq_ok_iff.mp decoded
    exact ⟨(ofEntries_fits decoded).2, validate_eq_ok_iff.mpr ⟨rfl, length, threshold⟩⟩

def plain (text : String) : Scalar := ⟨"", .plain, text⟩

def limits : List (Scalar × Scalar) :=
  [(plain "max-query-length", plain "0x10"), (plain "complexity_warning_threshold", plain "7")]

def limitsAgain : List (Scalar × Scalar) :=
  [(plain "max_query_length", plain "0x10"), (plain "complexity-warning-threshold", plain "7")]

theorem ofEntries_decoded_limits :
    ofYaml "max-query-length: 0x10\ncomplexity_warning_threshold: 7\n" = ofEntries limits ∧
      ofYaml "max_query_length: [1, 2]" = .error .malformed ∧
      (∃ s, ofEntries limits = .ok s ∧ s.Fits limits ∧ s.validate = .ok s) ∧
      value? (plain (toString 18446744073709551615)) = some 18446744073709551615 ∧
      ofEntries limits.reverse = ofEntries limits ∧ ofEntries limitsAgain = ofEntries limits ∧
      ofEntries [] = .ok ⟨100000, 20⟩ := by
  obtain ⟨texts, unread, -, numbers, accepted, -, -, -, reordered, respelled⟩ :=
    ofEntries_decoded limits
  have decoded : ofEntries limits = .ok ⟨16, 7⟩ := by decide
  have length : SameEntry (plain "max-query-length", plain "0x10")
      (plain "max_query_length", plain "0x10") :=
    ⟨fun f => by cases f <;> simp [Names, Field.spellings, plain], rfl⟩
  have threshold : SameEntry (plain "complexity_warning_threshold", plain "7")
      (plain "complexity-warning-threshold", plain "7") :=
    ⟨fun f => by cases f <;> simp [Names, Field.spellings, plain], rfl⟩
  have alike : List.Forall₂ SameEntry limits limitsAgain := .cons length (.cons threshold .nil)
  exact ⟨texts _ (by decide +kernel), unread _ (by decide +kernel), ⟨_, decoded, accepted _ decoded⟩,
    numbers 18446744073709551615 (by decide) "", reordered _ (List.reverse_perm _).symm,
    respelled _ alike, rfl⟩

end JoinDiagram.Settings
