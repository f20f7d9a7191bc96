import JoinDiagram.Json.Value
import Mathlib.Data.List.Forall2
import Mathlib.Data.Option.Basic

namespace JoinDiagram.Json

/-- Values that differ at most in the order of fields: objects are the same if they have the same
    value under every key. -/
inductive Same : Json → Json → Prop
  | null : Same null null
  | bool (value : Bool) : Same (bool value) (bool value)
  | natural (value : Nat) : Same (natural value) (natural value)
  | string (value : String) : Same (string value) (string value)
  | array {xs ys : List Json} (items : List.Forall₂ Same xs ys) : Same (array xs) (array ys)
  | object {fs gs : List (String × Json)}
      (fields : ∀ key, Option.Rel Same (fs.lookup key) (gs.lookup key)) :
      Same (object fs) (object gs)

mutual

theorem Same.refl : (v : Json) → v.Same v
  | .null => .null
  | .bool value => .bool value
  | .natural value => .natural value
  | .string value => .string value
  | .array items => .array (forall₂_refl items)
  | .object fields => .object (lookup_refl fields)

theorem forall₂_refl : (vs : List Json) → List.Forall₂ Same vs vs
  | [] => .nil
  | v :: vs => .cons (Same.refl v) (forall₂_refl vs)

theorem lookup_refl : (fs : List (String × Json)) → (key : String) →
    Option.Rel Same (fs.lookup key) (fs.lookup key)
  | [], _ => .none
  | (k, v) :: fs, key => by
    have here := Same.refl v
    have later := lookup_refl fs key
    rw [List.lookup_cons]
    cases key == k with
    | true => exact .some here
    | false => exact later

end

inductive Keyed : Json → Prop
  | null : Keyed null
  | bool (value : Bool) : Keyed (bool value)
  | natural (value : Nat) : Keyed (natural value)
  | string (value : String) : Keyed (string value)
  | array {items : List Json} (inside : ∀ v ∈ items, Keyed v) : Keyed (array items)
  | object {fields : List (String × Json)} (keys : (fields.map Prod.fst).Nodup)
      (inside : ∀ f ∈ fields, Keyed f.2) : Keyed (object fields)

theorem keyed_strings (texts : List String) : (strings texts).Keyed := by
  refine .array fun v member => ?_
  obtain ⟨text, -, rfl⟩ := List.mem_map.mp member
  exact .string text

theorem keyed_optional {α : Type} {key : String} {encode : α → Json} {value : Option α}
    (each : ∀ a ∈ value, (encode a).Keyed) : ∀ f ∈ optional key encode value, f.2.Keyed := by
  cases value with
  | none => exact List.forall_mem_nil _
  | some a => exact List.forall_mem_singleton.mpr (each a rfl)

def field? (v : Json) (key : String) : Option Json :=
  match v with
  | object fields => fields.lookup key
  | _ => none

theorem sizeOf_lookup {fs : List (String × Json)} {key : String} {v : Json}
    (found : fs.lookup key = some v) : sizeOf v < sizeOf fs := by
  induction fs with
  | nil => cases found
  | cons f rest ih =>
    obtain ⟨k, w⟩ := f
    rw [List.lookup_cons] at found
    split at found
    · cases found
      simp only [List.cons.sizeOf_spec, Prod.mk.sizeOf_spec]
      omega
    · have smaller := ih found
      simp only [List.cons.sizeOf_spec]
      omega

theorem sizeOf_field {v w : Json} {key : String} (found : v.field? key = some w) :
    sizeOf w < sizeOf v := by
  cases v with
  | object fields =>
    have smaller := sizeOf_lookup found
    simp only [object.sizeOf_spec]
    omega
  | _ => cases found

theorem Same.field {v w : Json} (same : v.Same w) (key : String) :
    Option.Rel Same (v.field? key) (w.field? key) := by
  cases same with
  | object fields => exact fields key
  | _ => exact .none

theorem field_of_same_none {v w : Json} {key : String} (same : v.Same w)
    (missing : v.field? key = none) : w.field? key = none := by
  have fields := same.field key
  rw [missing] at fields
  cases other : w.field? key with
  | none => rfl
  | some x =>
    rw [other] at fields
    cases fields

def text? : Json → Option String
  | string value => some value
  | _ => none

def number? : Json → Option Nat
  | natural value => some value
  | _ => none

def items? : Json → Option (List Json)
  | array items => some items
  | _ => none

section Reading

variable {α : Type}

def required? (v : Json) (key : String) (read : Json → Option α) : Option α :=
  (v.field? key).bind read

def optional? (v : Json) (key : String) (read : Json → Option α) : Option (Option α) :=
  match v.field? key with
  | some w => (read w).map some
  | none => some none

def requiredPart? (v : Json) (key : String)
    (read : (w : Json) → sizeOf w < sizeOf v → Option α) : Option α :=
  match found : v.field? key with
  | some w => read w (sizeOf_field found)
  | none => none

def optionalPart? (v : Json) (key : String)
    (read : (w : Json) → sizeOf w < sizeOf v → Option α) : Option (Option α) :=
  match found : v.field? key with
  | some w => (read w (sizeOf_field found)).map some
  | none => some none

variable {v w x : Json} {key : String} {read : Json → Option α}

theorem requiredPart_eq : v.requiredPart? key (fun w _ => read w) = v.required? key read := by
  rw [requiredPart?, required?]
  split
  next found => rw [found, Option.bind_some]
  next missing => rw [missing, Option.bind_none]

theorem optionalPart_eq : v.optionalPart? key (fun w _ => read w) = v.optional? key read := by
  rw [optionalPart?, optional?]
  split
  next found => rw [found]
  next missing => rw [missing]

theorem required_of_same {a : α} (same : v.Same w) (found : v.field? key = some x)
    (reads : ∀ y, x.Same y → read y = some a) : w.required? key read = some a := by
  have fields := same.field key
  rw [found] at fields
  cases other : w.field? key with
  | none =>
    rw [other] at fields
    cases fields
  | some y =>
    rw [other] at fields
    cases fields with
    | some inside => rw [required?, other, Option.bind_some, reads y inside]

theorem optional_of_same {value : Option α} {encode : α → Json} (same : v.Same w)
    (found : v.field? key = value.map encode)
    (reads : ∀ a ∈ value, ∀ y, (encode a).Same y → read y = some a) :
    w.optional? key read = some value := by
  have fields := same.field key
  rw [found] at fields
  cases other : w.field? key with
  | none =>
    rw [other] at fields
    cases value with
    | none => rw [optional?, other]
    | some a => cases fields
  | some y =>
    rw [other] at fields
    cases value with
    | none => cases fields
    | some a =>
      cases fields with
      | some inside =>
        rw [optional?, other]
        change (read y).map some = some (some a)
        rw [reads a rfl y inside, Option.map_some]

end Reading

theorem text_of_same (s : String) (w : Json) (same : (string s).Same w) : w.text? = some s := by
  cases same
  rfl

theorem number_of_same (n : Nat) (w : Json) (same : (natural n).Same w) : w.number? = some n := by
  cases same
  rfl

theorem mapM_of_forall₂ {α : Type} {encode : α → Json} {read : Json → Option α} {values : List α}
    {ys : List Json} (reads : ∀ a ∈ values, ∀ y, (encode a).Same y → read y = some a)
    (items : List.Forall₂ Same (values.map encode) ys) : ys.mapM read = some values := by
  induction values generalizing ys with
  | nil =>
    cases items
    rfl
  | cons a rest ih =>
    rw [List.map_cons] at items
    cases items with
    | cons first later =>
      have readFirst := reads a List.mem_cons_self _ first
      have readLater := ih (fun b member => reads b (List.mem_cons_of_mem a member)) later
      rw [List.mapM_cons, readFirst, readLater]
      rfl

def texts? (v : Json) : Option (List String) := v.items?.bind (·.mapM text?)

theorem texts_of_same (texts : List String) (w : Json) (same : (strings texts).Same w) :
    w.texts? = some texts := by
  rw [strings] at same
  cases same with
  | array items => exact mapM_of_forall₂ (fun text _ => text_of_same text) items

end JoinDiagram.Json
