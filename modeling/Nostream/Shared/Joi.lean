import Nostream.Shared.JsonValue

set_option autoImplicit false

namespace Joi

open Utf16 Json

/-- Whether a schema accepts a value, with convert and stripUnknown off. -/
abbrev Schema := JsonValue → Bool

def any : Schema := fun _ => true

def string (rule : JsString → Bool) : Schema
  | .string value => rule value
  | _ => false

-- A number with multiple(1): fractions and unsafe integers are refused before the other rules.
def number (rule : Int → Bool) : Schema
  | .number text => (Numeric.safeInteger text).any rule
  | _ => false

structure Entry where
  schema : Schema
  required : Bool := false

/-- The rules of an array: `ordered` entries take the first items, `items` those that follow. -/
structure ArrayRules where
  ordered : List Entry := []
  items : Option Entry := none
  max : Option Nat := none

def ArrayRules.acceptsRest (rules : ArrayRules) (rest : List JsonValue) : Bool :=
  match rules.items with
  | some entry => rest.all entry.schema && (!entry.required || !rest.isEmpty)
  | none => rules.ordered.isEmpty || rest.isEmpty

def array (rules : ArrayRules) : Schema
  | .array values =>
    (rules.ordered.zip values).all (fun (entry, value) => entry.schema value) &&
      (rules.ordered.drop values.length).all (fun entry => !entry.required) &&
      rules.acceptsRest (values.drop rules.ordered.length) &&
      rules.max.all fun limit => values.length ≤ limit
  | _ => false

structure Pattern where
  isMatch : JsString → Bool
  schema : Schema

-- Keys that are neither named nor matched by the pattern are unknown. An own __proto__ key, which Joi's
-- shallow clone of the value may lose, counts as any other here.
def object (keys : List (JsString × Entry)) (pattern : Option Pattern) : Schema
  | .object members =>
    keys.all (fun (key, entry) =>
        match members.lookup key with
        | some value => entry.schema value
        | none => !entry.required) &&
      members.all fun (key, value) => (keys.map Prod.fst).contains key ||
        pattern.any fun pattern => pattern.isMatch key && pattern.schema value
  | _ => false

-- alternatives().conditional(ref('.'), { switch }): the first case whose condition holds decides.
def switch (cases : List (Schema × Schema)) : Schema := fun value =>
  match cases.find? fun (condition, _) => condition value with
  | some (_, outcome) => outcome value
  | none => false

theorem switch_of_first (condition outcome : Schema) (rest : List (Schema × Schema)) (value : JsonValue)
    (holds : condition value = true) : switch ((condition, outcome) :: rest) value = outcome value := by
  simp [switch, holds]

section Objects

theorem lookup_of_mem (members : List (JsString × JsonValue)) (distinct : (members.map Prod.fst).Nodup)
    (key : JsString) (value : JsonValue) (member : (key, value) ∈ members) :
    members.lookup key = some value := by
  induction members with
  | nil => cases member
  | cons first rest ih =>
    rw [List.map_cons, List.nodup_cons] at distinct
    rcases List.mem_cons.mp member with rfl | later
    · simp
    · have other : key ≠ first.1 := by
        rintro rfl
        exact distinct.1 (List.mem_map.mpr ⟨_, later, rfl⟩)
      rw [List.lookup_cons, beq_eq_false_iff_ne.mpr other]
      exact ih distinct.2 later

theorem object_accepts (fields : List (JsString × Entry × JsonValue)) (pattern : Option Pattern)
    (members : List (JsString × JsonValue))
    (same : members.Perm (fields.map fun (key, _, value) => (key, value)))
    (distinct : (members.map Prod.fst).Nodup) (each : ∀ field ∈ fields, field.2.1.schema field.2.2 = true) :
    object (fields.map fun (key, entry, _) => (key, entry)) pattern (.object members) = true := by
  rw [object, Bool.and_eq_true, List.all_map, List.all_eq_true, List.all_eq_true]
  constructor
  · rintro ⟨key, entry, value⟩ member
    have present : (key, value) ∈ members := same.mem_iff.mpr (List.mem_map_of_mem member)
    simp only [Function.comp_apply, lookup_of_mem members distinct key value present]
    exact each _ member
  · rintro ⟨key, value⟩ member
    obtain ⟨field, known, shape⟩ := List.mem_map.mp (same.mem_iff.mp member)
    cases shape
    simp only [Bool.or_eq_true, List.contains_iff_mem, List.map_map]
    exact .inl (List.mem_map_of_mem known)

end Objects

end Joi
