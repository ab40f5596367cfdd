import Mathlib.Logic.Function.Basic
import Mathlib.Data.List.Forall2
import Mathlib.Tactic.Common

/-!
# Dynamically typed dictionaries

Values whose type is only known at run time, and dictionaries from keys to such
values, with the conditional casts a program reads them through: a cast yields
the contents when the value has the type asked for, and `none` otherwise.

A dictionary is the partial function it denotes, so two dictionaries that hold
the same values under the same keys are equal and no order of the keys is
visible.

Every cast comes with the lemma that says which values it accepts
(`asString_eq_some`, `asMaps_eq_some`, …), and these are what proofs rewrite
with: nothing below unfolds a cast.
-/

namespace Dynamic

/-- A value of a type known only at run time. -/
inductive Value (κ : Type) where
  | string (s : String)
  | number (n : Int)
  | bool (b : Bool)
  | null
  | array (items : List (Value κ))
  | map (entries : κ → Option (Value κ))

/-- A dictionary: the value held under each key, if there is one. -/
abbrev Dict (κ : Type) := κ → Option (Value κ)

variable {κ : Type}

/-! ## Dictionaries -/

namespace Dict

def empty : Dict κ := fun _ => none

@[simp] theorem empty_apply (k : κ) : (empty : Dict κ) k = none := rfl

variable [DecidableEq κ]

/-- Store `v` under `k`, replacing what is there. -/
def set (d : Dict κ) (k : κ) (v : Value κ) : Dict κ := Function.update d k (some v)

@[simp] theorem set_same (d : Dict κ) (k : κ) (v : Value κ) : d.set k v k = some v := by
  simp [set]

@[simp] theorem set_ne (d : Dict κ) {k k' : κ} (v : Value κ) (h : k' ≠ k) :
    d.set k v k' = d k' := by
  simp [set, h]

/-- Assign an optional value: assigning nothing removes the key. -/
def assign (d : Dict κ) (k : κ) (v : Option (Value κ)) : Dict κ := Function.update d k v

@[simp] theorem assign_same (d : Dict κ) (k : κ) (v : Option (Value κ)) : d.assign k v k = v := by
  simp [assign]

@[simp] theorem assign_ne (d : Dict κ) {k k' : κ} (v : Option (Value κ)) (h : k' ≠ k) :
    d.assign k v k' = d k' := by
  simp [assign, h]

/-- Replace the fields that `fields` holds and keep the others. -/
def merge (d fields : Dict κ) : Dict κ := fun k => (fields k).or (d k)

omit [DecidableEq κ] in
theorem merge_eq_left {d fields : Dict κ} {k : κ} (h : fields k = none) :
    d.merge fields k = d k := by
  simp [merge, h]

omit [DecidableEq κ] in
theorem merge_eq_right {d fields : Dict κ} {k : κ} {v : Value κ} (h : fields k = some v) :
    d.merge fields k = some v := by
  simp [merge, h]

end Dict

/-! ## Conditional casts -/

namespace Value

def asString : Value κ → Option String
  | string s => some s
  | _ => none

def asMap : Value κ → Option (Dict κ)
  | map entries => some entries
  | _ => none

/-- An array casts to an array of strings when each item casts to a string. -/
def asStrings : Value κ → Option (List String)
  | array items => items.mapM asString
  | _ => none

/-- An array casts to an array of dictionaries when each item casts to one. -/
def asMaps : Value κ → Option (List (Dict κ))
  | array items => items.mapM asMap
  | _ => none

/-- The items of an array, of whatever types. -/
def items : Value κ → List (Value κ)
  | array items => items
  | _ => []

@[simp] theorem asString_string (s : String) : (string s : Value κ).asString = some s := rfl

@[simp] theorem items_array (l : List (Value κ)) : (array l).items = l := rfl

theorem asString_eq_some {v : Value κ} {s : String} : v.asString = some s ↔ v = string s := by
  cases v <;> simp [asString]

theorem asMap_eq_some {v : Value κ} {d : Dict κ} : v.asMap = some d ↔ v = map d := by
  cases v <;> simp [asMap]

/-- Items that are cast one by one all cast exactly when the list is made of
the values the cast accepts. -/
private theorem mapM_eq_some_iff_map {α γ : Type} {cast : α → Option γ} {inj : γ → α}
    (h : ∀ a c, cast a = some c ↔ a = inj c) {l : List α} {cs : List γ} :
    l.mapM cast = some cs ↔ l = cs.map inj := by
  induction l generalizing cs with
  | nil => cases cs <;> simp
  | cons a l ih =>
    cases cs with
    | nil => simp [List.mapM_cons, Option.bind_eq_some_iff]
    | cons c cs => simp [List.mapM_cons, Option.bind_eq_some_iff, h, ih]

theorem asMaps_eq_some {v : Value κ} {l : List (Dict κ)} :
    v.asMaps = some l ↔ v = array (l.map map) := by
  cases v <;> simp [asMaps, mapM_eq_some_iff_map fun a c => asMap_eq_some (v := a) (d := c)]

/-- A string is not an array of strings. -/
@[simp] theorem asStrings_string (s : String) : (string s : Value κ).asStrings = none := rfl

theorem map_injective : Function.Injective (map : Dict κ → Value κ) := fun _ _ h => by
  injection h

end Value

/-! ## Reading a field -/

/-- The field `k` of `d`, when it is there and is a string. -/
def Dict.string? (d : Dict κ) (k : κ) : Option String := (d k).bind Value.asString

/-- The field `k` of `d`, when it is there and is a dictionary. -/
def Dict.map? (d : Dict κ) (k : κ) : Option (Dict κ) := (d k).bind Value.asMap

/-- The field `k` of `d`, when it is there and is an array of strings. -/
def Dict.strings? (d : Dict κ) (k : κ) : Option (List String) := (d k).bind Value.asStrings

/-- The field `k` of `d`, when it is there and is an array of dictionaries. -/
def Dict.maps? (d : Dict κ) (k : κ) : Option (List (Dict κ)) := (d k).bind Value.asMaps

theorem Dict.string?_eq_some {d : Dict κ} {k : κ} {s : String} :
    d.string? k = some s ↔ d k = some (.string s) := by
  simp [Dict.string?, Option.bind_eq_some_iff, Value.asString_eq_some]

theorem Dict.map?_eq_some {d e : Dict κ} {k : κ} :
    d.map? k = some e ↔ d k = some (.map e) := by
  simp [Dict.map?, Option.bind_eq_some_iff, Value.asMap_eq_some]

theorem Dict.maps?_eq_some {d : Dict κ} {k : κ} {l : List (Dict κ)} :
    d.maps? k = some l ↔ d k = some (.array (l.map .map)) := by
  simp [Dict.maps?, Option.bind_eq_some_iff, Value.asMaps_eq_some]

end Dynamic
