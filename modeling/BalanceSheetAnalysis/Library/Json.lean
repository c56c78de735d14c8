import Mathlib.Data.Rat.Cast.Defs
import Mathlib.Data.List.Nodup

/-! JSON values as a Python program sees them after parsing: `==` compares
numbers by value across booleans, integers and floats, and objects without
regard to the order of their fields. -/
namespace Library

/-- A float is a finite double, given by its exact value. -/
inductive Json where
  | null
  | bool (value : Bool)
  | int (value : Int)
  | float (value : ℚ)
  | str (value : String)
  | arr (items : List Json)
  | obj (fields : List (String × Json))

/-- A Python `dict` read from JSON. -/
abbrev Dict := List (String × Json)

namespace Dict

def find? (dict : Dict) (key : String) : Option Json :=
  (List.find? (fun field => field.1 = key) dict).map Prod.snd

/-- `dict.get(key)`: a missing key reads as `None`. -/
def get (dict : Dict) (key : String) : Json := (dict.find? key).getD .null

theorem mem_of_find? {dict : Dict} {key : String} {value : Json}
    (found : dict.find? key = some value) : (key, value) ∈ dict := by
  obtain ⟨⟨key', value'⟩, found', rfl⟩ := Option.map_eq_some_iff.mp found
  have same : key' = key := by simpa using List.find?_some found'
  exact same ▸ List.mem_of_find?_eq_some found'

theorem find?_eq_none {dict : Dict} {key : String} :
    dict.find? key = none ↔ ∀ value, (key, value) ∉ dict := by
  simp only [find?, Option.map_eq_none_iff, List.find?_eq_none, decide_eq_true_eq, Prod.forall]
  exact ⟨fun absent value member => absent key value member rfl,
    fun absent key' value member same => absent value (same ▸ member)⟩

theorem find?_of_mem {dict : Dict} (distinct : (dict.map Prod.fst).Nodup) {key : String}
    {value : Json} (member : (key, value) ∈ dict) : dict.find? key = some value := by
  cases found : dict.find? key with
  | none => exact absurd member (find?_eq_none.mp found value)
  | some other =>
      have same := List.inj_on_of_nodup_map distinct (mem_of_find? found) member rfl
      rw [(Prod.mk.inj same).2]

end Dict

namespace Json

/-- The value `==` compares numbers by; `True` and `False` are 1 and 0. -/
def number : Json → Option ℚ
  | .bool value => some (if value then 1 else 0)
  | .int value => some value
  | .float value => some value
  | _ => none

def isNull : Json → Bool
  | .null => true
  | _ => false

def text : Json → Option String
  | .str value => some value
  | _ => none

mutual

/-- Python's `==`. -/
def pyEq : Json → Json → Bool
  | .null, other => other.isNull
  | .bool value, other => other.number == some (if value then 1 else 0)
  | .int value, other => other.number == some (value : ℚ)
  | .float value, other => other.number == some value
  | .str value, other => other.text == some value
  | .arr items, .arr others => pyEqItems items others
  | .arr _, _ => false
  | .obj fields, .obj others => fields.length == others.length && pyEqFields fields others
  | .obj _, _ => false
termination_by structural value => value

def pyEqItems : List Json → List Json → Bool
  | [], [] => true
  | item :: items, other :: others => pyEq item other && pyEqItems items others
  | _, _ => false
termination_by structural items => items

def pyEqFields : List (String × Json) → Dict → Bool
  | [], _ => true
  | (key, value) :: fields, others =>
      (match others.find? key with
        | some other => pyEq value other
        | none => false) && pyEqFields fields others
termination_by structural fields => fields

end

/-- Python's truth value. -/
def truthy : Json → Bool
  | .null => false
  | .bool value => value
  | .int value => value != 0
  | .float value => value != 0
  | .str value => value != ""
  | .arr items => !items.isEmpty
  | .obj fields => !fields.isEmpty

/-- Lists and dicts cannot be members of a Python set. -/
def hashable : Json → Bool
  | .arr _ => false
  | .obj _ => false
  | _ => true

mutual

/-- No object in the value repeats a key, as every parsed value satisfies. -/
def distinctKeys : Json → Bool
  | .arr items => distinctKeysItems items
  | .obj fields => decide (fields.map Prod.fst).Nodup && distinctKeysFields fields
  | _ => true
termination_by structural value => value

def distinctKeysItems : List Json → Bool
  | [] => true
  | item :: items => distinctKeys item && distinctKeysItems items
termination_by structural items => items

def distinctKeysFields : List (String × Json) → Bool
  | [] => true
  | (_, value) :: fields => distinctKeys value && distinctKeysFields fields
termination_by structural fields => fields

end

theorem distinctKeys_of_mem {fields : Dict} (distinct : distinctKeysFields fields = true)
    {key : String} {value : Json} (member : (key, value) ∈ fields) :
    value.distinctKeys = true := by
  induction fields with
  | nil => cases member
  | cons field fields ih =>
      obtain ⟨_, first⟩ := field
      simp only [distinctKeysFields, Bool.and_eq_true] at distinct
      cases member with
      | head => exact distinct.1
      | tail _ later => exact ih distinct.2 later

@[simp] theorem pyEq_int {value : Int} {other : Json} :
    (Json.int value).pyEq other = true ↔ other.number = some (value : ℚ) := by
  simp [pyEq]

@[simp] theorem pyEq_null {other : Json} : Json.null.pyEq other = true ↔ other = .null := by
  cases other <;> simp [pyEq, isNull]

end Json
end Library
