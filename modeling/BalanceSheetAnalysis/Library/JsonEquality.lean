import Mathlib.Data.List.Forall2
import Mathlib.Data.List.Perm.Subperm
import BalanceSheetAnalysis.Library.Json

/-! Python's `==` on JSON values is an equivalence, and what a program asks of a
value does not tell equal values apart. -/
namespace Library

namespace Json

/-- Induction over the values inside a value. -/
@[elab_as_elim]
theorem inner_induction {motive : Json → Prop} (null : motive .null)
    (bool : ∀ value, motive (.bool value)) (int : ∀ value, motive (.int value))
    (float : ∀ value, motive (.float value)) (str : ∀ value, motive (.str value))
    (arr : ∀ items, (∀ item ∈ items, motive item) → motive (.arr items))
    (obj : ∀ fields : Dict, (∀ field ∈ fields, motive field.2) → motive (.obj fields))
    (value : Json) : motive value := by
  apply @Json.rec motive (fun items => ∀ item ∈ items, motive item)
    (fun fields => ∀ field ∈ fields, motive field.2) (fun field => motive field.2) null bool int
    float str arr obj
  · exact List.forall_mem_nil _
  · intro item items first rest
    exact List.forall_mem_cons.mpr ⟨first, rest⟩
  · exact List.forall_mem_nil _
  · intro field fields first rest
    exact List.forall_mem_cons.mpr ⟨first, rest⟩
  · intro key value holds
    exact holds

/-! When two values are equal. -/

theorem pyEqItems_iff {items others : List Json} :
    pyEqItems items others = true ↔
      List.Forall₂ (fun item other => item.pyEq other) items others := by
  induction items generalizing others with
  | nil => cases others <;> simp [pyEqItems]
  | cons item items ih => cases others <;> simp [pyEqItems, ih]

theorem pyEqFields_iff {fields others : Dict} :
    pyEqFields fields others = true ↔
      ∀ field ∈ fields, ∃ other, others.find? field.1 = some other ∧ field.2.pyEq other := by
  induction fields with
  | nil => simp [pyEqFields]
  | cons field fields ih =>
      obtain ⟨key, value⟩ := field
      cases found : Dict.find? others key <;> simp [pyEqFields, ih, found]

@[simp] theorem arr_pyEq {items : List Json} {other : Json} :
    (Json.arr items).pyEq other = true ↔ ∃ others, other = .arr others ∧
      List.Forall₂ (fun item other => item.pyEq other) items others := by
  cases other <;> simp [pyEq, pyEqItems_iff]

@[simp] theorem obj_pyEq {fields : Dict} {other : Json} :
    (Json.obj fields).pyEq other = true ↔ ∃ others : Dict, other = .obj others ∧
      fields.length = others.length ∧
      ∀ field ∈ fields, ∃ other, others.find? field.1 = some other ∧ field.2.pyEq other := by
  cases other <;> simp [pyEq, pyEqFields_iff]

@[simp] theorem str_pyEq {value : String} {other : Json} :
    (Json.str value).pyEq other = true ↔ other = .str value := by
  cases other <;> simp [pyEq, text]

/-- A number equals the values that are the same number. -/
theorem pyEq_iff_number {value other : Json} {number : ℚ} (isNumber : value.number = some number) :
    value.pyEq other = true ↔ other.number = some number := by
  cases value <;> simp [Json.number] at isNumber <;> simp [pyEq, isNumber]

@[simp] theorem distinctKeys_arr {items : List Json} :
    (Json.arr items).distinctKeys = true ↔ ∀ item ∈ items, item.distinctKeys = true := by
  rw [distinctKeys]
  induction items with
  | nil => simp [distinctKeysItems]
  | cons item items ih => simp [distinctKeysItems, ih]

@[simp] theorem distinctKeys_obj {fields : Dict} :
    (Json.obj fields).distinctKeys = true ↔
      (fields.map Prod.fst).Nodup ∧ ∀ field ∈ fields, field.2.distinctKeys = true := by
  have inner : distinctKeysFields fields = true ↔
      ∀ field ∈ fields, field.2.distinctKeys = true := by
    induction fields with
    | nil => simp [distinctKeysFields]
    | cons field fields ih => rw [distinctKeysFields, Bool.and_eq_true, ih, List.forall_mem_cons]
  rw [distinctKeys, Bool.and_eq_true, decide_eq_true_eq, inner]

/-! Equality is an equivalence. -/

theorem pyEq_refl {value : Json} (distinct : value.distinctKeys = true) :
    value.pyEq value = true := by
  induction value using inner_induction with
  | null => rfl
  | bool | int | float => exact (pyEq_iff_number rfl).mpr rfl
  | str value => exact str_pyEq.mpr rfl
  | arr items ih =>
      rw [distinctKeys_arr] at distinct
      have same : List.Forall₂ (fun item other => item.pyEq other) items items :=
        List.forall₂_same.mpr fun item member => ih item member (distinct item member)
      exact arr_pyEq.mpr ⟨items, rfl, same⟩
  | obj fields ih =>
      rw [distinctKeys_obj] at distinct
      refine obj_pyEq.mpr ⟨fields, rfl, rfl, fun field member => ⟨field.2, ?_, ?_⟩⟩
      · exact Dict.find?_of_mem distinct.1 member
      · exact ih field member (distinct.2 field member)

theorem pyEq_trans {first second third : Json} (equal : first.pyEq second = true)
    (equal' : second.pyEq third = true) : first.pyEq third = true := by
  induction first using inner_induction generalizing second third with
  | null =>
      rw [pyEq_null] at equal
      exact equal ▸ equal'
  | bool | int | float =>
      rw [pyEq_iff_number rfl] at equal ⊢
      exact (pyEq_iff_number equal).mp equal'
  | str value =>
      rw [str_pyEq] at equal
      exact equal ▸ equal'
  | arr items ih =>
      obtain ⟨others, rfl, sameItems⟩ := arr_pyEq.mp equal
      obtain ⟨thirds, rfl, sameOthers⟩ := arr_pyEq.mp equal'
      refine arr_pyEq.mpr ⟨thirds, rfl, ?_⟩
      clear equal equal'
      induction sameItems generalizing thirds with
      | nil => exact sameOthers
      | cons head tail rest =>
          cases sameOthers with
          | cons head' tail' =>
              refine .cons (ih _ (List.mem_cons_self ..) head head') ?_
              exact rest (fun item member => ih item (List.mem_cons_of_mem _ member)) _ tail'
  | obj fields ih =>
      obtain ⟨others, rfl, sameLength, sameFields⟩ := obj_pyEq.mp equal
      obtain ⟨thirds, rfl, sameLength', sameOthers⟩ := obj_pyEq.mp equal'
      refine obj_pyEq.mpr ⟨thirds, rfl, sameLength.trans sameLength', fun field member => ?_⟩
      obtain ⟨other, found, equal⟩ := sameFields field member
      obtain ⟨third, found', equal'⟩ := sameOthers _ (Dict.mem_of_find? found)
      exact ⟨third, found', ih field member equal equal'⟩

/-- As long as the keys of one, the keys of the other are all its keys. -/
theorem keys_of_equal {fields others : Dict} (distinct : (fields.map Prod.fst).Nodup)
    (sameLength : fields.length = others.length)
    (found : ∀ field ∈ fields, ∃ other, others.find? field.1 = some other) :
    others.map Prod.fst ⊆ fields.map Prod.fst := by
  have inside : fields.map Prod.fst ⊆ others.map Prod.fst := by
    intro key member
    obtain ⟨field, isField, rfl⟩ := List.mem_map.mp member
    obtain ⟨other, isOther⟩ := found field isField
    exact List.mem_map.mpr ⟨_, Dict.mem_of_find? isOther, rfl⟩
  have enough : (others.map Prod.fst).length ≤ (fields.map Prod.fst).length := by
    simp [sameLength]
  exact ((distinct.subperm inside).perm_of_length_le enough).symm.subset

theorem origin_of_equal {fields others : Dict} (distinct : (fields.map Prod.fst).Nodup)
    (distinct' : (others.map Prod.fst).Nodup) (sameLength : fields.length = others.length)
    (same : ∀ field ∈ fields, ∃ other, others.find? field.1 = some other ∧ field.2.pyEq other)
    {field : String × Json} (member : field ∈ others) :
    ∃ own ∈ fields, own.1 = field.1 ∧ own.2.pyEq field.2 := by
  have found : ∀ field ∈ fields, ∃ other, others.find? field.1 = some other := by
    intro field member
    exact (same field member).imp fun _ => And.left
  have isKey : field.1 ∈ fields.map Prod.fst :=
    keys_of_equal distinct sameLength found (List.mem_map_of_mem member)
  obtain ⟨own, isOwn, sameKey⟩ := List.mem_map.mp isKey
  obtain ⟨other, isOther, equal⟩ := same own isOwn
  rw [sameKey, Dict.find?_of_mem distinct' member] at isOther
  cases isOther
  exact ⟨own, isOwn, sameKey, equal⟩

theorem pyEq_symm {first second : Json} (distinct : first.distinctKeys = true)
    (distinct' : second.distinctKeys = true) (equal : first.pyEq second = true) :
    second.pyEq first = true := by
  induction first using inner_induction generalizing second with
  | null =>
      rw [pyEq_null] at equal
      subst equal
      rfl
  | bool | int | float =>
      rw [pyEq_iff_number rfl] at equal
      exact (pyEq_iff_number equal).mpr rfl
  | str value =>
      rw [str_pyEq] at equal
      exact equal ▸ str_pyEq.mpr rfl
  | arr items ih =>
      obtain ⟨others, rfl, same⟩ := arr_pyEq.mp equal
      rw [distinctKeys_arr] at distinct distinct'
      refine arr_pyEq.mpr ⟨items, rfl, ?_⟩
      clear equal
      induction same with
      | nil => exact .nil
      | cons head tail rest =>
          rw [List.forall_mem_cons] at distinct distinct' ih
          exact .cons (ih.1 distinct.1 distinct'.1 head) (rest ih.2 distinct.2 distinct'.2)
  | obj fields ih =>
      obtain ⟨others, rfl, sameLength, same⟩ := obj_pyEq.mp equal
      rw [distinctKeys_obj] at distinct distinct'
      refine obj_pyEq.mpr ⟨fields, rfl, sameLength.symm, fun field member => ?_⟩
      obtain ⟨own, isOwn, sameKey, equal⟩ :=
        origin_of_equal distinct.1 distinct'.1 sameLength same member
      refine ⟨own.2, sameKey ▸ Dict.find?_of_mem distinct.1 isOwn, ?_⟩
      exact ih own isOwn (distinct.2 own isOwn) (distinct'.2 field member) equal

/-! What does not tell equal values apart. -/

theorem truthy_iff_number {value : Json} {number : ℚ} (isNumber : value.number = some number) :
    value.truthy = true ↔ number ≠ 0 := by
  cases value with
  | bool value => cases value <;> simp [Json.number] at isNumber <;> simp [truthy, ← isNumber]
  | int value | float value => simp [Json.number] at isNumber; simp [truthy, ← isNumber]
  | _ => cases isNumber

section Equal
variable {first second : Json}

theorem truthy_of_pyEq (equal : first.pyEq second = true) : first.truthy = second.truthy := by
  cases first with
  | null => rw [pyEq_null.mp equal]
  | bool | int | float =>
      rw [pyEq_iff_number rfl] at equal
      exact Bool.eq_iff_iff.mpr ((truthy_iff_number rfl).trans (truthy_iff_number equal).symm)
  | str value => rw [str_pyEq.mp equal]
  | arr items =>
      obtain ⟨others, rfl, same⟩ := arr_pyEq.mp equal
      cases same <;> rfl
  | obj fields =>
      obtain ⟨others, rfl, sameLength, _⟩ := obj_pyEq.mp equal
      cases fields <;> cases others <;> first | rfl | cases sameLength

theorem text_and_null_of_pyEq (equal : first.pyEq second = true) :
    first.text = second.text ∧ first.isNull = second.isNull := by
  cases first with
  | null => simp [pyEq_null.mp equal]
  | bool | int | float =>
      rw [pyEq_iff_number rfl] at equal
      cases second <;> first | exact ⟨rfl, rfl⟩ | cases equal
  | str value => simp [str_pyEq.mp equal]
  | arr items =>
      obtain ⟨others, rfl, _⟩ := arr_pyEq.mp equal
      exact ⟨rfl, rfl⟩
  | obj fields =>
      obtain ⟨others, rfl, _⟩ := obj_pyEq.mp equal
      exact ⟨rfl, rfl⟩

theorem text_of_pyEq (equal : first.pyEq second = true) : first.text = second.text :=
  (text_and_null_of_pyEq equal).1

theorem isNull_of_pyEq (equal : first.pyEq second = true) : first.isNull = second.isNull :=
  (text_and_null_of_pyEq equal).2

end Equal

section Objects
variable {fields others : Dict} (distinct : (Json.obj fields).distinctKeys = true)
  (distinct' : (Json.obj others).distinctKeys = true)
  (equal : (Json.obj fields).pyEq (.obj others) = true)
include distinct distinct' equal

/-- A key has equal values in equal objects, or none in both. -/
theorem get_pyEq (key : String) : (fields.get key).pyEq (others.get key) = true := by
  obtain ⟨_, ⟨⟩, sameLength, same⟩ := obj_pyEq.mp equal
  rw [distinctKeys_obj] at distinct distinct'
  unfold Dict.get
  cases found : others.find? key with
  | some other =>
      obtain ⟨own, isOwn, rfl, equal⟩ := origin_of_equal distinct.1 distinct'.1 sameLength same
        (Dict.mem_of_find? found)
      rw [Dict.find?_of_mem distinct.1 isOwn]
      exact equal
  | none =>
      cases found' : fields.find? key with
      | none => rfl
      | some value =>
          obtain ⟨other, isOther, _⟩ := same _ (Dict.mem_of_find? found')
          rw [found] at isOther
          cases isOther

/-- A test of every field that does not tell equal values apart has the same
outcome on equal objects. -/
theorem all_of_pyEq (test : String → Json → Bool)
    (fair : ∀ key value other, value.distinctKeys = true → other.distinctKeys = true →
      value.pyEq other = true → test key value = test key other) :
    (fields.all fun field => test field.1 field.2) =
      others.all fun field => test field.1 field.2 := by
  obtain ⟨_, ⟨⟩, sameLength, same⟩ := obj_pyEq.mp equal
  rw [distinctKeys_obj] at distinct distinct'
  have agree {field other : String × Json} (member : field ∈ fields) (member' : other ∈ others)
      (equal : field.2.pyEq other.2 = true) : test field.1 field.2 = test field.1 other.2 :=
    fair _ _ _ (distinct.2 field member) (distinct'.2 other member') equal
  apply Bool.eq_iff_iff.mpr
  rw [List.all_eq_true, List.all_eq_true]
  constructor
  · intro holds field member
    obtain ⟨own, isOwn, sameKey, equal⟩ :=
      origin_of_equal distinct.1 distinct'.1 sameLength same member
    rw [← sameKey, ← agree isOwn member equal]
    exact holds own isOwn
  · intro holds field member
    obtain ⟨other, isOther, equal⟩ := same field member
    have inside := Dict.mem_of_find? isOther
    rw [agree member inside equal]
    exact holds _ inside

end Objects

/-- Equal values are equal to the same values. -/
theorem pyEq_congr {first second : Json} (distinct : first.distinctKeys = true)
    (distinct' : second.distinctKeys = true) (equal : first.pyEq second = true) (value : Json) :
    value.pyEq first = value.pyEq second :=
  Bool.eq_iff_iff.mpr ⟨fun same => pyEq_trans same equal,
    fun same => pyEq_trans same (pyEq_symm distinct distinct' equal)⟩

end Json
end Library
