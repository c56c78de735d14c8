import BalanceSheetAnalysis.Store.Action

/-! The values of a fetched row.  A value is judged by its class before it is
converted, and of numpy's classes only the double widths are Python's. -/
namespace BalanceSheetAnalysis
open Library

inductive FloatWidth where
  | float16
  | float32
  | float64
  deriving DecidableEq

inductive ComplexWidth where
  | complex64
  | complex128
  deriving DecidableEq

/-- A native value, or a numpy scalar; `npInteger` is one of any width. -/
inductive Scalar where
  | none
  | int (value : Int)
  | float (value : Figure)
  | complex (re im : Figure)
  | npInteger (value : Int)
  | npFloat (width : FloatWidth) (value : Figure)
  | npComplex (width : ComplexWidth) (re im : Figure)
  deriving DecidableEq

def isnan : Figure → Bool
  | .nan => true
  | _ => false

def isinf : Figure → Bool
  | .infinity _ => true
  | _ => false

namespace Scalar

/-- `isinstance(value, float)`, with the value it has as one. -/
def asFloat : Scalar → Option Figure
  | .float value | .npFloat .float64 value => some value
  | _ => Option.none

/-- `isinstance(value, complex)`. -/
def isComplex : Scalar → Bool
  | .complex _ _ | .npComplex .complex128 _ _ => true
  | _ => false

end Scalar

def isValidValue (value : Scalar) : Bool :=
  if value = .none then false
  else if value.asFloat.any fun figure => isnan figure || isinf figure then false
  else !value.isComplex

/-- `item()` on a numpy scalar; a native value as it is. -/
def convertValue : Scalar → Scalar
  | .npInteger value => .int value
  | .npFloat _ value => .float value
  | .npComplex _ re im => .complex re im
  | value => value

/-- A mapping: no key twice. -/
structure Mapping (K V : Type) where
  entries : List (K × V)
  keys : Table.Keyed Prod.fst entries

/-- What the function may be handed. -/
inductive Argument (K : Type) where
  | mapping (data : Mapping K Scalar)
  | other

variable {K : Type}

/-- The comprehension of `sanitize_dict`. -/
def sanitizeEntries (entries : List (K × Scalar)) : List (K × Scalar) :=
  (entries.filter fun entry => isValidValue entry.2).map fun entry =>
    (entry.1, convertValue entry.2)

theorem keyed_sanitizeEntries {entries : List (K × Scalar)}
    (keyed : Table.Keyed Prod.fst entries) : Table.Keyed Prod.fst (sanitizeEntries entries) := by
  have sameKeys : (sanitizeEntries entries).map Prod.fst =
      (entries.filter fun entry => isValidValue entry.2).map Prod.fst := by
    rw [sanitizeEntries, List.map_map]
    rfl
  rw [Table.Keyed, sameKeys]
  exact keyed.filter _

def sanitizeMapping (data : Mapping K Scalar) : Mapping K Scalar :=
  ⟨sanitizeEntries data.entries, keyed_sanitizeEntries data.keys⟩

def sanitizeDict : Argument K → Except Failure (Mapping K Scalar)
  | .mapping data => .ok (sanitizeMapping data)
  | .other => .error (.valueError "Input must be a dictionary or mapping.")

/-! What it is for. -/

namespace Figure

def Finite (figure : Figure) : Prop := isnan figure = false ∧ isinf figure = false

end Figure

namespace Scalar

/-- A finite real number. -/
def FiniteReal : Scalar → Prop
  | .int _ | .npInteger _ => True
  | .float value | .npFloat _ value => value.Finite
  | _ => False

/-- A Python value that is neither None, NaN, infinite nor complex. -/
def Clean : Scalar → Prop
  | .int _ => True
  | .float value => value.Finite
  | _ => False

/-- A NaN or an infinity of a float narrower than Python's, or a complex number
narrower than Python's. -/
def Narrow : Scalar → Prop
  | .npFloat .float16 value | .npFloat .float32 value => ¬value.Finite
  | .npComplex .complex64 _ _ => True
  | _ => False

/-- Every kind of value, and what is made of it. -/
theorem isValidValue_iff (value : Scalar) :
    isValidValue value = true ↔ value.FiniteReal ∨ value.Narrow := by
  cases value with
  | none => simp [isValidValue, FiniteReal, Narrow]
  | int value => simp [isValidValue, FiniteReal, asFloat, isComplex]
  | float value => simp [isValidValue, FiniteReal, Narrow, asFloat, isComplex, Figure.Finite]
  | complex re im => simp [isValidValue, FiniteReal, Narrow, asFloat, isComplex]
  | npInteger value => simp [isValidValue, FiniteReal, asFloat, isComplex]
  | npFloat width value =>
      cases width with
      | float16 => simp [isValidValue, FiniteReal, Narrow, asFloat, isComplex, em]
      | float32 => simp [isValidValue, FiniteReal, Narrow, asFloat, isComplex, em]
      | float64 => simp [isValidValue, FiniteReal, Narrow, asFloat, isComplex, Figure.Finite]
  | npComplex width re im =>
      cases width <;> simp [isValidValue, FiniteReal, Narrow, asFloat, isComplex]

theorem clean_convertValue {value : Scalar} (real : value.FiniteReal) :
    (convertValue value).Clean := by
  cases value with
  | int _ | npInteger _ => trivial
  | float _ | npFloat _ _ => exact real
  | none | complex _ _ | npComplex _ _ _ => cases real

theorem not_clean_of_narrow {value : Scalar} (narrow : value.Narrow) :
    ¬(convertValue value).Clean := by
  cases value with
  | npFloat width value => cases width <;> first | exact narrow | cases narrow
  | npComplex _ _ _ => exact id
  | none | int _ | float _ | complex _ _ | npInteger _ => cases narrow

theorem convertValue_of_clean {value : Scalar} (clean : value.Clean) :
    isValidValue value = true ∧ convertValue value = value := by
  cases value with
  | int _ => exact ⟨(isValidValue_iff _).mpr (.inl trivial), rfl⟩
  | float _ => exact ⟨(isValidValue_iff _).mpr (.inl clean), rfl⟩
  | none | complex _ _ | npInteger _ | npFloat _ _ | npComplex _ _ _ => cases clean

end Scalar

/-- The result holds clean values only, exactly the finite real numbers of the
input under their keys, and is left alone by a second pass. -/
structure Sanitized (data result : Mapping K Scalar) : Prop where
  clean : ∀ entry ∈ result.entries, entry.2.Clean
  kept : ∀ key value, (key, value) ∈ result.entries ↔
    ∃ given, (key, given) ∈ data.entries ∧ given.FiniteReal ∧ value = convertValue given
  again : sanitizeDict (.mapping result) = .ok result

theorem mem_sanitizeEntries {entries : List (K × Scalar)} {key : K} {value : Scalar} :
    (key, value) ∈ sanitizeEntries entries ↔
      ∃ given, (key, given) ∈ entries ∧ (given.FiniteReal ∨ given.Narrow) ∧
        value = convertValue given := by
  simp only [sanitizeEntries, List.mem_map, List.mem_filter, Scalar.isValidValue_iff]
  constructor
  · rintro ⟨⟨key, given⟩, ⟨member, valid⟩, same⟩
    cases same
    exact ⟨given, member, valid, rfl⟩
  · rintro ⟨given, member, valid, rfl⟩
    exact ⟨(key, given), ⟨member, valid⟩, rfl⟩

/-- Clean values pass unchanged. -/
theorem sanitizeEntries_clean {entries : List (K × Scalar)}
    (clean : ∀ entry ∈ entries, entry.2.Clean) : sanitizeEntries entries = entries := by
  have kept : (entries.filter fun entry => isValidValue entry.2) = entries :=
    List.filter_eq_self.mpr fun entry member =>
      (Scalar.convertValue_of_clean (clean entry member)).1
  rw [sanitizeEntries, kept]
  refine (List.map_congr_left fun entry member => ?_).trans (List.map_id _)
  exact Prod.ext rfl (Scalar.convertValue_of_clean (clean entry member)).2

/-- The result is as promised if and only if no value is narrow. -/
theorem sanitizeDict_sanitized_iff (data : Mapping K Scalar) :
    (∃ result, sanitizeDict (.mapping data) = .ok result ∧ Sanitized data result) ↔
      ∀ entry ∈ data.entries, ¬entry.2.Narrow := by
  constructor
  · rintro ⟨_, ⟨⟩, sanitized⟩ entry member narrow
    have kept : (entry.1, convertValue entry.2) ∈ sanitizeEntries data.entries :=
      mem_sanitizeEntries.mpr ⟨entry.2, member, .inr narrow, rfl⟩
    exact Scalar.not_clean_of_narrow narrow (sanitized.clean _ kept)
  · intro wide
    have real {key : K} {value : Scalar} : (key, value) ∈ sanitizeEntries data.entries ↔
        ∃ given, (key, given) ∈ data.entries ∧ given.FiniteReal ∧ value = convertValue given := by
      rw [mem_sanitizeEntries]
      refine exists_congr fun given => and_congr_right fun member => ?_
      rw [or_iff_left (wide _ member)]
    have clean : ∀ entry ∈ sanitizeEntries data.entries, entry.2.Clean := by
      rintro ⟨key, value⟩ member
      obtain ⟨given, _, isReal, rfl⟩ := real.mp member
      exact Scalar.clean_convertValue isReal
    refine ⟨_, rfl, clean, fun _ _ => real, ?_⟩
    simp only [sanitizeDict, sanitizeMapping, sanitizeEntries_clean clean]

def narrowNan : Mapping String Scalar :=
  ⟨[("total_debt", .npFloat .float32 .nan)], List.nodup_singleton _⟩

/-- A float32 NaN is no Python float, so it is converted and kept. -/
theorem narrowNan_kept :
    ∃ result, sanitizeDict (.mapping narrowNan) = .ok result ∧
      result.entries = [("total_debt", .float .nan)] ∧ ¬Sanitized narrowNan result := by
  refine ⟨_, rfl, rfl, fun sanitized => ?_⟩
  have clean : Figure.nan.Finite := sanitized.clean _ (.head _)
  cases clean.1

end BalanceSheetAnalysis
