import Mathlib.Algebra.Order.Floor.Ring
import Mathlib.Data.Rat.Floor
import Mathlib.Tactic.Linarith

/-! Decimal numerals: whole numbers as a program prints and reads them, digits
grouped in thousands, and rounding to the nearest integer. -/
namespace Library.Numerals

def readNat (text : List Char) : Option Nat :=
  if text ≠ [] ∧ text.all Char.isDigit = true then some (Nat.ofDigitChars 10 text 0) else none

/-- A numeral that may have a sign before it. -/
def readSigned (read : List Char → Option Nat) : List Char → Option Int
  | '-' :: text => (read text).map fun magnitude : Nat => -(magnitude : Int)
  | text => (read text).map Int.ofNat

def readInt : List Char → Option Int := readSigned readNat

/-- Groups of three digits, the first of one to three, with commas between. -/
def readGrouped (text : List Char) : Option Nat :=
  match text.splitOn ',' with
  | [] => none
  | first :: rest =>
      if first.length ≤ 3 ∧ first ≠ [] ∧ rest.all (·.length = 3) = true then
        readNat (first ++ rest.flatten)
      else none

theorem readNat_toDigits (value : Nat) : readNat (Nat.toDigits 10 value) = some value := by
  have digits : (Nat.toDigits 10 value).all Char.isDigit = true := by
    rw [List.all_eq_true]
    intro char member
    exact Nat.isDigit_of_mem_toDigits (by decide) (by decide) member
  rw [readNat, if_pos ⟨Nat.toDigits_ne_nil, digits⟩, Nat.ofDigitChars_ten_toDigits]

theorem readNat_digits {text : List Char} {value : Nat} (isNat : readNat text = some value) :
    ∀ char ∈ text, char.isDigit = true := by
  unfold readNat at isNat
  split at isNat
  · rename_i numeral
    exact List.all_eq_true.mp numeral.2
  · cases isNat

theorem readSigned_negative (read : List Char → Option Nat) (text : List Char) :
    readSigned read ('-' :: text) = (read text).map fun magnitude : Nat => -(magnitude : Int) := rfl

theorem readSigned_positive (read : List Char → Option Nat) {text : List Char}
    (unsigned : text.head? ≠ some '-') :
    readSigned read text = (read text).map Int.ofNat := by
  unfold readSigned
  split
  · exact absurd rfl unsigned
  · rfl

theorem head?_ne_of_isDigit {text : List Char} (digits : ∀ char ∈ text, char.isDigit = true) :
    text.head? ≠ some '-' := by
  intro isHead
  have isDigit := digits '-' (List.mem_of_head? isHead)
  exact absurd isDigit (by decide)

theorem toDigits_unsigned (value : Nat) : (Nat.toDigits 10 value).head? ≠ some '-' :=
  head?_ne_of_isDigit fun _ member =>
    Nat.isDigit_of_mem_toDigits (by decide) (by decide) member

theorem readInt_toString (value : Int) : readInt (toString value).toList = some value := by
  cases value with
  | ofNat magnitude =>
      have text : (toString (Int.ofNat magnitude)).toList = Nat.toDigits 10 magnitude :=
        Nat.toList_repr
      rw [text, readInt, readSigned_positive _ (toDigits_unsigned magnitude), readNat_toDigits]
      rfl
  | negSucc below =>
      have text : (toString (Int.negSucc below)).toList = '-' :: Nat.toDigits 10 (below + 1) := by
        rw [show toString (Int.negSucc below) = "-" ++ (below + 1).repr from rfl,
          String.toList_append, Nat.toList_repr]
        rfl
      rw [text, readInt, readSigned_negative, readNat_toDigits]
      rfl

theorem readInt_alphabet {text : List Char} {value : Int} (isInt : readInt text = some value) :
    ∀ char ∈ text, char = '-' ∨ char.isDigit = true := by
  unfold readInt readSigned at isInt
  split at isInt
  · rename_i digits
    obtain ⟨magnitude, isNat, _⟩ := Option.map_eq_some_iff.mp isInt
    intro char member
    cases member with
    | head => exact .inl rfl
    | tail _ inside => exact .inr (readNat_digits isNat char inside)
  · obtain ⟨magnitude, isNat, _⟩ := Option.map_eq_some_iff.mp isInt
    intro char member
    exact .inr (readNat_digits isNat char member)

/-! Rounding. -/

/-- The nearest integer, and of two the even one. -/
structure NearestEven (value : ℚ) (rounded : Int) : Prop where
  near : |value - rounded| ≤ 1 / 2
  tie : |value - rounded| = 1 / 2 → Even rounded

theorem NearestEven.neg {value : ℚ} {rounded : Int} (nearest : NearestEven value rounded) :
    NearestEven (-value) (-rounded) := by
  have mirrored : |-value - ((-rounded : Int) : ℚ)| = |value - rounded| := by
    rw [Int.cast_neg, ← abs_neg]
    congr 1
    ring
  refine ⟨mirrored ▸ nearest.near, ?_⟩
  intro isTie
  rw [even_neg]
  exact nearest.tie (mirrored ▸ isTie)

theorem NearestEven.not_below {value : ℚ} {first second : Int} (left : NearestEven value first)
    (right : NearestEven value second) : ¬first < second := by
  intro below
  obtain ⟨_, leftNear⟩ := abs_le.mp left.near
  obtain ⟨rightNear, _⟩ := abs_le.mp right.near
  have apart : (first : ℚ) + 1 ≤ second := by exact_mod_cast below
  have isLeft : value - first = 1 / 2 := by linarith
  have isRight : value - second = -(1 / 2) := by linarith
  have next : (second : ℚ) = first + 1 := by linarith
  have isNext : second = first + 1 := by exact_mod_cast next
  have firstEven : Even first := left.tie (by rw [isLeft]; norm_num)
  have secondEven : Even second := right.tie (by rw [isRight]; norm_num)
  rw [isNext, Int.even_add_one] at secondEven
  exact secondEven firstEven

theorem NearestEven.unique {value : ℚ} {first second : Int} (left : NearestEven value first)
    (right : NearestEven value second) : first = second :=
  le_antisymm (not_lt.mp (right.not_below left)) (not_lt.mp (left.not_below right))

end Library.Numerals
