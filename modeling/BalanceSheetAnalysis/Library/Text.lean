import Mathlib.Data.List.Basic

/-! Texts read line by line, and one character of a text replaced by another.
A reader may take more characters than the newline for the end of a line, but
none a plain record is written with. -/
namespace Library.Text
open String String.Slice.Pattern String.Slice.Pattern.Model

/-! Replacing one character. -/

section Replace
variable {old new : Char} {s : Slice}

def swap (old new char : Char) : Char := if char = old then new else char

/-- A stretch the search passed over does not hold the character. -/
theorem notMem_of_noMatch {start stop : s.Pos} {before between after : String}
    (atStart : start.Splits before (between ++ after))
    (atStop : stop.Splits (before ++ between) after)
    (noMatch : ∀ pos, start ≤ pos → pos < stop → ¬MatchesAt (String.singleton old) pos) :
    old ∉ between.toList := by
  intro member
  obtain ⟨left, right, split⟩ := List.append_of_mem member
  have parts : between = String.ofList left ++ (String.singleton old ++ String.ofList right) := by
    apply String.toList_injective
    simp [split]
  have whole : s.copy = (before ++ String.ofList left) ++
      (String.singleton old ++ (String.ofList right ++ after)) := by
    rw [atStart.eq_append, parts]
    simp [String.append_assoc]
  have atOld := Slice.Pos.splits_ofEqAppend whole
  apply noMatch (Slice.Pos.ofEqAppend whole)
  · rw [atStart.le_iff_exists_eq_append atOld]
    refine ⟨String.ofList left, rfl, ?_⟩
    rw [parts]
    simp [String.append_assoc]
  · rw [atOld.lt_iff_exists_eq_append atStop]
    refine ⟨String.singleton old ++ String.ofList right, ?_, ?_, ?_⟩
    · intro empty
      simpa using congrArg String.toList empty
    · rw [parts]
      simp [String.append_assoc]
    · simp [String.append_assoc]
  · rw [ForwardStringSearcher.matchesAt_iff_splits]
    exact ⟨_, _, atOld⟩

theorem slice_copy {start stop : s.Pos} {before between after : String} (ordered : start ≤ stop)
    (atStart : start.Splits before (between ++ after))
    (atStop : stop.Splits (before ++ between) after) :
    (s.slice! start stop).copy = between := by
  have found := Slice.copy_slice_eq_iff_splits.mpr ⟨before, after, atStart, atStop⟩
  obtain ⟨_, isBetween⟩ := found
  rw [Slice.slice!, dif_pos ordered]
  exact isBetween

/-- What `replace` makes of one step of its search. -/
def replaceStep (new : String) : String → SearchStep s → String
  | sofar, .matched .. => sofar ++ ToSlice.toSlice new
  | sofar, .rejected start stop => sofar ++ s.slice! start stop

theorem foldl_replaceStep {pos : s.Pos} {steps : List (SearchStep s)}
    (valid : IsValidSearchFrom (String.singleton old) pos steps) {before after : String}
    (splits : pos.Splits before after) (sofar : String) :
    (steps.foldl (replaceStep (String.singleton new)) sofar).toList =
      sofar.toList ++ after.toList.map (swap old new) := by
  induction valid generalizing before after sofar with
  | endPos =>
      obtain rfl : after = "" := splits.eq_endPos_iff.mp rfl
      simp
  | matched isMatch _ ih =>
      obtain ⟨left, right, atStart, atStop⟩ :=
        ForwardStringSearcher.isLongestMatchAt_iff_splits.mp isMatch
      obtain ⟨rfl, rfl⟩ := splits.eq atStart
      have isNew : (ToSlice.toSlice (String.singleton new)).copy = String.singleton new :=
        String.copy_toSlice
      rw [List.foldl_cons, ih atStop]
      simp [replaceStep, swap, isNew]
  | @mismatched steps start stop lt noMatch _ ih =>
      have ordered : start ≤ stop := Std.le_of_lt lt
      have atStop := stop.splits
      obtain ⟨between, isBefore, rfl⟩ := (splits.le_iff_exists_eq_append atStop).mp ordered
      rw [isBefore] at atStop
      have absent : old ∉ between.toList := notMem_of_noMatch splits atStop noMatch
      have kept : between.toList.map (swap old new) = between.toList := by
        conv_rhs => rw [← List.map_id between.toList]
        apply List.map_congr_left
        intro char member
        exact if_neg fun same : char = old => absent (same ▸ member)
      rw [List.foldl_cons, ih atStop]
      simp [replaceStep, slice_copy ordered splits atStop, kept]

theorem toList_replace (text : String) (old new : Char) :
    (text.replace (String.singleton old) (String.singleton new)).toList =
      text.toList.map (swap old new) := by
  have nonempty : String.singleton old ≠ "" := by
    intro empty
    simpa using congrArg String.toList empty
  have lawful := ForwardStringSearcher.lawfulToForwardSearcherModel nonempty
  have folded := @foldl_replaceStep old new text.toSlice _ _
    (lawful.isValidSearchFrom_toList text.toSlice) _ _ text.toSlice.splits_startPos ""
  rw [String.replace, Slice.replace, ← Std.Iter.foldl_toList]
  refine Eq.trans ?_ (folded.trans (by simp))
  rfl

end Replace

/-- The text without the blanks at both ends. -/
def strip (isBlank : Char → Bool) (text : String) : String :=
  String.ofList ((text.toList.dropWhile isBlank).reverse.dropWhile isBlank).reverse

/-! Lines. -/

/-- What a reader takes for the end of a line. -/
structure LineBreaks where
  isBreak : Char → Bool
  newline : isBreak '\n' = true
  printable : ∀ char : Char, 32 ≤ char.toNat → char.toNat < 127 → isBreak char = false

namespace LineBreaks

/-- Only the newline. -/
def newlineOnly : LineBreaks where
  isBreak char := char = '\n'
  newline := rfl
  printable := by
    intro char above _
    rw [decide_eq_false_iff_not]
    rintro rfl
    exact absurd above (by decide)

/-- The line boundaries of `str.splitlines`. -/
def splitlines : LineBreaks where
  isBreak char := [10, 11, 12, 13, 28, 29, 30, 133, 8232, 8233].contains char.toNat
  newline := rfl
  printable := by
    intro char above below
    rw [List.contains_eq_mem, decide_eq_false_iff_not]
    intro member
    simp only [List.mem_cons, List.not_mem_nil, or_false] at member
    omega

variable (breaks : LineBreaks)

def lines (text : List Char) : List (List Char) := text.splitOnP breaks.isBreak

/-- A text that is one line to every reader. -/
def Plain (text : List Char) : Prop := ∀ char ∈ text, 32 ≤ char.toNat ∧ char.toNat < 127

instance (text : List Char) : Decidable (Plain text) := List.decidableBAll _ text

theorem Plain.append {left right : List Char} (first : Plain left) (second : Plain right) :
    Plain (left ++ right) := by
  intro char member
  exact (List.mem_append.mp member).elim (first char) (second char)

variable {breaks}

theorem lines_plain {text : List Char} (plain : Plain text) : breaks.lines text = [text] :=
  List.splitOnP_eq_singleton fun char member =>
    breaks.printable char (plain char member).1 (plain char member).2

theorem lines_newline (left right : List Char) :
    breaks.lines (left ++ '\n' :: right) = breaks.lines left ++ breaks.lines right :=
  List.splitOnP_append_cons left right breaks.newline

/-- Lines joined by newlines, each of which may itself be several. -/
theorem lines_intercalate {parts : List (List Char)} (some : parts ≠ []) :
    breaks.lines (['\n'].intercalate parts) = parts.flatMap breaks.lines := by
  induction parts with
  | nil => exact absurd rfl some
  | cons part parts ih =>
      cases parts with
      | nil => simp
      | cons next parts =>
          rw [List.intercalate_cons_cons, List.append_assoc, List.singleton_append, lines_newline,
            ih (List.cons_ne_nil _ _)]
          rfl

/-- Joining two texts joins the last line of one to the first of the other. -/
theorem lines_append (left right : List Char) :
    ∃ before last first after, breaks.lines left = before ++ [last] ∧
      breaks.lines right = first :: after ∧
      breaks.lines (left ++ right) = before ++ (last ++ first) :: after := by
  induction left with
  | nil =>
      obtain ⟨first, after, isRight⟩ := List.exists_cons_of_ne_nil
        (List.splitOnP_ne_nil breaks.isBreak right)
      exact ⟨[], [], first, after, rfl, isRight, isRight⟩
  | cons char left ih =>
      obtain ⟨before, last, first, after, isLeft, isRight, joined⟩ := ih
      have step (text : List Char) : breaks.lines (char :: text) =
          if breaks.isBreak char then [] :: breaks.lines text
          else (breaks.lines text).modifyHead (List.cons char) :=
        List.splitOnP_cons_eq_if_modifyHead char text
      rw [List.cons_append, step, step, isLeft, joined]
      cases breaks.isBreak char with
      | true => exact ⟨[] :: before, last, first, after, rfl, isRight, rfl⟩
      | false =>
          cases before with
          | nil => exact ⟨[], char :: last, first, after, rfl, isRight, rfl⟩
          | cons line before =>
              exact ⟨(char :: line) :: before, last, first, after, rfl, isRight, rfl⟩

/-- The lines of a text that have a line break on both sides. -/
def innerLines (breaks : LineBreaks) (text : List Char) : List (List Char) :=
  (breaks.lines text).tail.dropLast

section Framed
variable {matters : List Char → Prop}

theorem exists_dropLast_lines {opening : List Char} (plain : Plain opening)
    (opened : ∀ rest, ¬matters (opening ++ rest)) (text : List Char) :
    (∃ line ∈ (breaks.lines (opening ++ text)).dropLast, matters line) ↔
      ∃ line ∈ breaks.innerLines text, matters line := by
  obtain ⟨before, last, first, after, isOpening, isText, joined⟩ := lines_append opening text
  rw [lines_plain plain, ← List.nil_append [opening]] at isOpening
  obtain ⟨rfl, same⟩ := List.append_inj' isOpening rfl
  obtain rfl : opening = last := List.singleton_inj.mp same
  rw [innerLines, isText, joined, List.nil_append, List.tail_cons]
  cases after with
  | nil => rfl
  | cons next after => simp [opened first]

theorem exists_tail_lines {closing : List Char} (plain : Plain closing)
    (closed : ∀ rest, ¬matters (rest ++ closing)) (text : List Char) :
    (∃ line ∈ (breaks.lines (text ++ closing)).tail, matters line) ↔
      ∃ line ∈ breaks.innerLines text, matters line := by
  obtain ⟨before, last, first, after, isText, isClosing, joined⟩ := lines_append text closing
  rw [lines_plain plain] at isClosing
  obtain ⟨rfl, rfl⟩ := List.cons_eq_cons.mp isClosing
  rw [innerLines, isText, joined]
  cases before with
  | nil => rfl
  | cons line before => simp [closed last, or_and_right, exists_or]

theorem exists_lines_middle {middle : List Char} (plain : Plain middle)
    (between : ∀ left right, ¬matters (left ++ middle ++ right)) (left right : List Char) :
    (∃ line ∈ breaks.lines (left ++ middle ++ right), matters line) ↔
      (∃ line ∈ (breaks.lines left).dropLast, matters line) ∨
        ∃ line ∈ (breaks.lines right).tail, matters line := by
  obtain ⟨before, last, first, after, isLeft, isMiddle, joined⟩ := lines_append left middle
  rw [lines_plain plain] at isMiddle
  obtain ⟨rfl, rfl⟩ := List.cons_eq_cons.mp isMiddle
  obtain ⟨before', last', first', after', isJoined, isRight, whole⟩ :=
    lines_append (left ++ middle) right
  rw [joined] at isJoined
  obtain ⟨rfl, same⟩ := List.append_inj' isJoined rfl
  obtain rfl : last ++ middle = last' := List.singleton_inj.mp same
  rw [isLeft, isRight, whole, List.dropLast_concat, List.tail_cons]
  simp only [List.mem_append, List.mem_cons, or_and_right, exists_or, exists_eq_left,
    between last first', false_or]

/-- Where no line that holds a piece of the frame matters, a line of two framed
texts that does is an inner line of one of them. -/
theorem exists_lines_framed {opening middle closing : List Char} (plainOpening : Plain opening)
    (plainMiddle : Plain middle) (plainClosing : Plain closing)
    (opened : ∀ rest, ¬matters (opening ++ rest)) (closed : ∀ rest, ¬matters (rest ++ closing))
    (between : ∀ left right, ¬matters (left ++ middle ++ right)) (first second : List Char) :
    (∃ line ∈ breaks.lines (opening ++ first ++ middle ++ (second ++ closing)), matters line) ↔
      ∃ line ∈ breaks.innerLines first ++ breaks.innerLines second, matters line := by
  rw [exists_lines_middle plainMiddle between, exists_dropLast_lines plainOpening opened,
    exists_tail_lines plainClosing closed]
  simp only [List.mem_append, or_and_right, exists_or]

end Framed

end LineBreaks
end Library.Text
