import BalanceSheetAnalysis.Library.Numerals
import BalanceSheetAnalysis.Library.Text
import BalanceSheetAnalysis.BalanceSheets.Sanitize
import BalanceSheetAnalysis.Companies.Runs
import BalanceSheetAnalysis.Llm.Service

/-! Reading the text put before a question line by line.  A section opens with
its year, and every line of it states one figure. -/
namespace BalanceSheetAnalysis
open Library Numerals Text

/-! One figure. -/

theorem splitOn_insertCommas {digits : List Char} (some : digits ≠ []) (noComma : ',' ∉ digits) :
    ∃ first rest, (insertCommas digits).splitOn ',' = first :: rest ∧
      first.length = (digits.length - 1) % 3 + 1 ∧ (∀ group ∈ rest, group.length = 3) ∧
      first ++ rest.flatten = digits := by
  induction digits with
  | nil => exact absurd rfl some
  | cons digit digits ih =>
      have other : digit ≠ ',' := fun same => noComma (same ▸ List.mem_cons_self)
      have noCommaLater : ',' ∉ digits := fun member => noComma (List.mem_cons_of_mem _ member)
      cases digits with
      | nil =>
          have alone : (insertCommas [digit]).splitOn ',' = [[digit]] :=
            List.splitOn_eq_singleton noComma
          exact ⟨[digit], [], alone, rfl, List.forall_mem_nil _, rfl⟩
      | cons next digits =>
          obtain ⟨first, rest, isSplit, size, groups, whole⟩ :=
            ih (List.cons_ne_nil _ _) noCommaLater
          rw [insertCommas]
          simp only [List.length_cons, Nat.add_sub_cancel] at size ⊢
          split
          · rename_i boundary
            refine ⟨[digit], first :: rest, ?_, ?_, ?_, ?_⟩
            · rw [List.splitOn_cons_eq_if_modifyHead, if_neg (by simpa using other),
                List.splitOn_cons_eq_if_modifyHead, if_pos (beq_self_eq_true _), isSplit]
              rfl
            · rw [List.length_singleton]
              omega
            · intro group member
              cases member with
              | head => omega
              | tail _ inside => exact groups group inside
            · simp [whole]
          · rename_i inside
            have within : (digits.length + 1) % 3 ≠ 0 := fun same =>
              inside ⟨List.cons_ne_nil _ _, same⟩
            refine ⟨digit :: first, rest, ?_, ?_, groups, ?_⟩
            · rw [List.splitOn_cons_eq_if_modifyHead, if_neg (by simpa using other), isSplit]
              rfl
            · rw [List.length_cons]
              omega
            · simp [whole]

theorem mem_insertCommas {digits : List Char} {char : Char} (member : char ∈ insertCommas digits) :
    char = ',' ∨ char ∈ digits := by
  induction digits with
  | nil => cases member
  | cons digit digits ih =>
      rw [insertCommas] at member
      split at member
      · simp only [List.mem_cons] at member ⊢
        tauto
      · simp only [List.mem_cons] at member ⊢
        tauto

theorem readGrouped_insertCommas (value : Nat) :
    readGrouped (insertCommas (Nat.toDigits 10 value)) = some value := by
  have noComma : ',' ∉ Nat.toDigits 10 value := by
    intro member
    have isDigit := Nat.isDigit_of_mem_toDigits (by decide) (by decide) member
    exact absurd isDigit (by decide)
  obtain ⟨first, rest, isSplit, size, groups, whole⟩ :=
    splitOn_insertCommas Nat.toDigits_ne_nil noComma
  have sized : first.length ≤ 3 ∧ first ≠ [] ∧ rest.all (·.length = 3) = true := by
    refine ⟨by omega, ?_, ?_⟩
    · intro empty
      rw [empty, List.length_nil] at size
      omega
    · simpa using groups
  unfold readGrouped
  rw [isSplit]
  dsimp only
  rw [if_pos sized, whole, readNat_toDigits]

/-- The integer a finite figure is rounded to. -/
def Figure.rounded : Figure → Option Int
  | .finite value => some (roundHalfEven value)
  | .negativeZero => some 0
  | .infinity _ | .nan => none

theorem roundHalfEven_nearest (value : ℚ) : NearestEven value (roundHalfEven value) := by
  have below : ((value.floor : Int) : ℚ) ≤ value := Int.floor_le value
  have above : value < ((value.floor : Int) : ℚ) + 1 := Int.lt_floor_add_one value
  unfold roundHalfEven
  dsimp only
  split
  · rename_i lower
    have isRest : |value - value.floor| = value - value.floor := abs_of_nonneg (by linarith)
    refine ⟨by rw [isRest]; exact lower.le, fun isTie => ?_⟩
    rw [isRest] at isTie
    exact absurd isTie lower.ne
  · rename_i notLower
    split
    · rename_i upper
      have isRest : |value - ((value.floor + 1 : Int) : ℚ)| = value.floor + 1 - value := by
        rw [abs_of_nonpos (by push_cast; linarith)]
        push_cast
        ring
      refine ⟨by rw [isRest]; linarith, fun isTie => ?_⟩
      rw [isRest] at isTie
      linarith
    · rename_i notUpper
      have half : value - value.floor = 1 / 2 := by linarith
      split
      · rename_i isEven
        refine ⟨by rw [half]; norm_num, fun _ => Int.even_iff.mpr isEven⟩
      · rename_i isOdd
        have isRest : value - ((value.floor + 1 : Int) : ℚ) = -(1 / 2) := by
          push_cast
          linarith
        refine ⟨by rw [isRest]; norm_num, fun _ => Int.even_iff.mpr ?_⟩
        omega

theorem roundHalfEven_neg (value : ℚ) : roundHalfEven (-value) = -roundHalfEven value :=
  (roundHalfEven_nearest (-value)).unique (roundHalfEven_nearest value).neg

theorem roundHalfEven_nonneg {value : ℚ} (nonneg : 0 ≤ value) : 0 ≤ roundHalfEven value := by
  have floored : 0 ≤ value.floor := Int.floor_nonneg.mpr nonneg
  unfold roundHalfEven
  dsimp only
  split
  · exact floored
  · split
    · omega
    · split <;> omega

theorem grouped_alphabet {value : Nat} {char : Char}
    (member : char ∈ insertCommas (Nat.toDigits 10 value)) : char = ',' ∨ char.isDigit = true :=
  (mem_insertCommas member).imp_right
    (Nat.isDigit_of_mem_toDigits (by decide) (by decide))

/-- What is printed for a figure is read as the integer it is rounded to. -/
theorem read_formatFigure (figure : Figure) :
    readSigned readGrouped (formatFigure figure).toList = figure.rounded := by
  cases figure with
  | finite value =>
      have rounded : ((roundHalfEven |value|).toNat : Int) = roundHalfEven |value| :=
        Int.toNat_of_nonneg (roundHalfEven_nonneg (abs_nonneg value))
      unfold formatFigure
      dsimp only
      rw [String.toList_append, String.toList_ofList]
      split
      · rename_i negative
        have sign : "-".toList = ['-'] := rfl
        rw [sign, List.singleton_append, readSigned_negative, readGrouped_insertCommas,
          Option.map_some, rounded, abs_of_neg negative, roundHalfEven_neg, neg_neg]
        rfl
      · rename_i notNegative
        rw [abs_of_nonneg (not_lt.mp notNegative)] at rounded ⊢
        have unsigned : (insertCommas
            (Nat.toDigits 10 (roundHalfEven value).toNat)).head? ≠ some '-' := by
          intro isHead
          exact absurd (grouped_alphabet (List.mem_of_head? isHead)) (by decide)
        have noSign : "".toList = [] := rfl
        rw [noSign, List.nil_append, readSigned_positive _ unsigned, readGrouped_insertCommas,
          Option.map_some]
        exact congrArg some rounded
  | negativeZero => rfl
  | infinity negative => cases negative <;> decide
  | nan => decide

theorem formatFigure_plain (figure : Figure) : LineBreaks.Plain (formatFigure figure).toList := by
  cases figure with
  | finite value =>
      unfold formatFigure
      dsimp only
      rw [String.toList_append, String.toList_ofList]
      apply LineBreaks.Plain.append
      · split <;> decide
      · intro char member
        cases grouped_alphabet member with
        | inl comma =>
            rw [comma]
            decide
        | inr digit =>
            have range : 48 ≤ char.toNat ∧ char.toNat ≤ 57 := Char.isDigit_iff_toNat.mp digit
            omega
  | negativeZero => decide
  | infinity negative => cases negative <;> decide
  | nan => decide

/-! The lines. -/

def metricLabel (field : String) : String := field.replace "_" " "

/-- `Fiscal year Y:` opens year Y. -/
def opensYear (line : List Char) : Option Int :=
  if "Fiscal year ".toList.isPrefixOf line ∧ line.getLast? = some ':' then
    readInt (line.drop "Fiscal year ".length).dropLast
  else none

/-- `  - metric: number` states a figure. -/
def statedFigure (line : List Char) : Option (String × Int) :=
  if "  - ".toList.isPrefixOf line then
    let rest := line.drop "  - ".length
    match rest.dropWhile (· ≠ ':') with
    | ':' :: ' ' :: number =>
        (readSigned readGrouped number).map fun value =>
          (String.ofList (rest.takeWhile (· ≠ ':')), value)
    | _ => none
  else none

inductive Statement where
  | opens (year : Int)
  | states (year : Int) (metric : String) (value : Int)
  deriving DecidableEq

/-- A line outside every section states nothing. -/
def lineStatement (opened : Option Int) (line : List Char) : Option Statement :=
  match opensYear line with
  | some year => some (.opens year)
  | none => opened.bind fun year =>
      (statedFigure line).map fun figure => .states year figure.1 figure.2

/-- A figure is stated for the year opened last. -/
def readLines : Option Int → List (List Char) → List Statement
  | _, [] => []
  | opened, line :: rest =>
      (lineStatement opened line).toList ++ readLines ((opensYear line).or opened) rest

def readText (breaks : LineBreaks) (text : String) : List Statement :=
  readLines none (breaks.lines text.toList)

theorem opensYear_line (year : Int) :
    opensYear s!"Fiscal year {year}:".toList = some year := by
  have text : s!"Fiscal year {year}:".toList =
      "Fiscal year ".toList ++ ((toString year).toList ++ [':']) := by
    rw [String.toList_append, String.toList_append, List.append_assoc]
    rfl
  have opening : "Fiscal year ".toList.isPrefixOf s!"Fiscal year {year}:".toList = true := by
    rw [List.isPrefixOf_iff_prefix, text]
    exact List.prefix_append _ _
  have closing : s!"Fiscal year {year}:".toList.getLast? = some ':' := by
    rw [text, ← List.append_assoc, List.getLast?_concat]
  rw [opensYear, if_pos ⟨opening, closing⟩, text, List.drop_left' (String.length_toList),
    List.dropLast_concat, readInt_toString]

theorem statedFigure_line {label : String} (noColon : ':' ∉ label.toList) (figure : Figure) :
    statedFigure s!"  - {label}: {formatFigure figure}".toList =
      figure.rounded.map fun value => (label, value) := by
  have text : s!"  - {label}: {formatFigure figure}".toList =
      "  - ".toList ++ (label.toList ++ ':' :: ' ' :: (formatFigure figure).toList) := by
    rw [String.toList_append, String.toList_append, String.toList_append, List.append_assoc,
      List.append_assoc]
    rfl
  have opening : "  - ".toList.isPrefixOf s!"  - {label}: {formatFigure figure}".toList = true := by
    rw [List.isPrefixOf_iff_prefix, text]
    exact List.prefix_append _ _
  have inLabel (char : Char) (member : char ∈ label.toList) : decide (char ≠ ':') = true :=
    decide_eq_true fun same => noColon (same ▸ member)
  rw [statedFigure, if_pos opening, text, List.drop_left' (String.length_toList)]
  dsimp only
  rw [List.dropWhile_append_of_pos inLabel, List.takeWhile_append_of_pos inLabel,
    List.dropWhile_cons_of_neg (by decide), List.takeWhile_cons_of_neg (by decide),
    List.append_nil, String.ofList_toList, ← read_formatFigure]
  rfl

theorem opensYear_alphabet {line : List Char} {year : Int} (opens : opensYear line = some year) :
    ∀ char ∈ line, char ∈ "Fiscal year :-".toList ∨ char.isDigit = true := by
  unfold opensYear at opens
  split at opens
  · rename_i shape
    obtain ⟨rest, isLine⟩ := List.isPrefixOf_iff_prefix.mp shape.1
    have isRest : line.drop "Fiscal year ".length = rest := by
      rw [← isLine, List.drop_left' String.length_toList]
    rw [isRest] at opens
    intro char member
    rw [← isLine] at member
    cases List.mem_append.mp member with
    | inl inOpening => exact .inl (List.mem_append_left [':', '-'] inOpening)
    | inr inRest =>
        have some : rest ≠ [] := List.ne_nil_of_mem inRest
        rw [← List.dropLast_append_getLast some, List.mem_append, List.mem_singleton] at inRest
        cases inRest with
        | inl inNumber =>
            cases readInt_alphabet opens char inNumber with
            | inl sign => exact .inl (sign ▸ by decide)
            | inr digit => exact .inr digit
        | inr isLast =>
            have closing : rest.getLast some = ':' := by
              have last := shape.2
              rw [← isLine, List.getLast?_append_of_ne_nil _ some,
                List.getLast?_eq_some_getLast some] at last
              exact Option.some.inj last
            exact .inl (isLast ▸ closing ▸ by decide)
  · cases opens

/-- The year that is open after the lines. -/
def openedBy (opened : Option Int) (lines : List (List Char)) : Option Int :=
  lines.foldl (fun opened line => (opensYear line).or opened) opened

theorem readLines_append (opened : Option Int) (lines rest : List (List Char)) :
    readLines opened (lines ++ rest) = readLines opened lines ++
      readLines (openedBy opened lines) rest := by
  induction lines generalizing opened with
  | nil => rfl
  | cons line lines ih => rw [List.cons_append, readLines, readLines, ih, List.append_assoc]; rfl

/-- Lines that open no year state nothing, as long as none is open. -/
theorem readLines_unopened {lines : List (List Char)}
    (unopened : ∀ line ∈ lines, opensYear line = none) : readLines none lines = [] := by
  induction lines with
  | nil => rfl
  | cons line lines ih =>
      have opens : opensYear line = none := unopened line List.mem_cons_self
      rw [readLines, lineStatement, opens]
      exact ih fun other member => unopened other (List.mem_cons_of_mem _ member)

theorem mem_readLines_opens {opened : Option Int} {lines : List (List Char)} {year : Int} :
    .opens year ∈ readLines opened lines ↔ ∃ line ∈ lines, opensYear line = some year := by
  induction lines generalizing opened with
  | nil => simp [readLines]
  | cons line lines ih =>
      have first :
          .opens year ∈ (lineStatement opened line).toList ↔ opensYear line = some year := by
        unfold lineStatement
        cases opensYear line with
        | some found => simp [eq_comm]
        | none => cases opened <;> cases statedFigure line <;> simp
      rw [readLines, List.mem_append, first, ih]
      simp

/-! The sections. -/

theorem metricLabel_toList (field : String) :
    (metricLabel field).toList = field.toList.map (swap '_' ' ') :=
  toList_replace field '_' ' '

theorem metricLabel_plain {field : String} (key : field ∈ KEY_METRICS) :
    LineBreaks.Plain (metricLabel field).toList ∧ ':' ∉ (metricLabel field).toList := by
  have every : ∀ field ∈ KEY_METRICS, LineBreaks.Plain (field.toList.map (swap '_' ' ')) ∧
      ':' ∉ field.toList.map (swap '_' ' ') := by
    decide
  rw [metricLabel_toList]
  exact every field key

theorem metricLabel_injective {first second : String} (firstKey : first ∈ KEY_METRICS)
    (secondKey : second ∈ KEY_METRICS) (same : metricLabel first = metricLabel second) :
    first = second := by
  have distinct : (KEY_METRICS.map fun field => field.toList.map (swap '_' ' ')).Nodup := by
    decide
  apply List.inj_on_of_nodup_map distinct firstKey secondKey
  rw [← metricLabel_toList, ← metricLabel_toList, same]

/-- What the section of a sheet states of one metric. -/
def figureStatement (sheet : BalanceSheet) (field : String) : Option Statement :=
  (sheet.figures.lookup field).bind fun figure =>
    figure.rounded.map (.states sheet.year (metricLabel field))

def sheetStatements (sheet : BalanceSheet) : List Statement :=
  .opens sheet.year :: KEY_METRICS.filterMap (figureStatement sheet)

section Sections
variable {breaks : LineBreaks} (sheet : BalanceSheet)

def yearLine (sheet : BalanceSheet) : String := s!"Fiscal year {sheet.year}:"

theorem yearLine_plain : LineBreaks.Plain (yearLine sheet).toList := by
  have digits : LineBreaks.Plain (toString sheet.year).toList := by
    intro char member
    cases readInt_alphabet (readInt_toString sheet.year) char member with
    | inl sign =>
        rw [sign]
        decide
    | inr digit =>
        have range : 48 ≤ char.toNat ∧ char.toNat ≤ 57 := Char.isDigit_iff_toNat.mp digit
        omega
  have ends : LineBreaks.Plain "Fiscal year ".toList ∧ LineBreaks.Plain ":".toList := by decide
  rw [yearLine, String.toList_append, String.toList_append]
  exact (ends.1.append digits).append ends.2

theorem metricLine_plain {field line : String} (key : field ∈ KEY_METRICS)
    (isLine : metricLine sheet field = some line) : LineBreaks.Plain line.toList := by
  obtain ⟨figure, _, rfl⟩ := Option.map_eq_some_iff.mp isLine
  have ends : LineBreaks.Plain "  - ".toList ∧ LineBreaks.Plain ": ".toList := by decide
  rw [String.toList_append, String.toList_append, String.toList_append]
  exact ((ends.1.append (metricLabel_plain key).1).append ends.2).append (formatFigure_plain figure)

/-- A section: a blank line, the year, and a line for each metric on file. -/
theorem lines_sheetLines : (sheetLines sheet).flatMap (fun line => breaks.lines line.toList) =
    [] :: (yearLine sheet).toList ::
      (KEY_METRICS.filterMap (metricLine sheet)).map String.toList := by
  have opening : breaks.lines s!"\nFiscal year {sheet.year}:".toList =
      [[], (yearLine sheet).toList] := by
    have text : s!"\nFiscal year {sheet.year}:".toList = [] ++ '\n' :: (yearLine sheet).toList := by
      rw [yearLine, String.toList_append, String.toList_append, String.toList_append,
        String.toList_append]
      rfl
    rw [text, LineBreaks.lines_newline, LineBreaks.lines_plain (yearLine_plain sheet)]
    rfl
  have metrics : (KEY_METRICS.filterMap (metricLine sheet)).flatMap
      (fun line => breaks.lines line.toList) =
        (KEY_METRICS.filterMap (metricLine sheet)).map String.toList := by
    rw [List.map_eq_flatMap]
    apply List.flatMap_congr
    intro line member
    obtain ⟨field, key, isLine⟩ := List.mem_filterMap.mp member
    exact LineBreaks.lines_plain (metricLine_plain sheet key isLine)
  rw [sheetLines, List.flatMap_cons, opening, metrics]
  rfl

theorem lineStatement_metric {field line : String} (key : field ∈ KEY_METRICS)
    (isLine : metricLine sheet field = some line) :
    opensYear line.toList = none ∧
      lineStatement (some sheet.year) line.toList = figureStatement sheet field := by
  obtain ⟨figure, found, rfl⟩ := Option.map_eq_some_iff.mp isLine
  have text : s!"  - {metricLabel field}: {formatFigure figure}".toList =
      ' ' :: (" - " ++ metricLabel field ++ ": " ++ formatFigure figure).toList := by
    simp only [String.toList_append]
    rfl
  have opens : opensYear s!"  - {metricLabel field}: {formatFigure figure}".toList = none := by
    rw [opensYear, text]
    exact if_neg fun shape => Bool.false_ne_true shape.1
  refine ⟨opens, ?_⟩
  have states := statedFigure_line (metricLabel_plain key).2 figure
  have stated : lineStatement (some sheet.year)
      s!"  - {metricLabel field}: {formatFigure figure}".toList =
        figure.rounded.map (.states sheet.year (metricLabel field)) := by
    rw [lineStatement, opens]
    dsimp only
    rw [states, Option.bind_some, Option.map_map]
    rfl
  rw [figureStatement, found]
  exact stated

theorem readLines_metrics {fields : List String} (keys : fields ⊆ KEY_METRICS)
    (rest : List (List Char)) :
    readLines (some sheet.year)
        ((fields.filterMap (metricLine sheet)).map String.toList ++ rest) =
      fields.filterMap (figureStatement sheet) ++ readLines (some sheet.year) rest := by
  induction fields with
  | nil => rfl
  | cons field fields ih =>
      have key : field ∈ KEY_METRICS := keys List.mem_cons_self
      have ih := ih fun other member => keys (List.mem_cons_of_mem _ member)
      cases isLine : metricLine sheet field with
      | none =>
          have absent : figureStatement sheet field = none := by
            rw [figureStatement, Option.map_eq_none_iff.mp isLine]
            rfl
          rw [List.filterMap_cons_none isLine, List.filterMap_cons_none absent, ih]
      | some line =>
          obtain ⟨opens, states⟩ := lineStatement_metric sheet key isLine
          rw [List.filterMap_cons_some isLine, List.map_cons, List.cons_append, readLines, states,
            opens, Option.none_or, ih]
          cases states' : figureStatement sheet field with
          | none => rw [List.filterMap_cons_none states']; rfl
          | some statement => rw [List.filterMap_cons_some states']; rfl

theorem readLines_sheet (opened : Option Int) (rest : List (List Char)) :
    readLines opened
        ((sheetLines sheet).flatMap (fun line => breaks.lines line.toList) ++ rest) =
      sheetStatements sheet ++ readLines (some sheet.year) rest := by
  have blank : opensYear [] = none := rfl
  have noFigure : statedFigure [] = none := rfl
  have nothing : lineStatement opened [] = none := by
    rw [lineStatement, blank, noFigure]
    cases opened <;> rfl
  have opens : opensYear (yearLine sheet).toList = some sheet.year := opensYear_line sheet.year
  have states : lineStatement opened (yearLine sheet).toList = some (.opens sheet.year) := by
    rw [lineStatement, opens]
  rw [lines_sheetLines, List.cons_append, List.cons_append, readLines, readLines, nothing, blank,
    Option.none_or, states, opens, Option.some_or,
    readLines_metrics sheet (List.Subset.refl _)]
  rfl

end Sections

/-! The whole text. -/

def nothingOnFile (companyName ticker : String) : String :=
  s!"No balance sheet data is currently on file for {companyName} ({ticker})."

/-- The first paragraph: what the figures are of, or that there are none. -/
def heading (companyName ticker : String) (balanceSheets : List BalanceSheet) : String :=
  if balanceSheets.isEmpty then nothingOnFile companyName ticker
  else s!"Balance sheet figures for {companyName} ({ticker}), in reporting currency:"

def byYear (balanceSheets : List BalanceSheet) : List BalanceSheet :=
  balanceSheets.mergeSort fun earlier later => earlier.year ≤ later.year

theorem lines_buildGroundingContext (breaks : LineBreaks) (companyName ticker : String)
    (balanceSheets : List BalanceSheet) :
    breaks.lines (buildGroundingContext companyName ticker balanceSheets).toList =
      breaks.lines (heading companyName ticker balanceSheets).toList ++
        (byYear balanceSheets).flatMap fun sheet =>
          (sheetLines sheet).flatMap fun line => breaks.lines line.toList := by
  unfold buildGroundingContext heading byYear
  cases balanceSheets with
  | nil =>
      rw [List.mergeSort_nil, List.flatMap_nil, List.append_nil]
      rfl
  | cons sheet balanceSheets =>
      rw [List.isEmpty_cons, if_neg Bool.false_ne_true, if_neg Bool.false_ne_true,
        String.toList_intercalate]
      have newline : "\n".toList = ['\n'] := rfl
      rw [newline, LineBreaks.lines_intercalate (by simp), List.flatMap_map, List.flatMap_cons,
        List.flatMap_assoc]

theorem readText_buildGroundingContext (breaks : LineBreaks) (companyName ticker : String)
    (balanceSheets : List BalanceSheet) :
    readText breaks (buildGroundingContext companyName ticker balanceSheets) =
      readText breaks (heading companyName ticker balanceSheets) ++
        (byYear balanceSheets).flatMap sheetStatements := by
  have sections (opened : Option Int) (sheets : List BalanceSheet) :
      readLines opened (sheets.flatMap fun sheet =>
        (sheetLines sheet).flatMap fun line => breaks.lines line.toList) =
          sheets.flatMap sheetStatements := by
    induction sheets generalizing opened with
    | nil => rfl
    | cons sheet sheets ih => rw [List.flatMap_cons, readLines_sheet, ih, List.flatMap_cons]
  rw [readText, lines_buildGroundingContext, readLines_append, sections]
  rfl

/-- Between two line breaks the text has a line that opens a year. -/
def OpensYear (breaks : LineBreaks) (text : String) : Prop :=
  ∃ line ∈ breaks.innerLines text.toList, opensYear line ≠ none

instance (breaks : LineBreaks) (text : String) : Decidable (OpensYear breaks text) :=
  inferInstanceAs (Decidable (∃ line ∈ breaks.innerLines text.toList, opensYear line ≠ none))

theorem not_opensYear_of_mem {line : List Char} {char : Char} (member : char ∈ line)
    (foreign : char ∉ "Fiscal year :-".toList) (noDigit : char.isDigit = false) :
    ¬opensYear line ≠ none := by
  intro opens
  obtain ⟨year, isYear⟩ := Option.ne_none_iff_exists'.mp opens
  cases opensYear_alphabet isYear char member with
  | inl known => exact foreign known
  | inr digit => exact Bool.false_ne_true (noDigit.symm.trans digit)

/-- A line of the first paragraph that opens a year is a line of the name or
of the ticker. -/
theorem heading_opens_iff (breaks : LineBreaks) (companyName ticker : String)
    (balanceSheets : List BalanceSheet) :
    (∃ line ∈ breaks.lines (heading companyName ticker balanceSheets).toList,
        opensYear line ≠ none) ↔ OpensYear breaks companyName ∨ OpensYear breaks ticker := by
  have framed {opening closing : String} (plainOpening : LineBreaks.Plain opening.toList)
      (plainClosing : LineBreaks.Plain closing.toList)
      (opened : ∃ char ∈ opening.toList, char ∉ "Fiscal year :-".toList ∧ char.isDigit = false)
      (closed : ')' ∈ closing.toList) :
      (∃ line ∈ breaks.lines (opening ++ companyName ++ " (" ++ (ticker ++ closing)).toList,
        opensYear line ≠ none) ↔ OpensYear breaks companyName ∨ OpensYear breaks ticker := by
    obtain ⟨char, inOpening, foreign, noDigit⟩ := opened
    have plainMiddle : LineBreaks.Plain " (".toList := by decide
    have parenthesis : '(' ∈ " (".toList ∧ '(' ∉ "Fiscal year :-".toList := by decide
    simp only [String.toList_append]
    rw [LineBreaks.exists_lines_framed plainOpening plainMiddle plainClosing
      (fun rest => not_opensYear_of_mem (List.mem_append_left rest inOpening) foreign noDigit)
      (fun rest => not_opensYear_of_mem (List.mem_append_right rest closed) (by decide) rfl)
      (fun left right => not_opensYear_of_mem
        (List.mem_append_left right (List.mem_append_right left parenthesis.1)) parenthesis.2 rfl)]
    simp only [List.mem_append, or_and_right, exists_or, OpensYear]
  unfold heading
  split
  · have text : nothingOnFile companyName ticker =
        "No balance sheet data is currently on file for " ++ companyName ++ " (" ++
          (ticker ++ ").") := by
      unfold nothingOnFile
      simp only [toString_string, String.append_assoc]
    rw [text]
    exact framed (by decide) (by decide) ⟨'N', by decide⟩ (by decide)
  · have text : s!"Balance sheet figures for {companyName} ({ticker}), in reporting currency:" =
        "Balance sheet figures for " ++ companyName ++ " (" ++
          (ticker ++ "), in reporting currency:") := by
      simp [toString_string, String.append_assoc]
    rw [text]
    exact framed (by decide) (by decide) ⟨'B', by decide⟩ (by decide)

section Heading
variable {breaks : LineBreaks} {companyName ticker : String} (balanceSheets : List BalanceSheet)

theorem readText_heading_clean (clean : ¬(OpensYear breaks companyName ∨ OpensYear breaks ticker)) :
    readText breaks (heading companyName ticker balanceSheets) = [] := by
  apply readLines_unopened
  intro line member
  by_contra isOpen
  exact clean
    ((heading_opens_iff breaks companyName ticker balanceSheets).mp ⟨line, member, isOpen⟩)

theorem readText_heading_opens (imitated : OpensYear breaks companyName ∨ OpensYear breaks ticker) :
    ∃ year, .opens year ∈ readText breaks (heading companyName ticker balanceSheets) := by
  obtain ⟨line, member, isOpen⟩ :=
    (heading_opens_iff breaks companyName ticker balanceSheets).mpr imitated
  obtain ⟨year, isYear⟩ := Option.ne_none_iff_exists'.mp isOpen
  exact ⟨year, mem_readLines_opens.mpr ⟨line, member, isYear⟩⟩

end Heading

/-! What a text of sheets states, and what it should state. -/

/-- Exactly the figures on file, each once and rounded to an integer, in
sections of exactly the years of the sheets. -/
structure StatesStored (balanceSheets : List BalanceSheet) (statements : List Statement) :
    Prop where
  complete : ∀ sheet ∈ balanceSheets, ∀ field ∈ KEY_METRICS, ∀ figure,
    sheet.figures.lookup field = some figure →
      ∃ value, figure.rounded = some value ∧
        .states sheet.year (metricLabel field) value ∈ statements
  sound : ∀ year metric value, .states year metric value ∈ statements →
    ∃ sheet ∈ balanceSheets, sheet.year = year ∧ ∃ field ∈ KEY_METRICS,
      metricLabel field = metric ∧ ∃ figure, sheet.figures.lookup field = some figure ∧
        figure.rounded = some value
  opened : ∀ year, .opens year ∈ statements ↔ ∃ sheet ∈ balanceSheets, sheet.year = year
  once : statements.Nodup

instance (figure : Figure) : Decidable figure.Finite :=
  inferInstanceAs (Decidable (isnan figure = false ∧ isinf figure = false))

/-- Every figure of the metrics put before the model is a number. -/
def FiniteMetrics (balanceSheets : List BalanceSheet) : Prop :=
  ∀ sheet ∈ balanceSheets, ∀ field ∈ KEY_METRICS, ∀ figure,
    sheet.figures.lookup field = some figure → figure.Finite

theorem finiteMetrics_of_figures {balanceSheets : List BalanceSheet}
    (finite : ∀ sheet ∈ balanceSheets, ∀ entry ∈ sheet.figures, entry.2.Finite) :
    FiniteMetrics balanceSheets := by
  intro sheet member field _ figure found
  obtain ⟨before, after, split, _⟩ := List.lookup_eq_some_iff.mp found
  apply finite sheet member (field, figure)
  rw [split]
  exact List.mem_append_right _ List.mem_cons_self

theorem Figure.rounded_isSome_iff (figure : Figure) :
    (∃ value, figure.rounded = some value) ↔ figure.Finite := by
  cases figure <;> simp [Figure.rounded, Figure.Finite, isnan, isinf]

def Statement.year : Statement → Int
  | .opens year => year
  | .states year _ _ => year

section Stated
variable {balanceSheets : List BalanceSheet}

theorem mem_byYear {sheet : BalanceSheet} : sheet ∈ byYear balanceSheets ↔ sheet ∈ balanceSheets :=
  (List.mergeSort_perm _ _).mem_iff

theorem figureStatement_iff {sheet : BalanceSheet} {field : String} {statement : Statement} :
    figureStatement sheet field = some statement ↔ ∃ figure value,
      sheet.figures.lookup field = some figure ∧ figure.rounded = some value ∧
        statement = .states sheet.year (metricLabel field) value := by
  simp only [figureStatement, Option.bind_eq_some_iff, Option.map_eq_some_iff]
  constructor
  · rintro ⟨figure, found, value, rounded, rfl⟩
    exact ⟨figure, value, found, rounded, rfl⟩
  · rintro ⟨figure, value, found, rounded, rfl⟩
    exact ⟨figure, found, value, rounded, rfl⟩

theorem mem_sheetStatements {sheet : BalanceSheet} {statement : Statement} :
    statement ∈ sheetStatements sheet ↔ statement = .opens sheet.year ∨
      ∃ field ∈ KEY_METRICS, figureStatement sheet field = some statement := by
  rw [sheetStatements, List.mem_cons, List.mem_filterMap]

theorem sheetStatements_year {sheet : BalanceSheet} {statement : Statement}
    (member : statement ∈ sheetStatements sheet) : statement.year = sheet.year := by
  cases mem_sheetStatements.mp member with
  | inl opens => rw [opens, Statement.year]
  | inr states =>
      obtain ⟨field, _, isStatement⟩ := states
      obtain ⟨figure, value, _, _, rfl⟩ := figureStatement_iff.mp isStatement
      rfl

theorem sheetStatements_nodup (sheet : BalanceSheet) : (sheetStatements sheet).Nodup := by
  have keys : KEY_METRICS.Nodup := by decide
  refine List.nodup_cons.mpr ⟨?_, ?_⟩
  · intro member
    obtain ⟨field, _, isStatement⟩ := List.mem_filterMap.mp member
    obtain ⟨figure, value, _, _, impossible⟩ := figureStatement_iff.mp isStatement
    cases impossible
  · apply List.pairwise_filterMap.mpr
    apply keys.imp_of_mem
    intro first second firstKey secondKey differ left isLeft right isRight same
    obtain ⟨_, _, _, _, rfl⟩ := figureStatement_iff.mp isLeft
    obtain ⟨_, _, _, _, rfl⟩ := figureStatement_iff.mp isRight
    have sameLabel : metricLabel first = metricLabel second := (Statement.states.inj same).2.1
    exact differ (metricLabel_injective firstKey secondKey sameLabel)

theorem mem_sections {statement : Statement} :
    statement ∈ (byYear balanceSheets).flatMap sheetStatements ↔
      ∃ sheet ∈ balanceSheets, statement ∈ sheetStatements sheet := by
  simp only [List.mem_flatMap, mem_byYear]

theorem sections_nodup (distinct : (balanceSheets.map BalanceSheet.year).Nodup) :
    ((byYear balanceSheets).flatMap sheetStatements).Nodup := by
  have sameYears : ((byYear balanceSheets).map BalanceSheet.year).Perm
      (balanceSheets.map BalanceSheet.year) := (List.mergeSort_perm _ _).map _
  have apart : (byYear balanceSheets).Pairwise fun first second => first.year ≠ second.year :=
    List.pairwise_map.mp (sameYears.nodup_iff.mpr distinct)
  rw [List.nodup_flatMap]
  refine ⟨fun sheet _ => sheetStatements_nodup sheet, apart.imp ?_⟩
  intro first second differ statement inFirst inSecond
  exact differ ((sheetStatements_year inFirst).symm.trans (sheetStatements_year inSecond))

theorem mem_sections_opens {year : Int} :
    .opens year ∈ (byYear balanceSheets).flatMap sheetStatements ↔
      ∃ sheet ∈ balanceSheets, sheet.year = year := by
  rw [mem_sections]
  apply exists_congr
  intro sheet
  apply and_congr_right
  intro _
  constructor
  · intro member
    exact (sheetStatements_year member).symm
  · rintro rfl
    exact List.mem_cons_self

theorem statesStored_sections (distinct : (balanceSheets.map BalanceSheet.year).Nodup)
    (finite : FiniteMetrics balanceSheets) :
    StatesStored balanceSheets ((byYear balanceSheets).flatMap sheetStatements) where
  complete := by
    intro sheet member field key figure found
    obtain ⟨value, rounded⟩ :=
      figure.rounded_isSome_iff.mpr (finite sheet member field key figure found)
    have states := figureStatement_iff.mpr ⟨figure, value, found, rounded, rfl⟩
    exact ⟨value, rounded, mem_sections.mpr
      ⟨sheet, member, mem_sheetStatements.mpr (.inr ⟨field, key, states⟩)⟩⟩
  sound := by
    intro year metric value member
    obtain ⟨sheet, inside, stated⟩ := mem_sections.mp member
    cases mem_sheetStatements.mp stated with
    | inl opens => cases opens
    | inr states =>
        obtain ⟨field, key, isStatement⟩ := states
        obtain ⟨figure, rounded, found, isRounded, same⟩ := figureStatement_iff.mp isStatement
        obtain ⟨isYear, isMetric, rfl⟩ := Statement.states.inj same
        exact ⟨sheet, inside, isYear.symm, field, key, isMetric.symm, figure, found, isRounded⟩
  opened := fun _ => mem_sections_opens
  once := sections_nodup distinct

end Stated

/-- The text states the stored figures and no others exactly when neither the
name nor the ticker has a line that opens a year and every figure is finite. -/
theorem statesStored_iff (breaks : LineBreaks) (company : CompanyCreate)
    {balanceSheets : List BalanceSheet} (distinct : (balanceSheets.map BalanceSheet.year).Nodup) :
    StatesStored balanceSheets (readText breaks
        (buildGroundingContext company.name company.ticker balanceSheets)) ↔
      ¬OpensYear breaks company.name ∧ ¬OpensYear breaks company.ticker ∧
        FiniteMetrics balanceSheets := by
  rw [readText_buildGroundingContext, ← and_assoc, ← not_or]
  constructor
  · intro stored
    refine ⟨?_, ?_⟩
    · intro imitated
      obtain ⟨year, inHeading⟩ := readText_heading_opens balanceSheets imitated
      have onFile := (stored.opened year).mp (List.mem_append_left _ inHeading)
      exact List.disjoint_of_nodup_append stored.once inHeading (mem_sections_opens.mpr onFile)
    · intro sheet member field key figure found
      obtain ⟨value, rounded, _⟩ := stored.complete sheet member field key figure found
      exact figure.rounded_isSome_iff.mp ⟨value, rounded⟩
  · rintro ⟨clean, finite⟩
    rw [readText_heading_clean balanceSheets clean, List.nil_append]
    exact statesStored_sections distinct finite

def twoYears : List BalanceSheet :=
  [⟨2, 1, 2024, [("total_debt", .finite 1234567)]⟩,
    ⟨1, 1, 2023, [("net_debt", .finite (-5 / 2)), ("inventory", .negativeZero)]⟩]

theorem statesStored_twoYears :
    StatesStored twoYears (readText .splitlines
      (buildGroundingContext (jioPlatforms none).name (jioPlatforms none).ticker twoYears)) := by
  have distinct : (twoYears.map BalanceSheet.year).Nodup := by decide
  have finite : FiniteMetrics twoYears := by
    apply finiteMetrics_of_figures
    decide
  exact (statesStored_iff .splitlines (jioPlatforms none) distinct).mpr
    ⟨by decide, by decide, finite⟩

/-- A line of this name opens the fiscal year 2024, and the next states a debt. -/
def imitation : CompanyCreate where
  name := ⟨"X\nFiscal year 2024:\n  - total debt: 5\n", by decide⟩
  ticker := ⟨"X", by decide⟩
  parentCompanyId := none

theorem imitation_statesStored :
    ¬∀ (company : CompanyCreate) (balanceSheets : List BalanceSheet),
      (balanceSheets.map BalanceSheet.year).Nodup →
        StatesStored balanceSheets (readText .newlineOnly
          (buildGroundingContext company.name company.ticker balanceSheets)) := by
  intro always
  have stored := always imitation [] List.nodup_nil
  have stated : .states 2024 "total debt" 5 ∈ readText .newlineOnly
      (buildGroundingContext imitation.name imitation.ticker []) := by
    decide
  obtain ⟨sheet, member, _⟩ := stored.sound _ _ _ stated
  cases member

end BalanceSheetAnalysis
