import BalanceSheetAnalysis.Access.Documented
import Mathlib.Data.List.Infix

/-! The search text of the list endpoint.  It goes into an ILIKE pattern as it
is, so a percent sign, an underscore or a backslash in it is read as part of the
pattern language. -/
namespace BalanceSheetAnalysis
open Library Access BalanceSheetAnalysis.Action

/-- The text has the needle as a contiguous part, up to characters that are the
same. -/
def Occurs (same : Char → Char → Bool) (needle text : List Char) : Prop :=
  ∃ before middle after, text = before ++ middle ++ after ∧
    List.Forall₂ (fun sought char => same sought char = true) needle middle

/-- Not read specially by ILIKE. -/
def Literal (char : Char) : Prop := char ≠ '%' ∧ char ≠ '_' ∧ char ≠ '\\'

instance (char : Char) : Decidable (Literal char) := inferInstanceAs (Decidable (_ ∧ _))

/-- Every character is the same as itself, and those without case, NUL among them,
are the same as no other. -/
structure Collation.IgnoresCase (collation : Collation) : Prop where
  refl : ∀ char, collation.sameIgnoringCase char char = true
  caseless : ∀ special, ¬Literal special ∨ special = Char.ofNat 0 → ∀ char,
    collation.sameIgnoringCase special char = true → char = special

section Like
variable {same : Char → Char → Bool}

theorem like_percent {pattern text : List Char} : like same ('%' :: pattern) text = true ↔
    ∃ before after, text = before ++ after ∧ like same pattern after = true := by
  simp only [like, List.any_eq_true, List.mem_tails]
  constructor
  · rintro ⟨after, ⟨before, rfl⟩, matches_⟩
    exact ⟨before, after, rfl, matches_⟩
  · rintro ⟨before, after, rfl, matches_⟩
    exact ⟨after, ⟨before, rfl⟩, matches_⟩

theorem like_literal {literal : Char} (isLiteral : Literal literal) (pattern text : List Char) :
    like same (literal :: pattern) text = true ↔
      ∃ char rest, text = char :: rest ∧ same literal char = true ∧
        like same pattern rest = true := by
  obtain ⟨noPercent, noUnderscore, noBackslash⟩ := isLiteral
  cases text with
  | nil => simp [like, noBackslash]
  | cons char rest => simp [like, noBackslash]

/-- A pattern of literal characters matches a prefix character by character. -/
theorem like_literals {literals : List Char} (isLiteral : ∀ char ∈ literals, Literal char)
    (pattern text : List Char) : like same (literals ++ pattern) text = true ↔
      ∃ middle after, text = middle ++ after ∧
        List.Forall₂ (fun sought char => same sought char = true) literals middle ∧
        like same pattern after = true := by
  induction literals generalizing text with
  | nil => simp
  | cons literal literals ih =>
      rw [List.forall_mem_cons] at isLiteral
      rw [List.cons_append, like_literal isLiteral.1]
      simp only [ih isLiteral.2]
      constructor
      · rintro ⟨char, _, rfl, isSame, middle, after, rfl, pairs, matches_⟩
        exact ⟨char :: middle, after, rfl, .cons isSame pairs, matches_⟩
      · rintro ⟨_, after, rfl, pairs, matches_⟩
        obtain _ | @⟨_, char, _, middle, isSame, pairs⟩ := pairs
        exact ⟨char, _, rfl, isSame, middle, after, rfl, pairs, matches_⟩

theorem like_anything (text : List Char) : like same ['%'] text = true := by
  rw [like_percent]
  exact ⟨text, [], (List.append_nil text).symm, rfl⟩

/-- The wildcards match themselves too; a backslash does not. -/
theorem like_self (refl : ∀ char, same char char = true) {text : List Char}
    (noBackslash : '\\' ∉ text) : like same (text ++ ['%']) text = true := by
  induction text with
  | nil => exact like_anything []
  | cons char text ih =>
      rw [List.mem_cons, not_or] at noBackslash
      have rest := ih noBackslash.2
      by_cases percent : char = '%'
      · subst percent
        rw [List.cons_append, like_percent]
        exact ⟨['%'], text, rfl, rest⟩
      by_cases underscore : char = '_'
      · subst underscore
        simpa [like] using rest
      · rw [List.cons_append, like_literal ⟨percent, underscore, Ne.symm noBackslash.1⟩]
        exact ⟨char, text, rfl, refl char, rest⟩

/-- A literal search text between percent signs matches where it occurs. -/
theorem like_search {literals : List Char} (isLiteral : ∀ char ∈ literals, Literal char)
    (text : List Char) :
    like same ('%' :: (literals ++ ['%'])) text = true ↔ Occurs same literals text := by
  simp only [like_percent, like_literals isLiteral, like_anything, and_true, Occurs]
  constructor
  · rintro ⟨before, _, rfl, middle, after, rfl, pairs⟩
    exact ⟨before, middle, after, (List.append_assoc ..).symm, pairs⟩
  · rintro ⟨before, middle, after, rfl, pairs⟩
    exact ⟨before, middle ++ after, List.append_assoc .., middle, after, rfl, pairs⟩

/-- A text the pattern matches, with other characters in the place of the
special ones; the backslash at the end escapes the percent sign put after it. -/
def lookalike : List Char → List Char
  | [] => []
  | '%' :: pattern => 'a' :: lookalike pattern
  | '_' :: pattern => 'a' :: lookalike pattern
  | ['\\'] => ['%']
  | '\\' :: literal :: pattern => literal :: lookalike pattern
  | literal :: pattern => literal :: lookalike pattern

theorem literal_of_lookalike {literal : Char} {pattern : List Char} (noPercent : literal ≠ '%')
    (noUnderscore : literal ≠ '_') (noTrailing : literal = '\\' → pattern ≠ [])
    (noBackslash : ∀ next rest, literal = '\\' → pattern ≠ next :: rest) : Literal literal := by
  refine ⟨noPercent, noUnderscore, fun isBackslash => ?_⟩
  cases pattern with
  | nil => exact noTrailing isBackslash rfl
  | cons next rest => exact noBackslash next rest isBackslash rfl

theorem like_lookalike (refl : ∀ char, same char char = true) (pattern : List Char) :
    like same (pattern ++ ['%']) (lookalike pattern) = true := by
  induction pattern using lookalike.induct with
  | case1 => exact like_anything []
  | case2 pattern ih =>
      rw [List.cons_append, like_percent]
      exact ⟨['a'], lookalike pattern, rfl, ih⟩
  | case3 pattern ih => simpa [like, lookalike] using ih
  | case4 => simp [like, lookalike, refl]
  | case5 literal pattern ih => simpa [like, lookalike, refl] using ih
  | case6 literal pattern noPercent noUnderscore noTrailing noBackslash ih =>
      have isLiteral := literal_of_lookalike noPercent noUnderscore noTrailing noBackslash
      rw [List.cons_append, like_literal isLiteral]
      refine ⟨literal, lookalike pattern, ?_, refl literal, ih⟩
      simp [lookalike]

theorem length_lookalike (pattern : List Char) : (lookalike pattern).length ≤ pattern.length := by
  induction pattern using lookalike.induct with
  | case6 literal pattern noPercent noUnderscore noTrailing noBackslash ih =>
      rw [lookalike] <;> first | assumption | (simp only [List.length_cons]; omega)
  | _ => simp only [lookalike, List.length_cons, List.length_nil]; omega

/-- A text no longer than the needle has it as a part only if it is the needle. -/
theorem Occurs.pairs {needle text : List Char} (occurs : Occurs same needle text)
    (short : text.length ≤ needle.length) :
    List.Forall₂ (fun sought char => same sought char = true) needle text := by
  obtain ⟨before, middle, after, rfl, pairs⟩ := occurs
  have sameLength := pairs.length_eq
  simp only [List.length_append] at short
  have noBefore : before = [] := List.length_eq_zero_iff.mp (by omega)
  have noAfter : after = [] := List.length_eq_zero_iff.mp (by omega)
  simpa [noBefore, noAfter] using pairs

/-- Where a special character stands the two texts differ, or an escape has made
one of them shorter. -/
theorem not_pairs_lookalike
    (caseless : ∀ special, ¬Literal special → ∀ char, same special char = true → char = special)
    {pattern : List Char} (special : ∃ char ∈ pattern, ¬Literal char) :
    ¬List.Forall₂ (fun sought char => same sought char = true) pattern (lookalike pattern) := by
  induction pattern using lookalike.induct with
  | case1 => simp at special
  | case2 pattern ih =>
      rintro (_ | ⟨isSame, _⟩)
      exact absurd (caseless '%' (by decide) 'a' isSame) (by decide)
  | case3 pattern ih =>
      rintro (_ | ⟨isSame, _⟩)
      exact absurd (caseless '_' (by decide) 'a' isSame) (by decide)
  | case4 =>
      rintro (_ | ⟨isSame, _⟩)
      exact absurd (caseless '\\' (by decide) '%' isSame) (by decide)
  | case5 literal pattern ih =>
      intro pairs
      have sameLength := pairs.length_eq
      have short := length_lookalike pattern
      simp only [lookalike, List.length_cons] at sameLength
      omega
  | case6 literal pattern noPercent noUnderscore noTrailing noBackslash ih =>
      have isLiteral := literal_of_lookalike noPercent noUnderscore noTrailing noBackslash
      obtain ⟨char, member, isSpecial⟩ := special
      have inside : char ∈ pattern :=
        (List.mem_cons.mp member).resolve_left fun same => isSpecial (same ▸ isLiteral)
      intro pairs
      rw [lookalike] at pairs <;> try assumption
      cases pairs with
      | cons _ rest => exact ih ⟨char, inside, isSpecial⟩ rest

theorem mem_lookalike {pattern : List Char} {char : Char} (member : char ∈ lookalike pattern) :
    char = 'a' ∨ char = '%' ∨ char ∈ pattern := by
  induction pattern using lookalike.induct <;> simp_all [lookalike] <;> tauto

/-- A character without case is found only where it stands. -/
theorem Occurs.mem {needle text : List Char} (occurs : Occurs same needle text) {char : Char}
    (member : char ∈ needle) : ∃ found ∈ text, same char found = true := by
  obtain ⟨before, middle, after, rfl, pairs⟩ := occurs
  suffices inMiddle : ∃ found ∈ middle, same char found = true by
    obtain ⟨found, inside, isSame⟩ := inMiddle
    exact ⟨found, by simp [inside], isSame⟩
  induction pairs with
  | nil => cases member
  | cons isSame _ ih =>
      rcases List.mem_cons.mp member with rfl | later
      · exact ⟨_, List.mem_cons_self, isSame⟩
      · obtain ⟨found, inside, isSame⟩ := ih later
        exact ⟨found, List.mem_cons_of_mem _ inside, isSame⟩

end Like

section Search
variable {collation : Collation}

/-- The company is on some page of the list. -/
def Found (collation : Collation) (scope : CompanyScope) (db : Database) (store : Store)
    (params : ListParams) (company : Company) : Prop :=
  ∃ number rows parentName,
    pageAt collation scope params db store number = some (.ok rows) ∧ (company, parentName) ∈ rows

/-- The pages of any size together list the rows that pass the filters, if the
query is answered. -/
theorem found_iff {scope : CompanyScope} {db : Database} {store : Store} {params : ListParams}
    (few : store.companies.length ≤ 2 ^ 32) (positive : 0 < params.limit)
    (fits : FitsBigint params.limit) {company : Company} :
    Found collation scope db store params company ↔
      Answerable scope params.search ∧
        company ∈ applyScopeAndFilters collation scope params.search params.hierarchyScope
          store.companies := by
  rw [← mem_orderedRows]
  constructor
  · rintro ⟨number, rows, parentName, answered, member⟩
    obtain ⟨sends, rfl⟩ := pageAt_eq_ok.mp answered
    exact ⟨sends.imp_right And.left, parentName,
      List.mem_of_mem_drop (List.mem_of_mem_take member)⟩
  · rintro ⟨answerable, parentName, member⟩
    have walk : Paging.Walk (fun number rows => pageAt collation scope params db store number =
        some (.ok rows)) 0 (orderedRows collation scope params store.companies) :=
      (walk_pages_iff few positive fits).mpr ⟨answerable, rfl⟩
    obtain ⟨number, rows, answered, inside⟩ := walk.mem_page member
    exact ⟨number, rows, parentName, answered, inside⟩

theorem searchFilter_eq (collation : Collation) {search : String} (nonempty : search ≠ "")
    (company : Company) :
    searchFilter collation (some search) company = true ↔
      like collation.sameIgnoringCase ('%' :: (search.toList ++ ['%'])) company.name.toList = true ∨
        like collation.sameIgnoringCase ('%' :: (search.toList ++ ['%']))
          company.ticker.toList = true := by
  have pattern : s!"%{search}%".toList = '%' :: (search.toList ++ ['%']) := by
    show ("%" ++ search ++ "%").toList = _
    simp
  unfold searchFilter Collation.ilike
  simp [nonempty, pattern]

/-- A search with a NUL finds nothing, and no column has one. -/
theorem not_occurs_of_unfit (ignores : collation.IgnoresCase) {search text : String}
    (unfit : ¬FitsText search) (fits : FitsText text) :
    ¬Occurs collation.sameIgnoringCase search.toList text.toList := by
  intro occurs
  obtain ⟨found, inside, isSame⟩ := occurs.mem (not_not.mp unfit)
  rw [ignores.caseless _ (.inr rfl) found isSame] at inside
  exact fits inside

/-- What a page of a search may be asked of: rows within the constraints and the
columns, a scope whose ids fit, and a page size. -/
structure Searchable (scope : CompanyScope) (store : Store) (limit : Nat) : Prop where
  kept : Store.CompanyConstraints store.companies
  columns : Store.CompanyColumns store.companies
  scope : ScopeFits scope
  positive : 0 < limit
  fits : FitsBigint limit

theorem found_iff_occurs (ignores : collation.IgnoresCase) {search : String}
    (nonempty : search ≠ "") (condition : (∀ char ∈ search.toList, Literal char) ∨ ¬FitsText search)
    {scope : CompanyScope} {db : Database} {store : Store} {limit : Nat} {sortBy : Option String}
    {sortDir : String} (searchable : Searchable scope store limit) {company : Company}
    (member : company ∈ store.companies)
    (admitted : scope.admits company.id company.groupRootId = true) :
    Found collation scope db store ⟨limit, 0, some search, none, sortBy, sortDir⟩ company ↔
      Occurs collation.sameIgnoringCase search.toList company.name.toList ∨
        Occurs collation.sameIgnoringCase search.toList company.ticker.toList := by
  rw [found_iff (searchable.columns.few searchable.kept.keys) searchable.positive searchable.fits]
  by_cases fits : FitsText search
  · have isLiteral := condition.resolve_right (not_not.mpr fits)
    have answerable : Answerable scope (some search) := .inr ⟨searchable.scope, fits⟩
    simp [answerable, applyScopeAndFilters, hierarchyFilter, member, admitted,
      searchFilter_eq collation nonempty, like_search isLiteral]
  · have asked : scope.isEmpty = false := by
      by_contra empty
      rw [isEmpty_admits (eq_true_of_ne_false empty)] at admitted
      cases admitted
    have unanswered : ¬Answerable scope (some search) := by
      rintro (empty | ⟨_, sends⟩)
      · rw [asked] at empty
        cases empty
      · exact fits sends
    refine iff_of_false (fun found => unanswered found.1) ?_
    rintro (inName | inTicker)
    · exact not_occurs_of_unfit ignores fits (searchable.columns.names company member) inName
    · exact not_occurs_of_unfit ignores fits (searchable.columns.tickers company member) inTicker

/-! A table of one root, which every caller in question may see. -/

theorem searchable_single {company : Company} (isTop : company.parentCompanyId = none)
    (columns : Store.CompanyColumns [company]) {limit : Nat} (positive : 0 < limit)
    (fits : FitsBigint limit) :
    Searchable ⟨true, [], []⟩ { Store.empty with companies := [company] } limit := by
  refine ⟨⟨List.nodup_singleton _, List.nodup_singleton _, ?_⟩, columns, .inl rfl, positive, fits⟩
  simp [isTop]

theorem found_single {search : String} (sends : FitsText search) {company : Company}
    (matched : searchFilter collation (some search) company = true) (db : Database) {limit : Nat}
    (positive : 0 < limit) (fits : FitsBigint limit) (sortBy : Option String) (sortDir : String) :
    Found collation ⟨true, [], []⟩ db { Store.empty with companies := [company] }
      ⟨limit, 0, some search, none, sortBy, sortDir⟩ company := by
  have few : [company].length ≤ 2 ^ 32 := Nat.one_le_two_pow
  refine (found_iff few positive fits).mpr ⟨.inr ⟨.inl rfl, sends⟩, ?_⟩
  simp [applyScopeAndFilters, CompanyScope.admits, hierarchyFilter, matched]

theorem fitsText_lookalike {search : String} (fits : FitsText search) :
    FitsText (String.ofList (lookalike search.toList)) := by
  intro member
  rw [String.toList_ofList] at member
  rcases mem_lookalike member with isLetter | isPercent | inside
  · exact absurd isLetter (by decide)
  · exact absurd isPercent (by decide)
  · exact fits inside

/-- The search is the documented substring match, on every company in scope,
exactly when its text has no percent sign, underscore or backslash, or has a NUL
and so is answered with nothing. -/
theorem search_substring_iff (ignores : collation.IgnoresCase) (search : String)
    (nonempty : search ≠ "") :
    (∀ (scope : CompanyScope) (db : Database) (store : Store) (limit : Nat)
        (sortBy : Option String) (sortDir : String), Searchable scope store limit →
      ∀ company ∈ store.companies, scope.admits company.id company.groupRootId = true →
        (Found collation scope db store ⟨limit, 0, some search, none, sortBy, sortDir⟩ company ↔
          Occurs collation.sameIgnoringCase search.toList company.name.toList ∨
            Occurs collation.sameIgnoringCase search.toList company.ticker.toList)) ↔
      (∀ char ∈ search.toList, Literal char) ∨ ¬FitsText search := by
  constructor
  · intro agrees
    by_contra neither
    rw [not_or, not_not] at neither
    obtain ⟨notLiteral, fits⟩ := neither
    -- Of the texts that the pattern matches, one without its special characters.
    let text := String.ofList (lookalike search.toList)
    have isText : text.toList = lookalike search.toList := String.toList_ofList
    have textFits : FitsText text := fitsText_lookalike fits
    let company : Company := ⟨1, text, text, none, 1, 0⟩
    have columns : Store.CompanyColumns [company] := by
      constructor <;> simp [company, textFits, FitsInteger]
    have matched : searchFilter collation (some search) company = true := by
      refine (searchFilter_eq collation nonempty company).mpr (.inl ?_)
      rw [like_percent, isText]
      exact ⟨[], _, rfl, like_lookalike ignores.refl search.toList⟩
    have one : FitsBigint 1 := by decide
    have found := found_single fits matched Database.counting Nat.one_pos one none "asc"
    have occurs := (agrees ⟨true, [], []⟩ Database.counting _ 1 none "asc"
      (searchable_single rfl columns Nat.one_pos one) company (List.mem_singleton_self _) rfl).mp
      found
    have sameText : Occurs collation.sameIgnoringCase search.toList text.toList :=
      occurs.elim id id
    rw [isText] at sameText
    refine not_pairs_lookalike (fun special isSpecial => ignores.caseless special (.inl isSpecial))
      ?_ (sameText.pairs (length_lookalike _))
    push Not at notLiteral
    exact notLiteral
  · intro condition scope db store limit sortBy sortDir searchable company member admitted
    exact found_iff_occurs ignores nonempty condition searchable member admitted

end Search

/-! Searching two groups of companies for an underscore. -/

theorem toLower_letter {char : Char} (changed : char.toLower ≠ char) :
    97 ≤ char.toLower.val.toNat ∧ char.toLower.val.toNat ≤ 122 := by
  by_cases upper : char.val ≥ 'A'.val ∧ char.val ≤ 'Z'.val
  · have low : 65 ≤ char.val.toNat := UInt32.le_iff_toNat_le.mp upper.1
    have high : char.val.toNat ≤ 90 := UInt32.le_iff_toNat_le.mp upper.2
    have shifted : char.toLower.val = char.val + 32 := congrArg Char.val (dif_pos upper)
    have noWrap : char.toLower.val.toNat = char.val.toNat + 32 := by
      rw [shifted, UInt32.toNat_add, show (32 : UInt32).toNat = 32 from rfl]
      omega
    omega
  · exact absurd (dif_neg upper) changed

/-- No letter is taken for a character that is none. -/
theorem toLower_eq_iff_of_not_letter {special char : Char}
    (notLetter : ¬(97 ≤ special.val.toNat ∧ special.val.toNat ≤ 122))
    (isLower : special = char.toLower) : char = special := by
  by_contra other
  have changed : char.toLower ≠ char := fun same => other (same.symm.trans isLower.symm)
  have letter := toLower_letter changed
  rw [← isLower] at letter
  exact notLetter letter

theorem asciiOrder_ignoresCase : asciiOrder.IgnoresCase where
  refl := by simp [asciiOrder]
  caseless := by
    intro special isSpecial char same
    have isLower : special.toLower = char.toLower := by simpa [asciiOrder] using same
    simp only [Literal, not_and_or, not_not] at isSpecial
    rcases isSpecial with (rfl | rfl | rfl) | rfl <;>
      exact toLower_eq_iff_of_not_letter (by decide) isLower

theorem search_substring_iff_jio :
    (∀ (scope : CompanyScope) (db : Database) (store : Store) (limit : Nat)
        (sortBy : Option String) (sortDir : String), Searchable scope store limit →
      ∀ company ∈ store.companies, scope.admits company.id company.groupRootId = true →
        (Found asciiOrder scope db store ⟨limit, 0, some "jio", none, sortBy, sortDir⟩ company ↔
          Occurs asciiOrder.sameIgnoringCase "jio".toList company.name.toList ∨
            Occurs asciiOrder.sameIgnoringCase "jio".toList company.ticker.toList)) ↔
      (∀ char ∈ "jio".toList, Literal char) ∨ ¬FitsText "jio" :=
  search_substring_iff asciiOrder_ignoresCase "jio" (by decide)

/-- An underscore finds every company, and none has one in its name or ticker. -/
theorem search_underscore :
    ¬∀ search, search ≠ "" → ∀ (scope : CompanyScope) (store : Store),
      Searchable scope store 1000 →
      ∀ company ∈ store.companies, scope.admits company.id company.groupRootId = true →
        (Found asciiOrder scope Database.counting store ⟨1000, 0, some search, none, none, "asc"⟩
            company ↔
          Occurs asciiOrder.sameIgnoringCase search.toList company.name.toList ∨
            Occurs asciiOrder.sameIgnoringCase search.toList company.ticker.toList) := by
  intro always
  let company : Company := ⟨1, "Jio Platforms", "JIO", none, 1, 0⟩
  have columns : Store.CompanyColumns [company] := ⟨by decide, by decide, by decide, by decide⟩
  have positive : 0 < 1000 := by decide
  have fits : FitsBigint 1000 := by decide
  have matched : searchFilter asciiOrder (some "_") company = true := by decide
  have found := found_single (by decide : FitsText "_") matched Database.counting positive fits
    none "asc"
  have agrees := always "_" (by decide) ⟨true, [], []⟩ _
    (searchable_single rfl columns positive fits) company (List.mem_singleton_self _) rfl
  have absent {text : List Char} (occurs : Occurs asciiOrder.sameIgnoringCase ['_'] text) :
      text.all (fun char => !asciiOrder.sameIgnoringCase '_' char) = false := by
    obtain ⟨char, member, isSame⟩ := occurs.mem (List.mem_singleton_self _)
    exact List.all_eq_false.mpr ⟨char, member, by simp [isSame]⟩
  cases agrees.mp found with
  | inl inName => exact absurd (absent inName) (by decide)
  | inr inTicker => exact absurd (absent inTicker) (by decide)

end BalanceSheetAnalysis
