import Mathlib.Data.List.Nodup
import Translit.Proofs.Rule.Form

/-
  Lines that more than one rule applies to.

  The keywords of the rules are prefix free, so two rules
  with keywords never apply to the same line.  A constant or
  an assignment is told from the other rules by what follows
  the first name of the line.  Apart from the catch-all, two
  rules can only meet at an assignment.

  Key definitions include:
    * `Text.afterName`
    * `Rule.assignable`

  Main declarations:
    * `Rule.head?_afterName_of_applies_naming`
    * `Rule.head?_afterName_ne_of_applies_keyword`
    * `Rule.eq_of_applies_keyword`
    * `Rule.overlap_cases`
    * `Rule.exists_overlap`
    * `Table.length_filter_applies_le_two`
-/

------------------------------------------------------------
-- Names At The Start Of A Line
------------------------------------------------------------

namespace Translit

namespace Text

/-
  What follows the name at the start of a line and the
  blanks after that name.
-/
def afterName
    (t : Text) : Text :=
  (t.unindented.dropWhile CharClass.name.holds).dropWhile
    isBlank

/- Whether a text starts outside names and blanks. -/
def startsApart
    (t : Text) : Bool :=
  t.head?.all fun c =>
    !CharClass.name.holds c && !isBlank c

theorem dropWhile_of_startsApart
    {t : Text}
    (hApart : t.startsApart) :
    t.dropWhile isBlank = t ∧
      t.dropWhile CharClass.name.holds = t := by
  cases t with
  | nil => exact ⟨rfl, rfl⟩
  | cons c t =>
      simp only [startsApart, List.head?_cons,
        Option.all_some, Bool.and_eq_true,
        Bool.not_eq_true'] at hApart
      constructor
      · exact List.dropWhile_cons_of_neg (by simp [hApart.2])
      · exact List.dropWhile_cons_of_neg (by simp [hApart.1])

/- A gap is not part of the name in front of it. -/
theorem dropWhile_name_of_gap
    {gap rest : Text}
    (hGap : ∀ c ∈ gap, isBlank c)
    (hRest : rest.startsApart) :
    (gap ++ rest).dropWhile CharClass.name.holds =
      gap ++ rest := by
  cases gap with
  | nil => exact (dropWhile_of_startsApart hRest).2
  | cons c gap =>
      have hName : CharClass.name.holds c = false :=
        CharClass.holds_of_isBlank rfl (hGap c (by simp))
      exact List.dropWhile_cons_of_neg (by simp [hName])

/- Indentation, a name and a gap are passed over. -/
theorem afterName_append
    {indent name gap rest : Text}
    (hIndent : ∀ c ∈ indent, isBlank c)
    (hName : ∀ c ∈ name, CharClass.name.holds c)
    (hGap : ∀ c ∈ gap, isBlank c)
    (hRest : rest.startsApart) :
    afterName (indent ++ (name ++ (gap ++ rest))) =
      rest := by
  have hBlanks := (dropWhile_of_startsApart hRest).1
  have hNames := (dropWhile_of_startsApart hRest).2
  rw [afterName, unindented_append _ hIndent]
  cases name with
  | nil =>
      -- Without a name the gap is part of the indentation.
      rw [List.nil_append, unindented_append _ hGap,
        unindented, hBlanks, hNames, hBlanks]
  | cons c name =>
      have hHead : isBlank c = false :=
        CharClass.isBlank_of_holds rfl (hName c (by simp))
      have hSolid :
          unindented (c :: name ++ (gap ++ rest)) =
            c :: name ++ (gap ++ rest) := by
        apply unindented_of_head
        simp [hHead]
      rw [hSolid, List.dropWhile_append_of_pos hName,
        dropWhile_name_of_gap hGap hRest,
        List.dropWhile_append_of_pos hGap, hBlanks]

end Text

end Translit

------------------------------------------------------------
-- Signs After Names
------------------------------------------------------------

namespace Translit

namespace Rule

/- A constant or an assignment has its sign after a name. -/
theorem head?_afterName_of_applies_naming
    {rule : Rule}
    {line : Text}
    (hRule : rule ∈ [Rule.constant, Rule.assignment])
    (hApplies : rule.applies line) :
    line.afterName.head? = some '=' := by
  have hSign :
      ∀ value, Text.startsApart ('=' :: value) := by
    intro value
    rfl
  rcases List.mem_cons.mp hRule with rfl | hRule
  · rcases exists_of_applies_constant hApplies with
      ⟨indent, first, name, gap, value, rfl, hIndent, hName,
        hGap⟩
    rw [Text.afterName_append hIndent
      (fun c hc => CharClass.name_of_capital (hName c hc))
      hGap (hSign value)]
    rfl
  · rcases List.mem_singleton.mp hRule with rfl
    rcases exists_of_applies_assignment hApplies with
      ⟨indent, name, gap, value, rfl, hIndent, hName, hGap⟩
    rw [Text.afterName_append hIndent hName hGap
      (hSign value)]
    rfl

end Rule

namespace Form

/- A keyword can hold a character that ends its name. -/
theorem head?_afterName_of_reads_keyword
    (name : Text)
    (c : Char)
    (tail : Text)
    {steps : Pattern}
    {t rest : Text}
    {found : Captures}
    (hName : name.all CharClass.name.holds)
    (hApart : Text.startsApart (c :: tail))
    (hReads :
      Pattern.Reads (keyword (name ++ c :: tail) ++ steps)
        t found rest) :
    t.afterName.head? = some c := by
  rcases exists_of_reads_keyword hReads with
    ⟨indent, last, rfl, hIndent, _⟩
  have hLast : Text.startsApart (c :: tail ++ last) := hApart
  have hNoGap : ∀ d ∈ ([] : Text), isBlank d := by
    simp
  have hAfter :=
    Text.afterName_append hIndent
      (List.all_eq_true.mp hName) hNoGap hLast
  rw [List.nil_append] at hAfter
  rw [List.append_assoc, hAfter]
  rfl

/- Nothing follows a keyword that stands alone. -/
theorem afterName_of_reads_lone
    {word t rest : Text}
    {found : Captures}
    (hName : word.all CharClass.name.holds)
    (hReads : Pattern.Reads (lone word) t found rest) :
    t.afterName = [] := by
  rcases exists_of_reads_lone hReads with
    ⟨indent, gap, rfl, hIndent, hGap⟩
  rw [← List.append_nil gap]
  exact Text.afterName_append hIndent
    (List.all_eq_true.mp hName) hGap rfl

end Form

namespace Rule

/- A quote follows the keyword of a requirement. -/
theorem head?_afterName_ne_of_applies_require
    {line : Text}
    (hApplies : Rule.require.applies line) :
    line.afterName.head? ≠ some '=' := by
  rcases exists_of_applies_require hApplies with
    ⟨indent, gap, quote, tail, rfl, hIndent, hGap, hQuote⟩
  have hName :
      "require".toList.all CharClass.name.holds := by
    decide
  have hCases : quote = '\'' ∨ quote = '"' := by
    simpa [CharClass.holds] using hQuote
  have hApart : Text.startsApart (quote :: tail) := by
    rcases hCases with rfl | rfl <;> rfl
  rw [Text.afterName_append hIndent
    (List.all_eq_true.mp hName) hGap hApart]
  rcases hCases with rfl | rfl <;> simp

/-
  The rules whose lines can be assignments as well: a sign
  may follow the keyword, or the name of a constant.
-/
def assignable : List Rule :=
  [ .methodHeader, .ifBranch, .unlessBranch, .elsifBranch,
    .rescueClause, .constant, .print, .warn, .exit ]

/- No sign follows the first name for any other keyword. -/
theorem head?_afterName_ne_of_applies_keyword
    {rule : Rule}
    {line : Text}
    (hKeywords : rule.gate.keywords ≠ [])
    (hApart : rule ∉ assignable)
    (hApplies : rule.applies line) :
    line.afterName.head? ≠ some '=' := by
  intro hSign
  rcases (applies_iff _ _).mp hApplies with
    ⟨found, rest, hReads⟩
  cases rule with
  | require =>
      exact head?_afterName_ne_of_applies_require hApplies hSign
  | comment =>
      have hHash :=
        Form.head?_afterName_of_reads_keyword [] '#' []
          (by decide) rfl hReads
      rw [hSign] at hHash
      exact absurd hHash (by decide)
  | blockEnd | elseBranch | beginBlock | ensureClause =>
      rw [Form.afterName_of_reads_lone (by decide) hReads]
        at hSign
      cases hSign
  | fileUtilsCall =>
      have hDot :=
        Form.head?_afterName_of_reads_keyword "FileUtils" '.'
          [] (by decide) rfl hReads
      rw [hSign] at hDot
      exact absurd hDot (by decide)
  | fileCall =>
      have hDot :=
        Form.head?_afterName_of_reads_keyword "File" '.' []
          (by decide) rfl hReads
      rw [hSign] at hDot
      exact absurd hDot (by decide)
  | assignment | manual => exact hKeywords rfl
  | _ => exact absurd hApart (by decide)

end Rule

end Translit

------------------------------------------------------------
-- Overlap
------------------------------------------------------------

namespace Translit

namespace Rule

theorem mem_standard
    (rule : Rule) :
    rule ∈ Table.standard := by
  cases rule <;> decide

/- The keywords of the rules are prefix free. -/
theorem keywords_prefixFree :
    ∀ first ∈ Table.standard, ∀ second ∈ Table.standard,
      first ≠ second →
        ∀ v ∈ first.gate.keywords,
          ∀ w ∈ second.gate.keywords, ¬v <+: w := by
  decide

/- A line starts with a keyword of each rule applying to it. -/
theorem exists_keyword_of_applies
    {rule : Rule}
    {line : Text}
    (hKeywords : rule.gate.keywords ≠ [])
    (hApplies : rule.applies line) :
    ∃ w ∈ rule.gate.keywords, w <+: line.unindented := by
  have hAdmits := admits_of_applies hApplies
  rw [Gate.admits, Bool.and_eq_true, Gate.startsLine,
    Bool.or_eq_true] at hAdmits
  rcases hAdmits.2 with hNone | hSome
  · exact absurd (List.isEmpty_iff.mp hNone) hKeywords
  · rcases List.any_eq_true.mp hSome with
      ⟨w, hMember, hFront⟩
    exact ⟨w, hMember, List.isPrefixOf_iff_prefix.mp hFront⟩

/- Two rules with keywords never apply to the same line. -/
theorem eq_of_applies_keyword
    {first second : Rule}
    {line : Text}
    (hFirst : first.gate.keywords ≠ [])
    (hSecond : second.gate.keywords ≠ [])
    (hApplies : first.applies line)
    (hApplies' : second.applies line) :
    first = second := by
  by_contra hNe
  rcases exists_keyword_of_applies hFirst hApplies with
    ⟨v, hV, hFrontV⟩
  rcases exists_keyword_of_applies hSecond hApplies' with
    ⟨w, hW, hFrontW⟩
  rcases List.prefix_or_prefix_of_prefix hFrontV hFrontW with
    hPrefix | hPrefix
  · exact keywords_prefixFree first (mem_standard first)
      second (mem_standard second) hNe v hV w hW hPrefix
  · exact keywords_prefixFree second (mem_standard second)
      first (mem_standard first) (Ne.symm hNe) w hW v hV
      hPrefix

/- The keywords beside an assignment are in lower case. -/
theorem head?_keyword_not_capital :
    ∀ rule ∈ assignable, ∀ w ∈ rule.gate.keywords,
      w.head?.any fun c => !CharClass.capital.holds c := by
  decide

/- No rule with keywords applies to a constant. -/
theorem not_applies_constant_of_keyword
    {rule : Rule}
    {line : Text}
    (hKeywords : rule.gate.keywords ≠ [])
    (hApplies : rule.applies line)
    (hConstant : Rule.constant.applies line) :
    False := by
  by_cases hMember : rule ∈ assignable
  · rcases exists_keyword_of_applies hKeywords hApplies with
      ⟨w, hW, hFront⟩
    rcases exists_of_applies_constant hConstant with
      ⟨indent, c, name, gap, value, rfl, hIndent, hName, _⟩
    have hCapital := hName c (by simp)
    have hSolid : isBlank c = false :=
      CharClass.isBlank_of_holds rfl hCapital
    have hLower :=
      head?_keyword_not_capital rule hMember w hW
    rw [Text.unindented_append _ hIndent,
      Text.unindented_of_head (by simp [hSolid])] at hFront
    cases w with
    | nil => cases hLower
    | cons d w =>
        rcases hFront with ⟨tail, hEq⟩
        have hHead : d = c := by
          simpa using congrArg List.head? hEq
        subst hHead
        simp [hCapital] at hLower
  · exact
      head?_afterName_ne_of_applies_keyword hKeywords hMember
        hApplies
        (head?_afterName_of_applies_naming (by decide)
          hConstant)

/- Three rules alone have no keywords. -/
theorem keywords_ne_nil
    {rule : Rule}
    (hConstant : rule ≠ .constant)
    (hAssignment : rule ≠ .assignment)
    (hManual : rule ≠ .manual) :
    rule.gate.keywords ≠ [] := by
  cases rule <;> first | decide | contradiction

/- What applies beside an assignment is assignable. -/
theorem mem_assignable_of_applies
    {rule : Rule}
    {line : Text}
    (hNe : rule ≠ .assignment)
    (hManual : rule ≠ .manual)
    (hApplies : rule.applies line)
    (hAssignment : Rule.assignment.applies line) :
    rule ∈ assignable := by
  by_contra hApart
  have hConstant : rule ≠ .constant := by
    rintro rfl
    exact hApart (by decide)
  exact
    head?_afterName_ne_of_applies_keyword
      (keywords_ne_nil hConstant hNe hManual) hApart hApplies
      (head?_afterName_of_applies_naming (by decide)
        hAssignment)

/-
  Of two rules that apply to one line, the catch-all apart,
  one is the assignment and the other one is assignable.
-/
theorem overlap_cases
    {first second : Rule}
    {line : Text}
    (hNe : first ≠ second)
    (hFirst : first ≠ .manual)
    (hSecond : second ≠ .manual)
    (hApplies : first.applies line)
    (hApplies' : second.applies line) :
    (first = .assignment ∧ second ∈ assignable) ∨
      (second = .assignment ∧ first ∈ assignable) := by
  by_cases hLeft : first = .assignment
  · subst hLeft
    exact Or.inl
      ⟨rfl, mem_assignable_of_applies (Ne.symm hNe) hSecond
        hApplies' hApplies⟩
  by_cases hRight : second = .assignment
  · subst hRight
    exact Or.inr
      ⟨rfl, mem_assignable_of_applies hNe hFirst hApplies
        hApplies'⟩
  -- Neither is the assignment, so both have keywords, or one
  -- of them is the constant.
  exfalso
  by_cases hConstant : first = .constant
  · subst hConstant
    exact not_applies_constant_of_keyword
      (keywords_ne_nil (Ne.symm hNe) hRight hSecond)
      hApplies' hApplies
  by_cases hConstant' : second = .constant
  · subst hConstant'
    exact not_applies_constant_of_keyword
      (keywords_ne_nil hNe hLeft hFirst) hApplies hApplies'
  exact hNe
    (eq_of_applies_keyword
      (keywords_ne_nil hConstant hLeft hFirst)
      (keywords_ne_nil hConstant' hRight hSecond)
      hApplies hApplies')

/- Every assignable rule does meet the assignment. -/
theorem exists_overlap :
    ∀ rule ∈ assignable, ∃ line,
      rule.applies line ∧ Rule.assignment.applies line := by
  intro rule hMember
  have hMeet :
      ∀ rule ∈ assignable,
        rule.applies
            (rule.gate.keywords.headD "A" ++ " =x") ∧
          Rule.assignment.applies
            (rule.gate.keywords.headD "A" ++ " =x") := by
    decide
  exact ⟨_, hMeet rule hMember⟩

end Rule

namespace Table

theorem nodup_standard :
    Table.standard.Nodup := by
  decide

/- Beside the catch-all at most two rules apply to a line. -/
theorem length_filter_applies_le_two
    (line : Text) :
    (Table.standard.filter fun rule =>
      rule != .manual && rule.applies line).length ≤ 2 := by
  have hNodup :=
    nodup_standard.filter fun rule =>
      rule != .manual && rule.applies line
  have hApplies :
      ∀ rule ∈ Table.standard.filter (fun rule =>
        rule != .manual && rule.applies line),
        rule ≠ .manual ∧ rule.applies line := by
    intro rule hMember
    simpa using (List.mem_filter.mp hMember).2
  revert hNodup hApplies
  generalize Table.standard.filter (fun rule =>
    rule != .manual && rule.applies line) = rules
  intro hNodup hApplies
  match rules with
  | [] | [_] | [_, _] => simp
  | first :: second :: third :: rules =>
      -- Of any two of three rules one is the assignment, so
      -- two of the three would be the same rule.
      exfalso
      rcases hApplies first (by simp) with ⟨hA, hA'⟩
      rcases hApplies second (by simp) with ⟨hB, hB'⟩
      rcases hApplies third (by simp) with ⟨hC, hC'⟩
      have hAB : first ≠ second := by
        rintro rfl
        simp at hNodup
      have hAC : first ≠ third := by
        rintro rfl
        simp at hNodup
      have hBC : second ≠ third := by
        rintro rfl
        simp at hNodup
      rcases Rule.overlap_cases hAB hA hB hA' hB' with
        ⟨rfl, _⟩ | ⟨rfl, _⟩
      · rcases Rule.overlap_cases hBC hB hC hB' hC' with
          ⟨rfl, _⟩ | ⟨rfl, _⟩
        · exact hAB rfl
        · exact hAC rfl
      · rcases Rule.overlap_cases hAC hA hC hA' hC' with
          ⟨rfl, _⟩ | ⟨rfl, _⟩
        · exact hAB rfl
        · exact hBC rfl

end Table

end Translit
