import Mathlib.Data.List.Basic
import Translit.Proofs.Pattern.Preferred
import Translit.Proofs.Rule.Output
import Translit.Proofs.Run.WinningRule

/-
  Assignments and constants.

  Both rules read a name, a sign and a value, and they part
  by the name alone: the name of a constant is all capitals.
  Names and blanks cannot be cut short, as a sign has to
  follow.  The value is the rest of its line, or the last
  blank that does not end a line if nothing else is left.

  Key definitions include:
    * `Text.AssignmentCut`
    * `Form.value`
    * `Rule.aheadOfAssignment`

  Main declarations:
    * `Form.captures?_value_eq_some_iff`
    * `Rule.captures?_assignment_eq_some_iff`
    * `Rule.captures?_constant_eq_some_iff`
    * `Table.ruleFor?_constant`
    * `Table.ruleFor?_assignment`
    * `Table.standard_assignments`
-/

------------------------------------------------------------
-- Names
------------------------------------------------------------

namespace Translit

namespace CharClass

variable {c : Char}

/- Letters and the underscore come after the digits. -/
theorem isDigit_of_nameStart
    (hStart : CharClass.nameStart.holds c) :
    isDigit c = false := by
  have hAbove : 57 < c.val.toNat := by
    simp only [holds, isLower, isUpper, Bool.or_eq_true,
      Bool.and_eq_true, decide_eq_true_eq, beq_iff_eq]
      at hStart
    rcases hStart with (⟨hLower, _⟩ | ⟨hUpper, _⟩) | rfl
    · have hFirst : 97 ≤ c.val.toNat := hLower
      omega
    · have hFirst : 65 ≤ c.val.toNat := hUpper
      omega
    · decide
  by_contra hDigit
  simp only [isDigit, Bool.not_eq_false, Bool.and_eq_true,
    decide_eq_true_eq] at hDigit
  have hLast : c.val.toNat ≤ 57 := hDigit.2
  omega

/- A name starts with any of its characters but a digit. -/
theorem nameStart_iff :
    CharClass.nameStart.holds c ↔
      CharClass.name.holds c ∧ isDigit c = false := by
  constructor
  · intro hStart
    exact ⟨name_of_nameStart hStart, isDigit_of_nameStart hStart⟩
  · rintro ⟨hName, hDigit⟩
    simpa [holds, hDigit] using hName

theorem nameStart_of_capital
    (hCapital : CharClass.capital.holds c) :
    CharClass.nameStart.holds c := by
  simp only [holds, Bool.or_eq_true] at hCapital ⊢
  tauto

end CharClass

end Translit

------------------------------------------------------------
-- Signs And Values
------------------------------------------------------------

namespace Translit

namespace Text

/-
  Behind its indentation a text is a name, a sign between
  blanks, and a rest.  The name does not start with a digit,
  and name and blanks go as far as they can.
-/
structure AssignmentCut
    (t name before after rest : Text) : Prop where
  text :
    t.unindented = name ++ (before ++ '=' :: (after ++ rest))
  name_ne_nil : name ≠ []
  name_start : name.head?.all fun c => !CharClass.isDigit c
  name_longest :
    IsLongest CharClass.name.holds name
      (before ++ '=' :: (after ++ rest))
  before_longest :
    IsLongest isBlank before ('=' :: (after ++ rest))
  after_longest : IsLongest isBlank after rest

end Text

namespace Form

/- The steps behind the name of an assignment. -/
def value : Pattern :=
  [ .pass .blanks, .pass (.word "="), .pass .blanks,
    .keep .body .restOfLine ]

variable {t : Text}
variable {found : Captures}

/- A sign and a value take the blanks around the sign. -/
theorem captures?_value_eq_some_iff :
    value.captures? t = some found ↔
      ∃ before after rest,
        t = before ++ '=' :: (after ++ rest) ∧
          Text.IsLongest isBlank before
            ('=' :: (after ++ rest)) ∧
          Text.IsLongest isBlank after rest ∧
          Text.argument? 0 after rest = some found.body ∧
          found.name = [] := by
  have hSolid :
      Pattern.startsSolid
        [ .pass (.word "="), .pass .blanks,
          .keep .body .restOfLine ] := by
    decide
  have hBlanks :
      value.captures? t = some found ↔
        ∃ before tail,
          t = before ++ tail ∧
            Text.IsLongest isBlank before tail ∧
            0 ≤ before.length ∧
            Pattern.captures?
                [ .pass (.word "="), .pass .blanks,
                  .keep .body .restOfLine ] tail =
              some found :=
    Pattern.captures?_gap_eq_some_iff
      (Pattern.rejects_blank_of_startsSolid hSolid).spares
  rw [hBlanks]
  constructor
  · rintro ⟨before, tail, rfl, hBefore, _, hTail⟩
    rcases Pattern.captures?_word_eq_some_iff.mp hTail with
      ⟨last, rfl, hLast⟩
    rcases Pattern.captures?_argument_eq_some_iff.mp hLast with
      ⟨after, rest, value, rfl, hAfter, _, hValue, rfl⟩
    exact
      ⟨before, after, rest, rfl, hBefore, hAfter, hValue, rfl⟩
  · rintro ⟨before, after, rest, rfl, hBefore, hAfter, hValue,
      hName⟩
    have hFound : found = ⟨[], found.body⟩ := by
      rw [← hName]
    have hLast :=
      Pattern.captures?_argument_eq_some_iff.mpr
        ⟨after, rest, found.body, rfl, hAfter, Nat.zero_le _,
          hValue, hFound⟩
    exact
      ⟨before, '=' :: (after ++ rest), rfl, hBefore,
        Nat.zero_le _,
        Pattern.captures?_word_eq_some_iff.mpr
          ⟨after ++ rest, rfl, hLast⟩⟩

/- No character of a name can start the steps behind it. -/
theorem value_rejects_name :
    value.Rejects .name := by
  intro c t hName
  by_contra hSome
  rcases Option.ne_none_iff_exists'.mp hSome with
    ⟨found, hFound⟩
  rcases captures?_value_eq_some_iff.mp hFound with
    ⟨before, after, rest, hText, hBefore, _, _, _⟩
  cases before with
  | nil =>
      rw [List.nil_append, List.cons.injEq] at hText
      rw [hText.1] at hName
      cases hName
  | cons d before =>
      rw [List.cons_append, List.cons.injEq] at hText
      have hBlank : isBlank c := by
        rw [hText.1]
        exact hBefore.mem d (by simp)
      rw [CharClass.holds_of_isBlank rfl hBlank] at hName
      cases hName

theorem value_rejects_capital :
    value.Rejects .capital :=
  fun c t hCapital =>
    value_rejects_name c t (CharClass.name_of_capital hCapital)

end Form

end Translit

------------------------------------------------------------
-- Names And Values
------------------------------------------------------------

namespace Translit

namespace Rule

variable {t : Text}
variable {found : Captures}

/- An assignment is a name and the steps behind it. -/
theorem captures?_assignment_iff_value :
    Rule.assignment.form.captures? t = some found ↔
      ∃ tail,
        t.unindented = found.name ++ tail ∧
          found.name ≠ [] ∧
          (found.name.head?.all fun c =>
            !CharClass.isDigit c) ∧
          found.name.all CharClass.name.holds ∧
          Form.value.captures? tail =
            some ⟨[], found.body⟩ := by
  have hForm :
      Rule.assignment.form.captures? t =
        Pattern.captures?
          (.keep .name (.one .nameStart) ::
            .keep .name (.run .name 0 .longest) :: Form.value)
          t.unindented :=
    Pattern.captures?_indented t (by decide)
  rw [hForm]
  constructor
  · intro hFound
    rcases Pattern.captures?_one_eq_some_iff.mp hFound with
      ⟨c, rest, _, hText, hStart, hRest, rfl⟩
    rcases (Pattern.captures?_run_eq_some_iff
        Form.value_rejects_name.spares).mp hRest with
      ⟨run, tail, ⟨name, body⟩, rfl, hLongest, _, hTail, rfl⟩
    rcases Form.captures?_value_eq_some_iff.mp hTail with
      ⟨_, _, _, _, _, _, _, hEmpty⟩
    cases hEmpty
    rcases CharClass.nameStart_iff.mp hStart with
      ⟨hName, hDigit⟩
    refine ⟨tail, ?_, ?_, ?_, ?_, hTail⟩
    · simpa using hText
    · simp
    · simp [hDigit]
    · simpa [hName] using hLongest.1
  · rintro ⟨tail, hText, hSome, hStart, hName, hTail⟩
    rcases found with ⟨name, body⟩
    cases name with
    | nil => exact absurd rfl hSome
    | cons c run =>
        rw [List.all_cons, Bool.and_eq_true] at hName
        have hFirst : CharClass.nameStart.holds c := by
          rw [CharClass.nameStart_iff]
          exact ⟨hName.1, by simpa using hStart⟩
        have hLongest :=
          Form.value_rejects_name.isLongest hName.2 hTail
        have hRest :
            Pattern.captures?
                (.keep .name (.run .name 0 .longest) ::
                  Form.value) (run ++ tail) =
              some ⟨run ++ [], body⟩ :=
          Pattern.captures?_run_of_isLongest hLongest
            (Nat.zero_le _) hTail
        exact
          Pattern.captures?_one_eq_some_iff.mpr
            ⟨c, run ++ tail, _, hText, hFirst, hRest, by simp⟩

/- A constant has the same steps behind its name. -/
theorem captures?_constant_iff_value :
    Rule.constant.form.captures? t = some found ↔
      ∃ tail,
        t.unindented = found.name ++ tail ∧
          found.name ≠ [] ∧
          found.name.all CharClass.capital.holds ∧
          Form.value.captures? tail =
            some ⟨[], found.body⟩ := by
  have hForm :
      Rule.constant.form.captures? t =
        Pattern.captures?
          (.keep .name (.run .capital 1 .longest) ::
            Form.value)
          t.unindented :=
    Pattern.captures?_indented t (by decide)
  rw [hForm]
  constructor
  · intro hFound
    rcases (Pattern.captures?_run_eq_some_iff
        Form.value_rejects_capital.spares).mp hFound with
      ⟨run, tail, ⟨name, body⟩, hText, hLongest, hLeast, hTail,
        rfl⟩
    rcases Form.captures?_value_eq_some_iff.mp hTail with
      ⟨_, _, _, _, _, _, _, hEmpty⟩
    cases hEmpty
    have hSome : run ≠ [] := List.ne_nil_of_length_pos hLeast
    refine ⟨tail, ?_, ?_, ?_, hTail⟩
    · simpa using hText
    · simpa using hSome
    · simpa using hLongest.1
  · rintro ⟨tail, hText, hSome, hCapital, hTail⟩
    rcases found with ⟨name, body⟩
    have hLongest :=
      Form.value_rejects_capital.isLongest hCapital hTail
    rw [hText]
    have hFound :
        Pattern.captures?
            (.keep .name (.run .capital 1 .longest) ::
              Form.value) (name ++ tail) =
          some ⟨name ++ [], body⟩ :=
      Pattern.captures?_run_of_isLongest hLongest
        (List.length_pos_iff.mpr hSome) hTail
    rw [List.append_nil] at hFound
    exact hFound

/- An assignment is cut at its sign. -/
theorem captures?_assignment_eq_some_iff :
    Rule.assignment.form.captures? t = some found ↔
      ∃ before after rest,
        Text.AssignmentCut t found.name before after rest ∧
          Text.argument? 0 after rest = some found.body := by
  rw [captures?_assignment_iff_value]
  constructor
  · rintro ⟨tail, hText, hSome, hStart, hName, hTail⟩
    have hLongest :=
      Form.value_rejects_name.isLongest hName hTail
    rcases Form.captures?_value_eq_some_iff.mp hTail with
      ⟨before, after, rest, rfl, hBefore, hAfter, hValue, _⟩
    exact
      ⟨before, after, rest,
        ⟨hText, hSome, hStart, hLongest, hBefore, hAfter⟩,
        hValue⟩
  · rintro ⟨before, after, rest, hCut, hValue⟩
    have hTail :
        Form.value.captures?
            (before ++ '=' :: (after ++ rest)) =
          some ⟨[], found.body⟩ :=
      Form.captures?_value_eq_some_iff.mpr
        ⟨before, after, rest, rfl, hCut.before_longest,
          hCut.after_longest, hValue, rfl⟩
    exact
      ⟨_, hCut.text, hCut.name_ne_nil, hCut.name_start,
        hCut.name_longest.1, hTail⟩

/- A constant is an assignment to a name of capitals. -/
theorem captures?_constant_eq_some_iff :
    Rule.constant.form.captures? t = some found ↔
      Rule.assignment.form.captures? t = some found ∧
        found.name.all CharClass.capital.holds := by
  rw [captures?_constant_iff_value,
    captures?_assignment_iff_value]
  constructor
  · rintro ⟨tail, hText, hSome, hCapital, hTail⟩
    have hAll := List.all_eq_true.mp hCapital
    refine ⟨⟨tail, hText, hSome, ?_, ?_, hTail⟩, hCapital⟩
    · rw [List.head?_eq_some_head hSome]
      have hStart :=
        CharClass.nameStart_of_capital
          (hAll _ (List.head_mem hSome))
      simpa using CharClass.isDigit_of_nameStart hStart
    · exact List.all_eq_true.mpr fun c hMember =>
        CharClass.name_of_capital (hAll c hMember)
  · rintro ⟨⟨tail, hText, hSome, _, _, hTail⟩, hCapital⟩
    exact ⟨tail, hText, hSome, hCapital, hTail⟩

end Rule

end Translit

------------------------------------------------------------
-- Winners
------------------------------------------------------------

namespace Translit

namespace Rule

/-
  The rules ahead of the assignment in the standard table
  that can apply to the same lines.
-/
def aheadOfAssignment : List Rule :=
  [ .constant, .methodHeader, .ifBranch, .unlessBranch,
    .elsifBranch, .rescueClause ]

end Rule

namespace Table

variable {line : Text}
variable {found : Captures}

/- A rule wins if it applies and nothing before it does. -/
theorem ruleFor?_of_earlier
    {table before after : Table}
    {rule : Rule}
    (hTable : table = before ++ rule :: after)
    (hApplies : rule.applies line)
    (hEarlier :
      ∀ other ∈ before, other.applies line = false) :
    table.ruleFor? line = some rule := by
  apply List.find?_eq_some_iff_append.mpr
  refine ⟨hApplies, before, after, hTable, ?_⟩
  intro other hOther
  rw [hEarlier other hOther]
  rfl

/- All rules before the constant have keywords. -/
theorem ruleFor?_constant
    (hApplies : Rule.constant.applies line) :
    standard.ruleFor? line = some .constant := by
  have hTable :
      standard =
        standard.take 13 ++ .constant :: standard.drop 14 := by
    decide
  have hKeywords :
      ∀ other ∈ standard.take 13,
        other.gate.keywords ≠ [] := by
    decide
  apply ruleFor?_of_earlier hTable hApplies
  intro other hOther
  by_contra hBoth
  rw [Bool.not_eq_false] at hBoth
  exact Rule.not_applies_constant_of_keyword
    (hKeywords other hOther) hBoth hApplies

/- Few rules before the assignment apply beside it. -/
theorem ruleFor?_assignment
    (hApplies : Rule.assignment.applies line)
    (hAhead :
      ∀ rule ∈ Rule.aheadOfAssignment,
        rule.applies line = false) :
    standard.ruleFor? line = some .assignment := by
  have hTable :
      standard =
        standard.take 14 ++
          .assignment :: standard.drop 15 := by
    decide
  have hOthers :
      ∀ other ∈ standard.take 14,
        other ≠ .assignment ∧ other ≠ .manual ∧
          (other ∈ Rule.assignable →
            other ∈ Rule.aheadOfAssignment) := by
    decide
  apply ruleFor?_of_earlier hTable hApplies
  intro other hOther
  by_contra hBoth
  rw [Bool.not_eq_false] at hBoth
  rcases hOthers other hOther with ⟨hNe, hManual, hAssignable⟩
  have hMember :=
    Rule.mem_assignable_of_applies hNe hManual hBoth hApplies
  rw [hAhead other (hAssignable hMember)] at hBoth
  cases hBoth

/-
  An assignment is a name that does not start with a digit,
  a sign and a value.  It is a constant exactly if its name
  is all capitals.  The standard table gives every constant
  to its rule, which lowers the name and copies the value.
  It gives an assignment to its rule unless one of six rules
  ahead of it applies, and the value is then converted.
-/
theorem standard_assignments
    (t : Text) :
    (∀ found,
        Rule.assignment.form.captures? t = some found ↔
          ∃ before after rest,
            Text.AssignmentCut t found.name before after
                rest ∧
              Text.argument? 0 after rest =
                some found.body) ∧
      (∀ found,
        Rule.constant.form.captures? t = some found ↔
          Rule.assignment.form.captures? t = some found ∧
            found.name.all CharClass.capital.holds) ∧
      (∀ found,
        Rule.constant.form.captures? t.stripped = some found →
          (standard.judge t).winner.bind (standard[·]?) =
              some .constant ∧
            (standard.judge t).output =
              "# Constant converted to variable:".toList ++
                '\n' :: (found.name.map Char.toLower ++
                  " = ".toList ++ found.body)) ∧
      ∀ found,
        Rule.assignment.form.captures? t.stripped =
            some found →
          (∀ rule ∈ Rule.aheadOfAssignment,
            rule.applies t.stripped = false) →
            (standard.judge t).winner.bind (standard[·]?) =
                some .assignment ∧
              (standard.judge t).output =
                found.name ++ " = ".toList ++
                  Interpolation.convert found.body := by
  refine ⟨fun _ => Rule.captures?_assignment_eq_some_iff,
    fun _ => Rule.captures?_constant_eq_some_iff, ?_, ?_⟩
  · intro found hFound
    have hRule :=
      ruleFor?_constant (Rule.applies_of_captures? hFound)
    have hOutput := convert?_of_ruleFor? hRule
    rw [Rule.convert?_of_captures? hFound, Option.some_inj,
      Rule.output_constant] at hOutput
    rw [winner_judge, bind_winner?, output_judge, ← hOutput]
    exact ⟨hRule, rfl⟩
  · intro found hFound hAhead
    have hRule :=
      ruleFor?_assignment (Rule.applies_of_captures? hFound)
        hAhead
    have hOutput := convert?_of_ruleFor? hRule
    rw [Rule.convert?_of_captures? hFound, Option.some_inj]
      at hOutput
    rw [winner_judge, bind_winner?, output_judge, ← hOutput]
    exact ⟨hRule, rfl⟩

/-
  A second sign belongs to the value of a constant, and a
  line that prints nothing assigns to the name `puts`.
-/
theorem standard_assignments_signs :
    Rule.constant.form.captures? (Text.stripped " X == 1 ") =
        some ⟨"X", "= 1"⟩ ∧
      (standard.judge " X == 1 ").winner.bind (standard[·]?) =
        some .constant ∧
      (standard.judge " X == 1 ").output =
        "# Constant converted to variable:\nx = = 1" ∧
      Rule.assignment.form.captures?
          (Text.stripped "puts = \"#\x7bn\x7d\"") =
        some ⟨"puts", "\"#\x7bn\x7d\""⟩ ∧
      (∀ rule ∈ Rule.aheadOfAssignment,
        rule.applies
          (Text.stripped "puts = \"#\x7bn\x7d\"") = false) ∧
      (standard.judge "puts = \"#\x7bn\x7d\"").winner.bind
          (standard[·]?) =
        some .assignment ∧
      (standard.judge "puts = \"#\x7bn\x7d\"").output =
        "puts = f\"\x7bn\x7d\"" := by
  have hConstant :
      Rule.constant.form.captures? (Text.stripped " X == 1 ") =
        some ⟨"X", "= 1"⟩ := by
    decide
  have hAssignment :
      Rule.assignment.form.captures?
          (Text.stripped "puts = \"#\x7bn\x7d\"") =
        some ⟨"puts", "\"#\x7bn\x7d\""⟩ := by
    decide
  have hAhead :
      ∀ rule ∈ Rule.aheadOfAssignment,
        rule.applies
          (Text.stripped "puts = \"#\x7bn\x7d\"") = false := by
    decide
  rcases standard_assignments " X == 1 " with
    ⟨_, _, hConstants, _⟩
  rcases standard_assignments "puts = \"#\x7bn\x7d\"" with
    ⟨_, _, _, hAssignments⟩
  rcases hConstants _ hConstant with ⟨hFirst, hLowered⟩
  rcases hAssignments _ hAssignment hAhead with
    ⟨hSecond, hConverted⟩
  refine ⟨hConstant, hFirst, hLowered.trans ?_, hAssignment,
    hAhead, hSecond, hConverted.trans ?_⟩
  · decide
  · decide

end Table

end Translit
