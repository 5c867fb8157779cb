import Translit.Proofs.Pattern.Captures
import Translit.Proofs.Verdict.FirstMatch

/-
  Line feeds in what rules write.

  No capture holds a line feed, as no step that fills a slot
  takes one, and neither replacing operators nor opening
  interpolation markers adds one.  So the rules write single
  lines, apart from the constant, whose output has two, and
  from the rules that copy the line, which may hold more.

  Key definitions include:
    * `Rule.copying`

  Main declarations:
    * `Condition.lineFeed_notMem_convert`
    * `Interpolation.lineFeed_notMem_convert`
    * `Rule.lineFeed_notMem_part`
    * `Rule.lineFeed_notMem_output`
    * `Rule.splitOn_output`
    * `Rule.splitOn_output_constant`
    * `Rule.count_lineFeed_output`
-/

------------------------------------------------------------
-- Characters Of Converted Text
------------------------------------------------------------

namespace Translit

namespace Text

/- A text between two others holds nothing new. -/
theorem notMem_between
    {c : Char}
    {opening inner closing : Text}
    (hFixed : c ∉ opening ++ closing)
    (hInner : c ∉ inner) :
    c ∉ opening ++ inner ++ closing := by
  rw [List.mem_append, not_or] at hFixed
  exact List.not_mem_append
    (List.not_mem_append hFixed.1 hInner) hFixed.2

/- Replacing adds no characters but those of the new text. -/
theorem notMem_replaceFrom
    {c : Char}
    {target new t : Text}
    {skip : Nat}
    (hNew : c ∉ new)
    (hText : c ∉ t) :
    c ∉ replaceFrom target new skip t := by
  fun_induction replaceFrom target new skip t with
  | case1 skip => exact List.not_mem_nil
  | case2 skip d rest ih =>
      exact ih (List.not_mem_of_not_mem_cons hText)
  | case3 d rest hFront ih =>
      apply List.not_mem_append hNew
      exact ih (List.not_mem_of_not_mem_cons hText)
  | case4 d rest hFront ih =>
      apply List.not_mem_cons_of_ne_of_not_mem
      · exact List.ne_of_not_mem_cons hText
      · exact ih (List.not_mem_of_not_mem_cons hText)

end Text

namespace Condition

/- Replacing operators adds no characters but their words. -/
theorem notMem_replaceEach
    {c : Char}
    {steps : List (Text × Text)}
    {t : Text}
    (hSteps : ∀ step ∈ steps, c ∉ step.2)
    (hText : c ∉ t) :
    c ∉ replaceEach steps t := by
  induction steps generalizing t with
  | nil => exact hText
  | cons step steps ih =>
      apply ih
      · intro other hOther
        exact hSteps other (List.mem_cons_of_mem step hOther)
      · exact Text.notMem_replaceFrom (hSteps step (by simp))
          hText

theorem lineFeed_notMem_convert
    {t : Text}
    (hText : '\n' ∉ t) :
    '\n' ∉ convert t := by
  have hWords :
      (operators.all fun step => !step.2.contains '\n') := by
    decide
  apply notMem_replaceEach _ hText
  intro step hStep
  simpa using List.all_eq_true.mp hWords step hStep

end Condition

namespace Interpolation

/- The inner part of a marker is within one line. -/
theorem lineFeed_notMem_inner
    {t inner : Text}
    (hInner : inner? t = some inner) :
    '\n' ∉ inner := by
  rcases Option.map_eq_some_iff.mp hInner with
    ⟨⟨found, rest⟩, hMatch, rfl⟩
  have hAvoids : marker.avoids .body '\n' := by
    decide
  exact Pattern.notMem_part_of_reads hAvoids
    (Pattern.reads_of_match?_eq_some hMatch)

theorem lineFeed_notMem_openFrom
    {t : Text}
    {skip : Nat}
    (hText : '\n' ∉ t) :
    '\n' ∉ openFrom skip t := by
  fun_induction openFrom skip t with
  | case1 skip => exact List.not_mem_nil
  | case2 skip d rest ih =>
      exact ih (List.not_mem_of_not_mem_cons hText)
  | case3 d rest inner hInner ih =>
      have hRest :=
        ih (List.not_mem_of_not_mem_cons hText)
      have hPart := lineFeed_notMem_inner hInner
      simp [hPart, hRest]
  | case4 d rest hInner ih =>
      apply List.not_mem_cons_of_ne_of_not_mem
      · exact List.ne_of_not_mem_cons hText
      · exact ih (List.not_mem_of_not_mem_cons hText)

theorem lineFeed_notMem_convert
    {t : Text}
    (hText : '\n' ∉ t) :
    '\n' ∉ convert t := by
  unfold convert
  split
  · have hOpen : '\n' ∉ openMarkers t :=
      lineFeed_notMem_openFrom hText
    have hFilter :
        '\n' ∉ (openMarkers t).filter (· != '"') := by
      intro hFeed
      exact hOpen (List.mem_of_mem_filter hFeed)
    exact Text.notMem_between (by decide) hFilter
  · exact hText

end Interpolation

end Translit

------------------------------------------------------------
-- Line Feeds Of The Rules
------------------------------------------------------------

namespace Translit

/- Lowering letters makes letters only. -/
theorem toLower_ne_of_lt
    {c d : Char}
    (hLow : d < 'a')
    (hNe : c ≠ d) :
    c.toLower ≠ d := by
  unfold Char.toLower
  split
  · next hUpper =>
      intro hEq
      subst hEq
      have hFirst : 65 ≤ c.val.toNat := hUpper.1
      have hLast : c.val.toNat ≤ 90 := hUpper.2
      have hSum : (c.val + 32).toNat < 97 := hLow
      rw [UInt32.toNat_add] at hSum
      have hStep : (32 : UInt32).toNat = 32 := rfl
      omega
  · exact hNe

theorem notMem_map_toLower
    {c : Char}
    {t : Text}
    (hLow : c < 'a')
    (hText : c ∉ t) :
    c ∉ t.map Char.toLower := by
  intro hMember
  rcases List.mem_map.mp hMember with ⟨d, hOld, hEq⟩
  have hNe : d ≠ c := by
    rintro rfl
    exact hText hOld
  exact toLower_ne_of_lt hLow hNe hEq

theorem lineFeed_notMem_modulePath
    {path : Text}
    (hPath : '\n' ∉ path) :
    '\n' ∉ modulePath path := by
  intro hMember
  rcases List.mem_map.mp hMember with ⟨d, hOld, hEq⟩
  split at hEq
  · cases hEq
  · rw [hEq] at hOld
    exact hPath hOld

theorem lineFeed_notMem_orElse
    {t default : Text}
    (hText : '\n' ∉ t)
    (hDefault : '\n' ∉ default) :
    '\n' ∉ orElse t default := by
  unfold orElse
  split
  · exact hDefault
  · exact hText

namespace Rule

/- The rules that write the line itself. -/
def copying : List Rule :=
  [.comment, .manual]

variable {rule : Rule}
variable {line rest : Text}
variable {found : Captures}

/- No rule captures a line feed. -/
theorem lineFeed_notMem_part
    (slot : Slot)
    (hReads : rule.form.Reads line found rest) :
    '\n' ∉ found.part slot := by
  have hAvoids : rule.form.avoids slot '\n' := by
    cases rule <;> cases slot <;> decide
  exact Pattern.notMem_part_of_reads hAvoids hReads

/- A rule that applies writes its output for a reading. -/
theorem exists_of_convert?_eq_some
    {output : Text}
    (hConvert : rule.convert? line = some output) :
    ∃ found rest,
      rule.form.Reads line found rest ∧
        output = rule.output line found := by
  rcases Option.map_eq_some_iff.mp hConvert with
    ⟨⟨found, rest⟩, hMatch, hOutput⟩
  exact
    ⟨found, rest, Pattern.reads_of_match?_eq_some hMatch,
      hOutput.symm⟩

/-
  Only a constant has a line feed in its output, unless the
  line is copied and holds one.
-/
theorem lineFeed_notMem_output
    (hRule : rule ≠ .constant)
    (hLine : rule ∈ copying → '\n' ∉ line)
    (hReads : rule.form.Reads line found rest) :
    '\n' ∉ rule.output line found := by
  have hName : '\n' ∉ found.name :=
    lineFeed_notMem_part .name hReads
  have hBody : '\n' ∉ found.body :=
    lineFeed_notMem_part .body hReads
  have hCondition := Condition.lineFeed_notMem_convert hBody
  have hValue := Interpolation.lineFeed_notMem_convert hBody
  cases rule with
  | require =>
      exact List.not_mem_append (by decide)
        (lineFeed_notMem_modulePath hBody)
  | comment => exact hLine (by decide)
  | methodHeader =>
      have hMethod : '\n' ∉ methodName found.name := by
        intro hFeed
        exact hName (List.mem_of_mem_filter hFeed)
      exact Text.notMem_between (by decide) hMethod
  | blockEnd => exact List.not_mem_nil
  | ifBranch | unlessBranch | elsifBranch =>
      exact Text.notMem_between (by decide) hCondition
  | elseBranch =>
      exact (by decide : '\n' ∉ "else:".toList)
  | beginBlock =>
      exact (by decide : '\n' ∉ "try:".toList)
  | ensureClause =>
      exact
        (by decide :
          '\n' ∉
            "# NOTE: Python 'finally:' equivalent".toList)
  | rescueClause =>
      have hClass :=
        lineFeed_notMem_orElse hName
          (by decide : '\n' ∉ "Exception".toList)
      exact Text.notMem_between (by decide) hClass
  | fileUtilsCall | fileCall =>
      exact List.not_mem_append (by decide) hBody
  | constant => exact absurd rfl hRule
  | assignment =>
      exact List.not_mem_append
        (List.not_mem_append hName (by decide)) hValue
  | print | warn =>
      exact Text.notMem_between (by decide) hValue
  | exit =>
      have hCode :=
        lineFeed_notMem_orElse hBody
          (by decide : '\n' ∉ "0".toList)
      exact Text.notMem_between (by decide) hCode
  | manual =>
      exact List.not_mem_append (by decide)
        (hLine (by decide))

/- The output of any rule but the constant is one line. -/
theorem splitOn_output
    (hRule : rule ≠ .constant)
    (hLine : rule ∈ copying → '\n' ∉ line)
    (hReads : rule.form.Reads line found rest) :
    (rule.output line found).splitOn '\n' =
      [rule.output line found] :=
  List.splitOn_eq_singleton
    (lineFeed_notMem_output hRule hLine hReads)

/- The output of a constant is a note and an assignment. -/
theorem output_constant
    (line : Text)
    (found : Captures) :
    Rule.constant.output line found =
      "# Constant converted to variable:".toList ++
        '\n' :: (found.name.map Char.toLower ++
          " = ".toList ++ found.body) := by
  have hNote :
      "# Constant converted to variable:\n".toList =
        "# Constant converted to variable:".toList ++
          ['\n'] := by
    decide
  have hOutput :
      Rule.constant.output line found =
        "# Constant converted to variable:\n".toList ++
          found.name.map Char.toLower ++ " = ".toList ++
            found.body :=
    rfl
  rw [hOutput, hNote]
  simp only [List.append_assoc, List.cons_append,
    List.nil_append]

theorem lineFeed_notMem_constant
    (hReads : Rule.constant.form.Reads line found rest) :
    '\n' ∉ found.name.map Char.toLower ++ " = ".toList ++
      found.body := by
  have hName : '\n' ∉ found.name :=
    lineFeed_notMem_part .name hReads
  have hLower :=
    notMem_map_toLower (by decide : '\n' < 'a') hName
  have hBody : '\n' ∉ found.body :=
    lineFeed_notMem_part .body hReads
  exact List.not_mem_append
    (List.not_mem_append hLower (by decide)) hBody

/- Each of the two stands on a line of its own. -/
theorem splitOn_output_constant
    (hReads : Rule.constant.form.Reads line found rest) :
    (Rule.constant.output line found).splitOn '\n' =
      [ "# Constant converted to variable:".toList,
        found.name.map Char.toLower ++ " = ".toList ++
          found.body ] := by
  rw [output_constant, List.splitOn_append_cons_self,
    List.splitOn_eq_singleton
      (lineFeed_notMem_constant hReads),
    List.splitOn_eq_singleton (by decide)]
  rfl

/- A constant has one line feed, any other rule has none. -/
theorem count_lineFeed_output
    (hLine : rule ∈ copying → '\n' ∉ line)
    (hReads : rule.form.Reads line found rest) :
    (rule.output line found).count '\n' =
      if rule = .constant then 1 else 0 := by
  by_cases hRule : rule = .constant
  · subst hRule
    have hNote :
        "# Constant converted to variable:".toList.count
          '\n' = 0 := by
      decide
    rw [if_pos rfl, output_constant, List.count_append,
      List.count_cons_self, hNote,
      List.count_eq_zero.mpr
        (lineFeed_notMem_constant hReads)]
  · rw [if_neg hRule]
    exact List.count_eq_zero.mpr
      (lineFeed_notMem_output hRule hLine hReads)

end Rule

end Translit
