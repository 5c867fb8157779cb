import Mathlib.Data.List.Basic
import Translit.Proofs.Pattern.Preferred
import Translit.Proofs.Run.WinningRule
import Translit.Proofs.Text.Lines

/-
  Clauses: a keyword, a gap and an argument.

  The argument of a clause is the rest of its line behind
  the gap.  Only in a text with padding at its end can the
  gap reach that end, and then the last blank of the gap is
  the argument if it does not end a line.  The lines of a
  document lose their padding first, so their arguments
  start and end with something else.

  Key definitions include:
    * `Clause`
    * `Clause.Cut`
    * `Clause.captured?`

  Main declarations:
    * `Clause.captured?_eq_some_iff`
    * `Clause.convert?_rule`
    * `Clause.rest_ne_nil`
    * `Clause.captured?_of_line`
    * `Clause.captures_argument`
-/

------------------------------------------------------------
-- Ends Of Texts
------------------------------------------------------------

namespace Translit

namespace Text

/- A stripped text does not end with padding. -/
theorem getLast?_stripped
    (t : Text) :
    t.stripped.getLast?.all fun c => !isPadding c := by
  rw [stripped, dropTail, List.getLast?_reverse]
  exact (isLongest_takeWhile isPadding t.reverse).2

/- Every end of a text behind its indentation ends it. -/
theorem getLast?_of_unindented_eq
    {t front rest : Text}
    (hText : t.unindented = front ++ rest)
    (hRest : rest ≠ []) :
    rest.getLast? = t.getLast? := by
  have hSplit :
      t = t.takeWhile isBlank ++ (front ++ rest) := by
    rw [← hText]
    exact List.takeWhile_append_dropWhile.symm
  rw [hSplit, ← List.append_assoc,
    List.getLast?_append_of_ne_nil _ hRest]

end Text

end Translit

------------------------------------------------------------
-- Clauses
------------------------------------------------------------

namespace Translit

/- The rules that have a keyword and an argument. -/
inductive Clause
| ifBranch
| unlessBranch
| elsifBranch
| print
| warn
deriving DecidableEq

namespace Clause

/- The rule of a clause. -/
def rule : Clause → Rule
| .ifBranch => .ifBranch
| .unlessBranch => .unlessBranch
| .elsifBranch => .elsifBranch
| .print => .print
| .warn => .warn

/- The keywords of a clause. -/
def words : Clause → List Text
| .ifBranch => ["if"]
| .unlessBranch => ["unless"]
| .elsifBranch => ["elsif"]
| .print => ["puts", "print"]
| .warn => ["warn"]

/- What is written for an argument. -/
def write : Clause → Text → Text
| .ifBranch, argument =>
    "if " ++ Condition.convert argument ++ ":"
| .unlessBranch, argument =>
    "if not " ++ Condition.convert argument ++ ":"
| .elsifBranch, argument =>
    "elif " ++ Condition.convert argument ++ ":"
| .print, argument =>
    "print(" ++ Interpolation.convert argument ++ ")"
| .warn, argument =>
    "print(" ++ Interpolation.convert argument ++
      ", file=sys.stderr)"

/-
  Behind its indentation a text is a keyword, a gap that
  goes as far as it can, and a rest, which may be empty.
-/
structure Cut
    (clause : Clause)
    (t gap rest : Text) : Prop where
  text :
    ∃ w ∈ clause.words, t.unindented = w ++ (gap ++ rest)
  gap_ne_nil : gap ≠ []
  longest : Text.IsLongest isBlank gap rest

/- The argument that a clause captures, if it applies. -/
def captured?
    (clause : Clause)
    (t : Text) : Option Text :=
  (clause.rule.form.captures? t).map fun found => found.body

end Clause

end Translit

------------------------------------------------------------
-- Captured Arguments
------------------------------------------------------------

namespace Translit

namespace Clause

theorem form_rule
    (clause : Clause) :
    clause.rule.form = Form.clause clause.words := by
  cases clause <;> rfl

theorem output_rule
    (clause : Clause)
    (line : Text)
    (found : Captures) :
    clause.rule.output line found =
      clause.write found.body := by
  cases clause <;> rfl

/- No keyword of a clause starts another one of it. -/
theorem words_prefixFree
    (clause : Clause) :
    ∀ v ∈ clause.words, ∀ w ∈ clause.words,
      v <+: w → v = w := by
  cases clause <;> decide

theorem startsSolid_words
    (clause : Clause)
    (steps : Pattern) :
    Pattern.startsSolid
      (.pass (.words clause.words) :: steps) := by
  have hHeads :
      clause.words.all fun w =>
        w.head?.any fun c => !isBlank c := by
    cases clause <;> decide
  exact hHeads

/- A clause captures its argument and nothing else. -/
theorem captures?_form_eq_some_iff
    {clause : Clause}
    {t : Text}
    {found : Captures} :
    clause.rule.form.captures? t = some found ↔
      ∃ gap rest argument,
        clause.Cut t gap rest ∧
          Text.argument? 1 gap rest = some argument ∧
          found = ⟨[], argument⟩ := by
  rw [form_rule, Form.clause,
    Pattern.captures?_indented t
      (clause.startsSolid_words _)]
  constructor
  · intro hFound
    rcases (Pattern.captures?_words_eq_some_iff
        clause.words_prefixFree).mp hFound with
      ⟨w, hWord, tail, inner, hText, hInner, rfl⟩
    rcases Pattern.captures?_argument_eq_some_iff.mp
        hInner with
      ⟨gap, rest, argument, rfl, hLongest, hLeast, hArgument,
        rfl⟩
    have hGap : gap ≠ [] := List.ne_nil_of_length_pos hLeast
    exact
      ⟨gap, rest, argument, ⟨⟨w, hWord, hText⟩, hGap, hLongest⟩,
        hArgument, rfl⟩
  · rintro ⟨gap, rest, argument, hCut, hArgument, rfl⟩
    rcases hCut with ⟨⟨w, hWord, hText⟩, hGap, hLongest⟩
    have hLeast : 1 ≤ gap.length :=
      List.length_pos_iff.mpr hGap
    have hInner :=
      Pattern.captures?_argument_eq_some_iff.mpr
        ⟨gap, rest, argument, rfl, hLongest, hLeast, hArgument,
          rfl⟩
    exact
      (Pattern.captures?_words_eq_some_iff
        clause.words_prefixFree).mpr
        ⟨w, hWord, gap ++ rest, _, hText, hInner, rfl⟩

theorem captured?_eq_some_iff
    {clause : Clause}
    {t argument : Text} :
    clause.captured? t = some argument ↔
      ∃ gap rest,
        clause.Cut t gap rest ∧
          Text.argument? 1 gap rest = some argument := by
  rw [captured?, Option.map_eq_some_iff]
  constructor
  · rintro ⟨found, hFound, rfl⟩
    rcases captures?_form_eq_some_iff.mp hFound with
      ⟨gap, rest, argument, hCut, hArgument, rfl⟩
    exact ⟨gap, rest, hCut, hArgument⟩
  · rintro ⟨gap, rest, hCut, hArgument⟩
    exact
      ⟨⟨[], argument⟩,
        captures?_form_eq_some_iff.mpr
          ⟨gap, rest, argument, hCut, hArgument, rfl⟩,
        rfl⟩

/- What is written depends on the captured argument alone. -/
theorem convert?_rule
    (clause : Clause)
    (t : Text) :
    clause.rule.convert? t =
      (clause.captured? t).map clause.write := by
  rw [Rule.convert?_eq_map_captures?, captured?,
    Option.map_map]
  congr 1
  funext found
  exact clause.output_rule t found

end Clause

end Translit

------------------------------------------------------------
-- Texts Without Padding
------------------------------------------------------------

namespace Translit

namespace Clause

variable {clause : Clause}

/- Something follows the gap unless padding ends the text. -/
theorem rest_ne_nil
    {t gap rest : Text}
    (hEnd : t.getLast?.all fun c => !isPadding c)
    (hCut : clause.Cut t gap rest) :
    rest ≠ [] := by
  rintro rfl
  rcases hCut.text with ⟨w, _, hText⟩
  rw [List.append_nil] at hText
  have hLast :=
    Text.getLast?_of_unindented_eq hText hCut.gap_ne_nil
  have hBlank : isBlank (gap.getLast hCut.gap_ne_nil) :=
    hCut.longest.mem _ (List.getLast_mem _)
  rw [← hLast, List.getLast?_eq_some_getLast hCut.gap_ne_nil]
    at hEnd
  simp [isPadding, hBlank] at hEnd

/-
  The argument in a line without padding is all that follows
  the gap.
-/
theorem captured?_of_line
    {line argument : Text}
    (hFeed : '\n' ∉ line)
    (hEnd : line.getLast?.all fun c => !isPadding c)
    (hCaptured : clause.captured? line = some argument) :
    ∃ gap, clause.Cut line gap argument := by
  rcases captured?_eq_some_iff.mp hCaptured with
    ⟨gap, rest, hCut, hArgument⟩
  have hRest := rest_ne_nil hEnd hCut
  have hLine : ∀ c ∈ rest, (c != '\n') := by
    intro c hMember
    rcases hCut.text with ⟨w, _, hText⟩
    have hSuffix : rest <:+ line := by
      apply List.IsSuffix.trans _ (List.dropWhile_suffix isBlank)
      rw [← Text.unindented, hText, ← List.append_assoc]
      exact List.suffix_append _ rest
    rw [bne_iff_ne]
    rintro rfl
    exact hFeed (hSuffix.subset hMember)
  have hWhole : argument = rest := by
    rw [Text.argument?, if_neg (by simpa using hRest),
      List.takeWhile_eq_self_iff.mpr hLine,
      Option.some_inj] at hArgument
    exact hArgument.symm
  rw [hWhole]
  exact ⟨gap, hCut⟩

/-
  A clause applies to a text exactly if it is cut into a
  keyword, a longest gap and a rest, and there is something
  to stand for the argument.  What is written is the text of
  the clause around that argument.  Without padding at the
  end of the text there is always a rest.  So where a clause
  wins a line of a document, its argument starts with no
  blank and ends with no padding.
-/
theorem captures_argument
    (clause : Clause)
    (t : Text) :
    (∀ argument,
        clause.captured? t = some argument ↔
          ∃ gap rest,
            clause.Cut t gap rest ∧
              Text.argument? 1 gap rest = some argument) ∧
      clause.rule.convert? t =
        (clause.captured? t).map clause.write ∧
      (t.stripped = t →
        ∀ gap rest, clause.Cut t gap rest → rest ≠ []) ∧
      ∀ (table : Table) (document : Text),
        t ∈ Text.lines document →
          (table.judge t).winner.bind (table[·]?) =
              some clause.rule →
            ∃ argument,
              clause.captured? t.stripped = some argument ∧
                (table.judge t).output =
                  clause.write argument ∧
                argument ≠ [] ∧
                (argument.head?.all fun c => !isBlank c) ∧
                argument.getLast?.all fun c =>
                  !isPadding c := by
  refine ⟨fun argument => captured?_eq_some_iff,
    clause.convert?_rule t, ?_, ?_⟩
  · intro hStripped gap rest hCut
    have hEnd := Text.getLast?_stripped t
    rw [hStripped] at hEnd
    exact rest_ne_nil hEnd hCut
  · intro table document hLine hWinner
    rw [Table.winner_judge, Table.bind_winner?] at hWinner
    have hOutput := Table.convert?_of_ruleFor? hWinner
    rw [convert?_rule] at hOutput
    rcases Option.map_eq_some_iff.mp hOutput with
      ⟨argument, hCaptured, hWritten⟩
    have hEnd := Text.getLast?_stripped t
    rcases captured?_of_line
        (Text.lineFeed_notMem_stripped hLine) hEnd
        hCaptured with
      ⟨gap, hCut⟩
    have hRest := rest_ne_nil hEnd hCut
    rcases hCut.text with ⟨w, _, hText⟩
    rw [← List.append_assoc] at hText
    rw [← Text.getLast?_of_unindented_eq hText hRest] at hEnd
    refine ⟨argument, hCaptured, ?_, hRest, hCut.longest.2,
      hEnd⟩
    rw [Table.output_judge, hWritten]

/-
  The gap of a condition ends the text, and a line has
  padding behind its condition.
-/
theorem captures_argument_padded :
    Clause.ifBranch.captured? "if \t\n" = some ['\t'] ∧
      Text.stripped "if a" = "if a" ∧
      Clause.ifBranch.Cut "if a" " " "a" ∧
      "a".toList ≠ [] ∧
      "  if  a && b\t ".toList ∈
        Text.lines "x\n  if  a && b\t \nend" ∧
      (Table.standard.judge "  if  a && b\t ").winner =
        some 4 ∧
      ∃ argument,
        Clause.ifBranch.captured?
              (Text.stripped "  if  a && b\t ") =
            some argument ∧
          (Table.standard.judge "  if  a && b\t ").output =
            Clause.ifBranch.write argument ∧
          argument ≠ [] ∧
          (argument.head?.all fun c => !isBlank c) ∧
          argument.getLast?.all fun c => !isPadding c := by
  have hOpen : Clause.ifBranch.Cut "if \t\n" " \t\n" [] :=
    ⟨⟨"if", by decide, by decide⟩, by decide, by decide⟩
  have hStripped : Text.stripped "if a" = "if a" := by
    decide
  have hCut : Clause.ifBranch.Cut "if a" " " "a" :=
    ⟨⟨"if", by decide, by decide⟩, by decide, by decide⟩
  have hLine :
      "  if  a && b\t ".toList ∈
        Text.lines "x\n  if  a && b\t \nend" := by
    decide
  have hWinner :
      (Table.standard.judge "  if  a && b\t ").winner =
        some 4 := by
    decide
  rcases captures_argument .ifBranch "if \t\n" with
    ⟨hCaptured, _, _, _⟩
  rcases captures_argument .ifBranch "if a" with
    ⟨_, _, hRest, _⟩
  rcases captures_argument .ifBranch "  if  a && b\t " with
    ⟨_, _, _, hLines⟩
  refine
    ⟨(hCaptured ['\t']).mpr ⟨_, _, hOpen, by decide⟩,
      hStripped, hCut, hRest hStripped _ _ hCut, hLine, hWinner,
      hLines Table.standard _ hLine ?_⟩
  rw [hWinner]
  rfl

end Clause

end Translit
