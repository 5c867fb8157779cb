import Mathlib.Data.List.Basic
import Mathlib.Order.Bounds.Basic
import Translit.Proofs.Pattern.Nullable
import Translit.Proofs.Run.WinningRule

/-
  Rules that read the front of a line.

  The forms of requirements, method headers, rescue clauses
  and exits do not reach the end of the line.  What they
  capture is a path, which is as short as it can be, or a
  run, which is as long as it can be.  A rescue clause and
  an exit may capture nothing, and then something else is
  written in its place.  The name of a method header is not
  empty, but it can be of signs that are not written.

  Key definitions include:
    * `Text.EndsPath`
    * `Text.HeaderCut`

  Main declarations:
    * `Form.captures?_keyword_eq_some_iff`
    * `Form.captures?_path_eq_some_iff`
    * `Rule.convert?_require_eq_some_iff`
    * `Rule.convert?_methodHeader_eq_some_iff`
    * `Rule.convert?_rescueClause_eq_some_iff`
    * `Rule.convert?_exit_eq_some_iff`
    * `Rule.fronts_written`
    * `Table.standard_headers`
-/

------------------------------------------------------------
-- Keywords
------------------------------------------------------------

namespace Translit

namespace Form

variable {t : Text}
variable {found : Captures}

/- A keyword stands at the end of the indentation. -/
theorem captures?_keyword_eq_some_iff
    {w : Text}
    {steps : Pattern}
    (hSolid : w.head?.any fun c => !isBlank c) :
    Pattern.captures? (keyword w ++ steps) t = some found ↔
      ∃ tail,
        t.unindented = w ++ tail ∧
          steps.captures? tail = some found := by
  have hStarts :
      Pattern.startsSolid (.pass (.word w) :: steps) := by
    simpa [Pattern.startsSolid, Step.pass, Piece.word,
      Piece.startsSolid] using hSolid
  have hForm :
      Pattern.captures? (keyword w ++ steps) t =
        Pattern.captures? (.pass (.word w) :: steps)
          t.unindented :=
    Pattern.captures?_indented t hStarts
  rw [hForm, Pattern.captures?_word_eq_some_iff]

end Form

end Translit

------------------------------------------------------------
-- Paths
------------------------------------------------------------

namespace Translit

namespace Text

/-
  A path may end at a position of a text: there is a quote,
  and the characters before it are some and hold no line
  feed.
-/
def EndsPath
    (t : Text)
    (k : Nat) : Prop :=
  1 ≤ k ∧ t[k]?.any CharClass.quote.holds ∧ '\n' ∉ t.take k

instance
    (t : Text)
    (k : Nat) :
    Decidable (EndsPath t k) := by
  unfold EndsPath
  infer_instance

end Text

namespace Form

/- A path and the quote behind it. -/
def path : Pattern :=
  [ .keep .body (.run .inLine 1 .shortest),
    .pass (.one .quote) ]

theorem isSome_match?_quote
    {t : Text}
    {k : Nat}
    (hQuote : t[k]?.any CharClass.quote.holds) :
    (Pattern.match? [.pass (.one .quote)]
      (t.drop k)).isSome := by
  rw [← List.head?_drop] at hQuote
  cases hRest : t.drop k with
  | nil => simp [hRest] at hQuote
  | cons c rest =>
      rw [hRest, List.head?_cons, Option.any_some] at hQuote
      simp [Pattern.match?, Step.pass, Piece.take?, hQuote]

/- What is captured is the shortest path there is. -/
theorem exists_isLeast_of_captures?_path
    {t : Text}
    {found : Captures}
    (hFound : path.captures? t = some found) :
    ∃ k,
      IsLeast {k | Text.EndsPath t k} k ∧
        found = ⟨[], t.take k⟩ := by
  rw [path, Pattern.captures?_cons] at hFound
  rcases Option.map_eq_some_iff.mp hFound with
    ⟨⟨kept, inner, last⟩, hTake, rfl⟩
  have hTake :
      Piece.takeMore .inLine
          (Pattern.match? [.pass (.one .quote)]) 1 [] t =
        some (kept, inner, last) :=
    hTake
  rcases Piece.exists_of_takeMore_eq_some hTake with
    ⟨body, rest, hText, hKept, hLeast, hRun, hNext⟩
  rw [List.reverse_nil, List.nil_append] at hKept
  subst hKept
  have hInner :
      Pattern.captures? [.pass (.one .quote)] rest =
        some inner := by
    rw [Pattern.captures?, hNext, Option.map_some]
  rcases Pattern.captures?_one_eq_some_iff.mp hInner with
    ⟨quote, tail, _, rfl, hQuote, hEmpty, rfl⟩
  cases hEmpty
  have hPath : t.take kept.length = kept := by
    rw [hText, List.take_left]
  refine ⟨kept.length, ⟨⟨hLeast, ?_, ?_⟩, ?_⟩, ?_⟩
  · rw [← List.head?_drop, hText, List.drop_left,
      List.head?_cons, Option.any_some]
    exact hQuote
  · rw [hPath]
    intro hFeed
    have hClass := hRun '\n' hFeed
    simp [CharClass.holds] at hClass
  · -- A quote further left would have been accepted.
    intro j hEnds
    by_contra hLess
    rcases hEnds with ⟨hPositive, hOther, _⟩
    have hLength : (t.take j).length = j := by
      rw [List.length_take, hText, List.length_append]
      omega
    have hNone :=
      Piece.next_eq_none_of_takeMore hTake
        (List.take_append_drop j t).symm
        (by rw [hLength]; exact hPositive)
        (by rw [hLength, List.length_nil]; omega)
    have hSome := isSome_match?_quote hOther
    rw [hNone] at hSome
    cases hSome
  · rw [hPath]
    simp [Step.keep]

theorem captures?_path_eq_some_iff
    {t : Text}
    {found : Captures} :
    path.captures? t = some found ↔
      ∃ k,
        IsLeast {k | Text.EndsPath t k} k ∧
          found = ⟨[], t.take k⟩ := by
  constructor
  · exact exists_isLeast_of_captures?_path
  · rintro ⟨k, hLeast, rfl⟩
    rcases hLeast.1 with ⟨hPositive, hQuote, hFeed⟩
    have hLength : k < t.length := by
      by_contra hBeyond
      rw [List.getElem?_eq_none (Nat.not_lt.mp hBeyond)]
        at hQuote
      cases hQuote
    have hBody :
        (Piece.run .inLine 1 .shortest).Takes (t.take k)
          (t.drop k) := by
      refine ⟨?_, ?_⟩
      · rw [List.length_take]
        omega
      · intro c hMember
        rw [CharClass.holds, bne_iff_ne]
        rintro rfl
        exact hFeed hMember
    have hSome : (path.captures? t).isSome := by
      rw [← List.take_append_drop k t]
      apply Pattern.isSome_captures?_cons
      · exact hBody
      · rw [Pattern.isSome_captures?]
        exact isSome_match?_quote hQuote
    rcases Option.isSome_iff_exists.mp hSome with
      ⟨found, hFound⟩
    rcases exists_isLeast_of_captures?_path hFound with
      ⟨j, hOther, rfl⟩
    rw [hFound, hOther.unique hLeast]

end Form

end Translit

------------------------------------------------------------
-- Requirements And Method Headers
------------------------------------------------------------

namespace Translit

namespace Text

/-
  Behind its indentation a text is `def`, a gap, a name that
  goes as far as it can, and a rest.
-/
structure HeaderCut
    (t gap name rest : Text) : Prop where
  text :
    t.unindented = "def".toList ++ (gap ++ (name ++ rest))
  gap_ne_nil : gap ≠ []
  gap_blank : gap.all isBlank
  name_ne_nil : name ≠ []
  name_longest : IsLongest CharClass.method.holds name rest

end Text

namespace Rule

variable {t : Text}
variable {found : Captures}

theorem captures?_require_eq_some_iff :
    Rule.require.form.captures? t = some found ↔
      ∃ gap quote tail k,
        t.unindented =
            "require".toList ++ (gap ++ quote :: tail) ∧
          gap ≠ [] ∧
          gap.all isBlank ∧
          CharClass.quote.holds quote ∧
          IsLeast {k | Text.EndsPath tail k} k ∧
          found = ⟨[], tail.take k⟩ := by
  have hRejects :
      Pattern.Rejects (.pass (.one .quote) :: Form.path)
        .blank :=
    Pattern.rejects_blank_of_startsSolid (by decide)
  have hForm :
      Rule.require.form.captures? t = some found ↔
        ∃ rest,
          t.unindented = "require".toList ++ rest ∧
            Pattern.captures?
                (.pass .gap :: .pass (.one .quote) ::
                  Form.path) rest =
              some found :=
    Form.captures?_keyword_eq_some_iff (by decide)
  rw [hForm]
  constructor
  · rintro ⟨_, hText, hRest⟩
    rcases (Pattern.captures?_gap_eq_some_iff
        hRejects.spares).mp hRest with
      ⟨gap, _, rfl, hGap, hLeast, hRest⟩
    rcases Pattern.captures?_one_eq_some_iff.mp hRest with
      ⟨quote, tail, _, rfl, hQuote, hPath, rfl⟩
    rcases Form.captures?_path_eq_some_iff.mp hPath with
      ⟨k, hEnds, rfl⟩
    exact
      ⟨gap, quote, tail, k, hText,
        List.ne_nil_of_length_pos hLeast, hGap.1, hQuote,
        hEnds, rfl⟩
  · rintro ⟨gap, quote, tail, k, hText, hSome, hGap, hQuote,
      hEnds, rfl⟩
    have hPath :=
      Form.captures?_path_eq_some_iff.mpr ⟨k, hEnds, rfl⟩
    have hRest :
        Pattern.captures? (.pass (.one .quote) :: Form.path)
            (quote :: tail) =
          some ⟨[], tail.take k⟩ :=
      Pattern.captures?_one_eq_some_iff.mpr
        ⟨quote, tail, _, rfl, hQuote, hPath, rfl⟩
    refine ⟨gap ++ quote :: tail, hText, ?_⟩
    exact
      (Pattern.captures?_gap_eq_some_iff hRejects.spares).mpr
        ⟨gap, quote :: tail, rfl,
          hRejects.isLongest hGap hRest,
          List.length_pos_iff.mpr hSome, hRest⟩

theorem captures?_methodHeader_eq_some_iff :
    Rule.methodHeader.form.captures? t = some found ↔
      ∃ gap name rest,
        Text.HeaderCut t gap name rest ∧
          found = ⟨name, []⟩ := by
  have hRejects :
      Pattern.Rejects
        [.keep .name (.run .method 1 .longest)] .blank :=
    Pattern.rejects_blank_of_startsSolid (by decide)
  have hForm :
      Rule.methodHeader.form.captures? t = some found ↔
        ∃ tail,
          t.unindented = "def".toList ++ tail ∧
            Pattern.captures?
                [ .pass .gap,
                  .keep .name (.run .method 1 .longest) ]
                tail =
              some found :=
    Form.captures?_keyword_eq_some_iff (by decide)
  rw [hForm]
  constructor
  · rintro ⟨_, hText, hTail⟩
    rcases (Pattern.captures?_gap_eq_some_iff
        hRejects.spares).mp hTail with
      ⟨gap, _, rfl, hGap, hLeast, hName⟩
    rcases Pattern.captures?_name_eq_some_iff.mp hName with
      ⟨name, rest, rfl, hLongest, hSome, rfl⟩
    refine ⟨gap, name, rest, ?_, rfl⟩
    exact
      ⟨hText, List.ne_nil_of_length_pos hLeast, hGap.1,
        List.ne_nil_of_length_pos hSome, hLongest⟩
  · rintro ⟨gap, name, rest, hCut, rfl⟩
    have hName :=
      Pattern.captures?_name_eq_some_iff.mpr
        ⟨name, rest, rfl, hCut.name_longest,
          List.length_pos_iff.mpr hCut.name_ne_nil, rfl⟩
    refine ⟨gap ++ (name ++ rest), hCut.text, ?_⟩
    exact
      (Pattern.captures?_gap_eq_some_iff hRejects.spares).mpr
        ⟨gap, name ++ rest, rfl,
          hRejects.isLongest hCut.gap_blank hName,
          List.length_pos_iff.mpr hCut.gap_ne_nil, hName⟩

end Rule

end Translit

------------------------------------------------------------
-- Rescue Clauses And Exits
------------------------------------------------------------

namespace Translit

namespace Rule

variable {t : Text}
variable {found : Captures}

theorem captures?_rescueClause_eq_some_iff :
    Rule.rescueClause.form.captures? t = some found ↔
      ∃ gap name rest,
        t.unindented =
            "rescue".toList ++ (gap ++ (name ++ rest)) ∧
          Text.IsLongest isBlank gap (name ++ rest) ∧
          Text.IsLongest CharClass.name.holds name rest ∧
          found = ⟨name, []⟩ := by
  have hSpares :
      Pattern.Spares [.keep .name (.run .name 0 .longest)]
        .blank :=
    Pattern.spares_of_isNullable _ (by decide)
  have hForm :
      Rule.rescueClause.form.captures? t = some found ↔
        ∃ tail,
          t.unindented = "rescue".toList ++ tail ∧
            Pattern.captures?
                [ .pass .blanks,
                  .keep .name (.run .name 0 .longest) ]
                tail =
              some found :=
    Form.captures?_keyword_eq_some_iff (by decide)
  rw [hForm]
  constructor
  · rintro ⟨_, hText, hTail⟩
    rcases (Pattern.captures?_gap_eq_some_iff hSpares).mp
        hTail with
      ⟨gap, _, rfl, hGap, _, hName⟩
    rcases Pattern.captures?_name_eq_some_iff.mp hName with
      ⟨name, rest, rfl, hLongest, _, rfl⟩
    exact ⟨gap, name, rest, hText, hGap, hLongest, rfl⟩
  · rintro ⟨gap, name, rest, hText, hGap, hLongest, rfl⟩
    have hName :=
      Pattern.captures?_name_eq_some_iff.mpr
        ⟨name, rest, rfl, hLongest, Nat.zero_le _, rfl⟩
    refine ⟨gap ++ (name ++ rest), hText, ?_⟩
    exact
      (Pattern.captures?_gap_eq_some_iff hSpares).mpr
        ⟨gap, name ++ rest, rfl, hGap, Nat.zero_le _, hName⟩

/- Digits are taken whether or not a bracket follows. -/
theorem captures?_digits_eq_some_iff :
    Pattern.captures?
          [ .keep .body (.run .digit 0 .longest),
            .pass (.optional ')') ] t =
        some found ↔
      ∃ code rest,
        t = code ++ rest ∧
          Text.IsLongest CharClass.digit.holds code rest ∧
          found = ⟨[], code⟩ := by
  have hSpares :
      Pattern.Spares [.pass (.optional ')')] .digit :=
    Pattern.spares_of_isNullable _ (by decide)
  constructor
  · intro hFound
    rcases (Pattern.captures?_run_eq_some_iff hSpares).mp
        hFound with
      ⟨code, rest, _, rfl, hLongest, _, hClosing, rfl⟩
    rw [Pattern.captures?_optional_last] at hClosing
    cases hClosing
    exact ⟨code, rest, rfl, hLongest, by simp⟩
  · rintro ⟨code, rest, rfl, hLongest, rfl⟩
    have hFound :
        Pattern.captures?
            [ .keep .body (.run .digit 0 .longest),
              .pass (.optional ')') ] (code ++ rest) =
          some ⟨[], code ++ []⟩ :=
      Pattern.captures?_run_of_isLongest hLongest
        (Nat.zero_le _)
        (Pattern.captures?_optional_last ')' rest)
    rwa [List.append_nil] at hFound

/-
  The digits of an exit stand behind a bracket or directly
  behind the keyword.
-/
theorem captures?_exit_eq_some_iff :
    Rule.exit.form.captures? t = some found ↔
      ∃ bracket code rest,
        t.unindented =
            "exit".toList ++ (bracket ++ (code ++ rest)) ∧
          (bracket = ['('] ∨
            bracket = [] ∧ (code ++ rest).head? ≠ some '(') ∧
          Text.IsLongest CharClass.digit.holds code rest ∧
          found = ⟨[], code⟩ := by
  have hForm :
      Rule.exit.form.captures? t = some found ↔
        ∃ tail,
          t.unindented = "exit".toList ++ tail ∧
            Pattern.captures?
                [ .pass (.optional '('),
                  .keep .body (.run .digit 0 .longest),
                  .pass (.optional ')') ] tail =
              some found :=
    Form.captures?_keyword_eq_some_iff (by decide)
  rw [hForm]
  constructor
  · rintro ⟨_, hText, hTail⟩
    rcases (Pattern.captures?_optional_eq_some_iff
        (by decide)).mp hTail with
      ⟨bracket, _, rfl, hBracket, hRest⟩
    rcases captures?_digits_eq_some_iff.mp hRest with
      ⟨code, rest, rfl, hLongest, rfl⟩
    exact
      ⟨bracket, code, rest, hText, hBracket, hLongest, rfl⟩
  · rintro ⟨bracket, code, rest, hText, hBracket, hLongest, rfl⟩
    have hRest :=
      captures?_digits_eq_some_iff.mpr
        ⟨code, rest, rfl, hLongest, rfl⟩
    refine ⟨bracket ++ (code ++ rest), hText, ?_⟩
    exact
      (Pattern.captures?_optional_eq_some_iff
        (by decide)).mpr
        ⟨bracket, code ++ rest, rfl, hBracket, hRest⟩

end Rule

end Translit

------------------------------------------------------------
-- What Is Written
------------------------------------------------------------

namespace Translit

/- A method name loses its signs wherever they stand. -/
theorem methodName_eq_filter
    (name : Text) :
    methodName name =
      name.filter fun c => c ∉ ['!', '?', '='] := by
  apply List.filter_congr
  intro c _
  rw [Bool.eq_iff_iff]
  simp [and_assoc]

namespace Rule

variable {t output : Text}

theorem convert?_require_eq_some_iff :
    Rule.require.convert? t = some output ↔
      ∃ gap quote tail k,
        t.unindented =
            "require".toList ++ (gap ++ quote :: tail) ∧
          gap ≠ [] ∧
          gap.all isBlank ∧
          CharClass.quote.holds quote ∧
          IsLeast {k | Text.EndsPath tail k} k ∧
          output =
            "import ".toList ++
              (tail.take k).map fun c =>
                if c = '/' then '.' else c := by
  simp only [convert?_eq_some_iff,
    captures?_require_eq_some_iff]
  constructor
  · rintro ⟨_, ⟨gap, quote, tail, k, hText, hSome, hGap,
      hQuote, hEnds, rfl⟩, rfl⟩
    exact
      ⟨gap, quote, tail, k, hText, hSome, hGap, hQuote, hEnds,
        rfl⟩
  · rintro ⟨gap, quote, tail, k, hText, hSome, hGap, hQuote,
      hEnds, rfl⟩
    exact
      ⟨_, ⟨gap, quote, tail, k, hText, hSome, hGap, hQuote,
        hEnds, rfl⟩, rfl⟩

theorem convert?_methodHeader_eq_some_iff :
    Rule.methodHeader.convert? t = some output ↔
      ∃ gap name rest,
        Text.HeaderCut t gap name rest ∧
          output =
            "def ".toList ++
              (name.filter fun c => c ∉ ['!', '?', '=']) ++
              "():".toList := by
  have hOutput :
      ∀ name,
        Rule.methodHeader.output t ⟨name, []⟩ =
          "def ".toList ++
            (name.filter fun c => c ∉ ['!', '?', '=']) ++
            "():".toList := by
    intro name
    rw [← methodName_eq_filter]
    rfl
  simp only [convert?_eq_some_iff,
    captures?_methodHeader_eq_some_iff]
  constructor
  · rintro ⟨_, ⟨gap, name, rest, hCut, rfl⟩, rfl⟩
    exact ⟨gap, name, rest, hCut, hOutput name⟩
  · rintro ⟨gap, name, rest, hCut, rfl⟩
    exact ⟨_, ⟨gap, name, rest, hCut, rfl⟩, hOutput name⟩

theorem convert?_rescueClause_eq_some_iff :
    Rule.rescueClause.convert? t = some output ↔
      ∃ gap name rest,
        t.unindented =
            "rescue".toList ++ (gap ++ (name ++ rest)) ∧
          Text.IsLongest isBlank gap (name ++ rest) ∧
          Text.IsLongest CharClass.name.holds name rest ∧
          output =
            "except ".toList ++
              (if name = [] then "Exception".toList
                else name) ++
              ":".toList := by
  have hOutput :
      ∀ name,
        Rule.rescueClause.output t ⟨name, []⟩ =
          "except ".toList ++
            (if name = [] then "Exception".toList
              else name) ++
            ":".toList := by
    intro name
    cases name <;> rfl
  simp only [convert?_eq_some_iff,
    captures?_rescueClause_eq_some_iff]
  constructor
  · rintro ⟨_, ⟨gap, name, rest, hText, hGap, hName, rfl⟩, rfl⟩
    exact ⟨gap, name, rest, hText, hGap, hName, hOutput name⟩
  · rintro ⟨gap, name, rest, hText, hGap, hName, rfl⟩
    exact
      ⟨_, ⟨gap, name, rest, hText, hGap, hName, rfl⟩,
        hOutput name⟩

theorem convert?_exit_eq_some_iff :
    Rule.exit.convert? t = some output ↔
      ∃ bracket code rest,
        t.unindented =
            "exit".toList ++ (bracket ++ (code ++ rest)) ∧
          (bracket = ['('] ∨
            bracket = [] ∧ (code ++ rest).head? ≠ some '(') ∧
          Text.IsLongest CharClass.digit.holds code rest ∧
          output =
            "sys.exit(".toList ++
              (if code = [] then "0".toList else code) ++
              ")".toList := by
  have hOutput :
      ∀ code,
        Rule.exit.output t ⟨[], code⟩ =
          "sys.exit(".toList ++
            (if code = [] then "0".toList else code) ++
            ")".toList := by
    intro code
    cases code <;> rfl
  simp only [convert?_eq_some_iff, captures?_exit_eq_some_iff]
  constructor
  · rintro ⟨_, ⟨bracket, code, rest, hText, hBracket, hCode,
      rfl⟩, rfl⟩
    exact
      ⟨bracket, code, rest, hText, hBracket, hCode,
        hOutput code⟩
  · rintro ⟨bracket, code, rest, hText, hBracket, hCode, rfl⟩
    exact
      ⟨_, ⟨bracket, code, rest, hText, hBracket, hCode, rfl⟩,
        hOutput code⟩

/- Nothing but the keyword is needed for a rescue clause. -/
theorem isSome_convert?_rescueClause :
    (Rule.rescueClause.convert? t).isSome ↔
      "rescue".toList <+: t.unindented := by
  rw [Option.isSome_iff_exists]
  constructor
  · rintro ⟨output, hOutput⟩
    rcases convert?_rescueClause_eq_some_iff.mp hOutput with
      ⟨gap, name, rest, hText, _, _, _⟩
    rw [hText]
    exact List.prefix_append _ _
  · rintro ⟨tail, hText⟩
    rcases Text.exists_isLongest isBlank tail with
      ⟨gap, last, rfl, hGap⟩
    rcases Text.exists_isLongest CharClass.name.holds last with
      ⟨name, rest, rfl, hName⟩
    exact
      ⟨_, convert?_rescueClause_eq_some_iff.mpr
        ⟨gap, name, rest, hText.symm, hGap, hName, rfl⟩⟩

/- Nothing but the keyword is needed for an exit. -/
theorem isSome_convert?_exit :
    (Rule.exit.convert? t).isSome ↔
      "exit".toList <+: t.unindented := by
  rw [Option.isSome_iff_exists]
  constructor
  · rintro ⟨output, hOutput⟩
    rcases convert?_exit_eq_some_iff.mp hOutput with
      ⟨bracket, code, rest, hText, _, _, _⟩
    rw [hText]
    exact List.prefix_append _ _
  · rintro ⟨tail, hText⟩
    have hBracket :
        ∃ bracket last,
          tail = bracket ++ last ∧
            (bracket = ['('] ∨
              bracket = [] ∧ last.head? ≠ some '(') := by
      by_cases hHead : tail.head? = some '('
      · rcases List.head?_eq_some_iff.mp hHead with
          ⟨last, rfl⟩
        exact ⟨['('], last, rfl, Or.inl rfl⟩
      · exact ⟨[], tail, rfl, Or.inr ⟨rfl, hHead⟩⟩
    rcases hBracket with ⟨bracket, last, rfl, hBracket⟩
    rcases Text.exists_isLongest CharClass.digit.holds
        last with
      ⟨code, rest, rfl, hCode⟩
    exact
      ⟨_, convert?_exit_eq_some_iff.mpr
        ⟨bracket, code, rest, hText.symm, hBracket, hCode,
          rfl⟩⟩

/-
  What the rules that read the front of a line accept, and
  what they write.  A requirement ends its path at the first
  quote that it can, and its slashes become dots.  A method
  header has a name as long as it can be, without its signs.
  A rescue clause and an exit apply wherever their keyword
  starts the text.  A class or a code that is not there is
  replaced by the most general one.
-/
theorem fronts_written
    (t : Text) :
    (∀ output,
        Rule.require.convert? t = some output ↔
          ∃ gap quote tail k,
            t.unindented =
                "require".toList ++ (gap ++ quote :: tail) ∧
              gap ≠ [] ∧
              gap.all isBlank ∧
              CharClass.quote.holds quote ∧
              IsLeast {k | Text.EndsPath tail k} k ∧
              output =
                "import ".toList ++
                  (tail.take k).map fun c =>
                    if c = '/' then '.' else c) ∧
      (∀ output,
        Rule.methodHeader.convert? t = some output ↔
          ∃ gap name rest,
            Text.HeaderCut t gap name rest ∧
              output =
                "def ".toList ++
                  (name.filter fun c =>
                    c ∉ ['!', '?', '=']) ++
                  "():".toList) ∧
      ((Rule.rescueClause.convert? t).isSome ↔
        "rescue".toList <+: t.unindented) ∧
      (∀ output,
        Rule.rescueClause.convert? t = some output ↔
          ∃ gap name rest,
            t.unindented =
                "rescue".toList ++ (gap ++ (name ++ rest)) ∧
              Text.IsLongest isBlank gap (name ++ rest) ∧
              Text.IsLongest CharClass.name.holds name rest ∧
              output =
                "except ".toList ++
                  (if name = [] then "Exception".toList
                    else name) ++
                  ":".toList) ∧
      ((Rule.exit.convert? t).isSome ↔
        "exit".toList <+: t.unindented) ∧
      ∀ output,
        Rule.exit.convert? t = some output ↔
          ∃ bracket code rest,
            t.unindented =
                "exit".toList ++
                  (bracket ++ (code ++ rest)) ∧
              (bracket = ['('] ∨
                bracket = [] ∧
                  (code ++ rest).head? ≠ some '(') ∧
              Text.IsLongest CharClass.digit.holds code
                rest ∧
              output =
                "sys.exit(".toList ++
                  (if code = [] then "0".toList else code) ++
                  ")".toList := by
  refine ⟨?_, ?_, ?_, ?_, ?_, ?_⟩
  · intro output
    exact convert?_require_eq_some_iff
  · intro output
    exact convert?_methodHeader_eq_some_iff
  · exact isSome_convert?_rescueClause
  · intro output
    exact convert?_rescueClause_eq_some_iff
  · exact isSome_convert?_exit
  · intro output
    exact convert?_exit_eq_some_iff

end Rule

end Translit

------------------------------------------------------------
-- Names Of Method Headers
------------------------------------------------------------

namespace Translit

/- What is left of a method name is a name. -/
theorem all_name_filter_method
    {name : Text}
    (hName : name.all CharClass.method.holds) :
    (name.filter fun c => c ∉ ['!', '?', '=']).all
      CharClass.name.holds := by
  rw [List.all_eq_true] at hName ⊢
  intro c hMember
  rcases List.mem_filter.mp hMember with ⟨hIn, hSign⟩
  have hClass := hName c hIn
  simp only [List.mem_cons, List.not_mem_nil, or_false,
    not_or, decide_eq_true_eq] at hSign
  simpa [CharClass.holds, hSign] using hClass

namespace Table

/-
  A method header of the standard table has what is left of
  the name without its signs.  That is a name, unless the
  name is all signs, and then nothing is left.
-/
theorem standard_headers
    (line : Text)
    (hRule :
      (standard.judge line).winner.bind (standard[·]?) =
        some .methodHeader) :
    ∃ gap run rest name,
      Text.HeaderCut line.stripped gap run rest ∧
        (standard.judge line).output =
          "def ".toList ++ name ++ "():".toList ∧
        name.all CharClass.name.holds ∧
        (name ≠ [] ↔ ∃ c ∈ run, c ∉ ['!', '?', '=']) := by
  rw [winner_judge, bind_winner?] at hRule
  rcases Rule.convert?_methodHeader_eq_some_iff.mp
      (convert?_of_ruleFor? hRule) with
    ⟨gap, run, rest, hCut, hOutput⟩
  refine ⟨gap, run, rest, _, hCut, ?_,
    all_name_filter_method hCut.name_longest.1, ?_⟩
  · rw [output_judge, hOutput]
  · rw [Ne, List.filter_eq_nil_iff]
    simp

/- A header keeps what stands in front of its sign. -/
theorem standard_headers_save :
    (standard.judge " def save!(x) ").winner.bind
          (standard[·]?) =
        some .methodHeader ∧
      ∃ gap run rest name,
        Text.HeaderCut (Text.stripped " def save!(x) ") gap run
            rest ∧
          (standard.judge " def save!(x) ").output =
            "def ".toList ++ name ++ "():".toList ∧
          name.all CharClass.name.holds ∧
          (name ≠ [] ↔ ∃ c ∈ run, c ∉ ['!', '?', '=']) := by
  have hRule :
      (standard.judge " def save!(x) ").winner.bind
          (standard[·]?) =
        some .methodHeader := by
    decide
  exact ⟨hRule, standard_headers " def save!(x) " hRule⟩

/- The header of the operator `!` is left without a name. -/
theorem standard_header_nameless :
    ¬∀ line : Text,
      (standard.judge line).winner.bind (standard[·]?) =
          some .methodHeader →
        ∃ name : Text,
          (standard.judge line).output =
              "def ".toList ++ name ++ "():".toList ∧
            name ≠ [] ∧
            name.all CharClass.name.holds := by
  intro hNamed
  have hRule :
      (standard.judge "def !").winner.bind (standard[·]?) =
        some .methodHeader := by
    decide
  have hOutput :
      (standard.judge "def !").output =
        "def ".toList ++ [] ++ "():".toList := by
    decide
  rcases hNamed "def !" hRule with ⟨name, hHeader, hSome, _⟩
  rw [hOutput] at hHeader
  have hEmpty : [] = name :=
    List.append_cancel_left (List.append_cancel_right hHeader)
  exact hSome hEmpty.symm

end Table

end Translit
