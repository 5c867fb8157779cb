import Translit.Proofs.Conversion.PhysicalLines

/-
  The manual marker as a search key.

  The physical lines of a converted document that start with
  the marker are the lines left for conversion by hand, and
  comments that had the marker already.  No other rule can
  write such a line: most write another first character, and
  the notes that start with a hash go on differently.

  Main declarations:
    * `Rule.not_marker_output`
    * `Rule.not_marker_of_convert?`
    * `Table.countP_marker_firstOutput`
    * `countP_marker_convert`
-/

------------------------------------------------------------
-- Other Openings
------------------------------------------------------------

namespace Translit

/- The marker starts with a hash. -/
theorem not_marker_of_head?
    {t : Text}
    (hHead : t.head? ≠ some '#') :
    ¬manualMarker <+: t := by
  rintro ⟨rest, rfl⟩
  exact hHead rfl

/- A name and a value do not start with a hash. -/
theorem head?_assignment_ne
    {name value : Text}
    (hName : '#' ∉ name) :
    (name ++ " = ".toList ++ value).head? ≠ some '#' := by
  cases name with
  | nil => exact (by decide : some ' ' ≠ some '#')
  | cons c name =>
      intro hHead
      have hEq : c = '#' := Option.some.inj hHead
      exact hName (by simp [hEq])

/- A note on a call goes on differently after `# TODO: `. -/
theorem not_marker_callNote
    (receiver call : Text) :
    ¬manualMarker <+: callNote receiver call := by
  intro hMarker
  have hNote :
      "# TODO: Translate ".toList <+:
        callNote receiver call := by
    unfold callNote
    rw [List.append_assoc, List.append_assoc]
    exact List.prefix_append _ _
  rcases List.prefix_or_prefix_of_prefix hMarker hNote with
    hFront | hFront
  · exact absurd hFront (by decide)
  · exact absurd hFront (by decide)

namespace Rule

variable {rule : Rule}
variable {line rest : Text}
variable {found : Captures}

/- Names of constants and variables hold no hash. -/
theorem hash_notMem_name
    (hRule : rule ∈ [Rule.constant, Rule.assignment])
    (hReads : rule.form.Reads line found rest) :
    '#' ∉ found.name := by
  have hAvoids :
      ∀ rule ∈ [Rule.constant, Rule.assignment],
        rule.form.avoids .name '#' := by
    decide
  exact Pattern.notMem_part_of_reads (hAvoids rule hRule)
    hReads

/- Both lines of a constant start otherwise. -/
theorem not_marker_output_constant
    {piece : Text}
    (hReads : Rule.constant.form.Reads line found rest)
    (hPiece :
      piece ∈
        (Rule.constant.output line found).splitOn '\n') :
    ¬manualMarker <+: piece := by
  rw [splitOn_output_constant hReads] at hPiece
  rcases List.mem_cons.mp hPiece with rfl | hPiece
  · decide
  · have hName :=
      hash_notMem_name (by decide) hReads
    have hLower :=
      notMem_map_toLower (by decide : '#' < 'a') hName
    rw [List.mem_singleton.mp hPiece]
    exact not_marker_of_head? (head?_assignment_ne hLower)

/- The other rules that do not copy write another line. -/
theorem not_marker_output
    (hRule : rule ≠ .constant)
    (hCopying : rule ∉ copying)
    (hReads : rule.form.Reads line found rest) :
    ¬manualMarker <+: rule.output line found := by
  cases rule with
  | comment | manual => exact absurd (by decide) hCopying
  | constant => exact absurd rfl hRule
  | assignment =>
      exact not_marker_of_head?
        (head?_assignment_ne
          (hash_notMem_name (by decide) hReads))
  | fileUtilsCall | fileCall => exact not_marker_callNote _ _
  | ensureClause =>
      exact
        (by decide :
          ¬manualMarker <+:
            "# NOTE: Python 'finally:' equivalent".toList)
  -- Each of the others is empty or starts with a letter.
  | _ => exact not_marker_of_head? (by nofun)

/- No line that such a rule writes starts with the marker. -/
theorem not_marker_of_convert?
    {output piece : Text}
    (hCopying : rule ∉ copying)
    (hConvert : rule.convert? line = some output)
    (hPiece : piece ∈ output.splitOn '\n') :
    ¬manualMarker <+: piece := by
  rcases exists_of_convert?_eq_some hConvert with
    ⟨found, rest, hReads, rfl⟩
  by_cases hRule : rule = .constant
  · subst hRule
    exact not_marker_output_constant hReads hPiece
  · have hLine : rule ∈ copying → '\n' ∉ line := by
      intro hMember
      exact absurd hMember hCopying
    rw [splitOn_output hRule hLine hReads,
      List.mem_singleton] at hPiece
    rw [hPiece]
    exact not_marker_output hRule hCopying hReads

end Rule

end Translit

------------------------------------------------------------
-- Marked Lines
------------------------------------------------------------

namespace Translit

namespace Table

variable {table : Table}
variable {line : Text}

/- A line that the catch-all wins is marked. -/
theorem firstOutput_of_manual
    (hRule : table.ruleFor? line = some .manual) :
    table.firstOutput line = manualMarker ++ line := by
  rcases exists_of_ruleFor? hRule with
    ⟨found, rest, _, hOutput⟩
  exact hOutput

/- A comment is written as it is. -/
theorem firstOutput_of_comment
    (hRule : table.ruleFor? line = some .comment) :
    table.firstOutput line = line := by
  rcases exists_of_ruleFor? hRule with
    ⟨found, rest, _, hOutput⟩
  exact hOutput

/-
  Of what is written for a line one piece has the marker if
  it is left for conversion by hand, or a comment with it.
-/
theorem countP_marker_firstOutput
    (hLine : '\n' ∉ line) :
    (((standard.firstOutput line).splitOn '\n').countP
        fun piece => manualMarker <+: piece) =
      (if standard.ruleFor? line = some .manual then 1
        else 0) +
        if standard.ruleFor? line = some .comment ∧
          manualMarker <+: line
        then 1 else 0 := by
  rcases exists_ruleFor?_standard line with ⟨rule, hRule⟩
  by_cases hManual : rule = .manual
  · subst hManual
    have hMarked : '\n' ∉ manualMarker ++ line :=
      List.not_mem_append (by decide) hLine
    rw [firstOutput_of_manual hRule, hRule,
      List.splitOn_eq_singleton hMarked]
    simp
  by_cases hComment : rule = .comment
  · subst hComment
    rw [firstOutput_of_comment hRule, hRule,
      List.splitOn_eq_singleton hLine,
      List.countP_singleton]
    simp
  · have hCopying : rule ∉ Rule.copying := by
      simp [Rule.copying, hManual, hComment]
    have hNone :
        (((standard.firstOutput line).splitOn '\n').countP
          fun piece => manualMarker <+: piece) = 0 := by
      rw [List.countP_eq_zero]
      intro piece hPiece
      have hPlain :=
        Rule.not_marker_of_convert? hCopying
          (convert?_of_ruleFor? hRule) hPiece
      simpa using hPlain
    rw [hNone, hRule]
    simp [hManual, hComment]

/- The marked physical lines of a document, line by line. -/
theorem countP_marker_text_run
    (keepRecords : Bool)
    {document : Text}
    (hDocument : document ≠ []) :
    (((standard.run keepRecords document).text.splitOn
        '\n').countP fun piece => manualMarker <+: piece) =
      standard.linesOf .manual document +
        ((Text.lines document).countP fun line =>
          standard.ruleFor? line.stripped = some .comment ∧
            manualMarker <+: line.stripped) := by
  have hEntries :
      (standard.run keepRecords document).entries ≠ [] := by
    rw [entries_run]
    simpa using hDocument
  calc
    _ = ((Text.lines document).map fun line =>
          (if standard.ruleFor? line.stripped = some .manual
            then 1 else 0) +
            if standard.ruleFor? line.stripped =
                some .comment ∧
              manualMarker <+: line.stripped
            then 1 else 0).sum := by
        rw [Run.text, Text.splitOn_joinLines hEntries,
          List.countP_flatMap, entries_run, List.map_map]
        congr 1
        apply List.map_congr_left
        intro line hLine
        exact countP_marker_firstOutput
          (Text.lineFeed_notMem_stripped hLine)
    _ = _ := by
        rw [List.sum_map_add, sum_map_ite_one,
          sum_map_ite_one]
        rfl

end Table

/-
  The marker finds what is left for conversion by hand: the
  physical lines that start with it are the manual lines and
  the comments that did so before.  Any other rule writes no
  such line, and a manual line is the marker and the line.
-/
theorem countP_marker_convert
    (options : Options)
    (document : Text) :
    (((convert document).splitOn '\n').countP
          fun piece => manualMarker <+: piece) =
        (convertWith options document).details.manual +
          ((Text.lines document).countP fun line =>
            Table.standard.ruleFor? line.stripped =
                some .comment ∧
              manualMarker <+: line.stripped) ∧
      (∀ (rule : Rule) (line output : Text),
        rule ≠ .comment → rule ≠ .manual →
          rule.convert? line = some output →
            ∀ piece ∈ output.splitOn '\n',
              ¬manualMarker <+: piece) ∧
      ∀ line : Text,
        Table.standard.ruleFor? line.stripped =
            some .manual →
          convertLine line =
            manualMarker ++ line.stripped := by
  refine ⟨?_, ?_, ?_⟩
  · by_cases hDocument : document = []
    · subst hDocument
      rfl
    · have hManual :
          (convertWith options document).details.manual =
            Table.standard.linesOf .manual document :=
        Table.manual_run_standard _ document
      rw [hManual]
      exact Table.countP_marker_text_run false hDocument
  · intro rule line output hComment hManual hConvert piece
      hPiece
    have hCopying : rule ∉ Rule.copying := by
      simp [Rule.copying, hManual, hComment]
    exact Rule.not_marker_of_convert? hCopying hConvert
      hPiece
  · intro line hRule
    rw [convertLine, Table.output_judge]
    exact Table.firstOutput_of_manual hRule

/-
  A note on a call starts like the marker but is none, and a
  manual line keeps its indentation.
-/
theorem countP_marker_convert_call :
    Rule.fileCall.convert? "File.x" =
        some "# TODO: Translate File.x".toList ∧
      ¬manualMarker <+:
        "# TODO: Translate File.x".toList ∧
      Table.standard.ruleFor? (Text.stripped "  x ") =
        some .manual ∧
      convertLine "  x " =
        manualMarker ++ Text.stripped "  x " := by
  have hConvert :
      Rule.fileCall.convert? "File.x" =
        some "# TODO: Translate File.x".toList := by
    decide
  have hPiece :
      "# TODO: Translate File.x".toList ∈
        "# TODO: Translate File.x".toList.splitOn '\n' := by
    decide
  have hRule :
      Table.standard.ruleFor? (Text.stripped "  x ") =
        some .manual := by
    decide
  rcases countP_marker_convert ⟨false, false⟩ [] with
    ⟨_, hOther, hManual⟩
  exact
    ⟨hConvert,
      hOther .fileCall _ _ (by decide) (by decide) hConvert _
        hPiece,
      hRule, hManual _ hRule⟩

end Translit
