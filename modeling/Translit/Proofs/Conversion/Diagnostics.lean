import Translit.Conversion
import Translit.Proofs.Run.WinningRule

/-
  Conversion with and without diagnostics.

  All ways to convert a document write the same text, line by
  line.  Records are kept only if a mode is selected.  They
  then tell the story of the document, one for each line, and
  agree with the statistics, which are the same in any mode.

  Key definitions include:
    * `Recounts`

  Main declarations:
    * `Table.map_records_run`
    * `recounts_records_run`
    * `countP_rule_of_recounts`
    * `hits_convertWith`
    * `convert_with_diagnostics`
-/

------------------------------------------------------------
-- Records Of A Run
------------------------------------------------------------

namespace Translit

namespace Table

/- Lines are numbered from one. -/
theorem map_number_records_run
    (table : Table)
    (document : Text) :
    (table.run true document).records.map Record.number =
      List.range' 1 (Text.lines document).length := by
  have hNumbers :=
    List.zipIdx_map_snd 1
      ((Text.lines document).map fun line =>
        (line, table.judge line))
  rw [List.length_map] at hNumbers
  rw [← hNumbers, run, if_pos rfl, List.map_map]
  rfl

/- The rest of a record depends on its line alone. -/
theorem map_records_run
    {α : Type}
    (table : Table)
    (document : Text)
    (view : Text → Text → Text → α) :
    ((table.run true document).records.map fun record =>
        view record.source record.converted record.rule) =
      (Text.lines document).map fun line =>
        view line.stripped (table.judge line).output
          (table.winnerLabel (table.judge line).winner) := by
  let judged :=
    (Text.lines document).map fun line =>
      (line, table.judge line)
  calc
    _ = ((judged.zipIdx 1).map Prod.fst).map fun j =>
          view j.1.stripped j.2.output
            (table.winnerLabel j.2.winner) := by
        rw [run, if_pos rfl, List.map_map, List.map_map]
        rfl
    _ = judged.map fun j =>
          view j.1.stripped j.2.output
            (table.winnerLabel j.2.winner) := by
        rw [List.zipIdx_map_fst]
    _ = _ := List.map_map

end Table

/-
  Whether records tell the story of a document: one for each
  line, in order, with its number, the line without padding,
  what it is converted to, and the name of its rule.
-/
structure Recounts
    (records : List Record)
    (document : Text) : Prop where
  numbers :
    records.map Record.number =
      List.range' 1 (Text.lines document).length
  sources :
    records.map Record.source =
      (Text.lines document).map Text.stripped
  outputs :
    records.map Record.converted =
      (Text.lines document).map convertLine
  rules :
    (records.map fun record => some record.rule) =
      (Text.lines document).map fun line =>
        (Table.standard.ruleFor? line.stripped).map
          Rule.label

/- The records of a run tell the story of its document. -/
theorem recounts_records_run
    (document : Text) :
    Recounts (Table.standard.run true document).records
      document where
  numbers :=
    Table.map_number_records_run Table.standard document
  sources :=
    Table.map_records_run Table.standard document
      fun source _ _ => source
  outputs :=
    Table.map_records_run Table.standard document
      fun _ converted _ => converted
  rules := by
    rw [Table.map_records_run Table.standard document
      fun _ _ rule => some rule]
    apply List.map_congr_left
    intro line _
    rcases Table.exists_ruleFor?_standard line.stripped with
      ⟨rule, hRule⟩
    rw [Table.winner_judge, Table.winnerLabel_winner? hRule,
      hRule, Option.map_some]

/- Records count the lines of each rule by its name. -/
theorem countP_rule_of_recounts
    {records : List Record}
    {document : Text}
    (hRecounts : Recounts records document)
    (rule : Rule) :
    (records.countP fun record =>
        record.rule = rule.label) =
      Table.standard.linesOf rule document := by
  have hCount :=
    congrArg (List.count (some rule.label)) hRecounts.rules
  rw [List.count_eq_countP, List.countP_map,
    List.count_eq_countP, List.countP_map] at hCount
  have hNames :
      (records.countP fun record =>
          record.rule = rule.label) =
        records.countP
          ((· == some rule.label) ∘
            fun record => some record.rule) := by
    apply List.countP_congr
    intro record _
    simp
  rw [hNames, hCount, Table.linesOf]
  apply List.countP_congr
  intro line _
  have hInjective := Option.map_injective Rule.label_injective
  rw [Function.comp_apply, beq_iff_eq, decide_eq_true_iff,
    ← Option.map_some, hInjective.eq_iff]

end Translit

------------------------------------------------------------
-- Ways To Convert A Document
------------------------------------------------------------

namespace Translit

/- Entries are the converted lines, records or no records. -/
theorem entries_run_standard
    (keepRecords : Bool)
    (document : Text) :
    (Table.standard.run keepRecords document).entries =
      (Text.lines document).map convertLine :=
  List.map_map

/- Each rule is listed with the number of lines it wins. -/
theorem hits_convertWith
    (options : Options)
    (document : Text) :
    (convertWith options document).details.hits =
      Table.standard.map fun rule =>
        ⟨rule.label,
          Table.standard.linesOf rule document⟩ := by
  change ruleHits Table.standard
    (Table.standard.run _ document).tally.hits = _
  rw [Table.hits_run_standard, ruleHits,
    List.zipWith_map_right, List.zipWith_self]

/-
  The ways to convert a document agree.  With a mode, the
  records tell the story of the document, each rule is
  counted as often as they name it, and the diagnostics are
  the records in that mode.  Without one there is nothing of
  all this, and the statistics are the same in any case.
-/
theorem convert_with_diagnostics
    (options : Options)
    (document : Text) :
    (convertShowing options document).text =
        convert document ∧
      (convertWith options document).text =
        convert document ∧
      (convertShowing options document).entries =
        (Text.lines document).map convertLine ∧
      (convertWith options document).entries =
        (Text.lines document).map convertLine ∧
      (∀ mode, options.mode? = some mode →
        Recounts (convertWith options document).details.records
            document ∧
          (convertWith options document).details.hits =
            (Table.standard.map fun rule =>
              ⟨rule.label,
                (convertWith options
                  document).details.records.countP fun record =>
                    record.rule = rule.label⟩) ∧
          (convertShowing options document).diagnostics =
            (convertWith options document).details.records.map
              fun record => record.render mode) ∧
      (options.mode? = none →
        (convertWith options document).details.records = [] ∧
          (convertShowing options document).diagnostics =
            []) ∧
      ∀ other : Options,
        (convertWith options document).details.hits =
            (convertWith other document).details.hits ∧
          (convertWith options document).details.manual =
            (convertWith other document).details.manual ∧
          (convertWith options document).details.tried =
            (convertWith other document).details.tried ∧
          (convertWith options document).details.skipped =
            (convertWith other document).details.skipped := by
  have hEntries :=
    entries_run_standard options.mode?.isSome document
  refine ⟨rfl, rfl, hEntries, hEntries, ?_, ?_, ?_⟩
  · intro mode hMode
    have hRecounts :
        Recounts
          (convertWith options document).details.records
          document := by
      simp only [convertWith, hMode, Option.isSome_some]
      exact recounts_records_run document
    refine ⟨hRecounts, ?_, ?_⟩
    · rw [hits_convertWith]
      apply List.map_congr_left
      intro rule _
      rw [countP_rule_of_recounts hRecounts]
    · simp only [convertShowing, convertWith, hMode]
  · intro hMode
    constructor
    · simp [convertWith, hMode, Table.run]
    · simp only [convertShowing, hMode]
  · intro other
    exact ⟨rfl, rfl, rfl, rfl⟩

/- Debug mode wins over verbose mode, and no mode is silent. -/
theorem convert_with_diagnostics_else :
    Options.mode? ⟨true, true⟩ = some .debug ∧
      Options.mode? ⟨false, false⟩ = none ∧
      (convertShowing ⟨true, true⟩ "x\nelse ").diagnostics =
        [ "[DEBUG] Line 1: \"x\" -> " ++
            "\"# TODO: Manual translation needed: x\"",
          "[DEBUG] Line 2: \"else\" -> \"else:\"" ] ∧
      (convertShowing ⟨false, false⟩
        "x\nelse ").diagnostics = [] := by
  have hDebug : Options.mode? ⟨true, true⟩ = some .debug :=
    rfl
  have hNone : Options.mode? ⟨false, false⟩ = none := rfl
  refine ⟨hDebug, hNone, ?_, ?_⟩
  · rw [((convert_with_diagnostics ⟨true, true⟩
      "x\nelse ").2.2.2.2.1 .debug hDebug).2.2]
    decide
  · exact ((convert_with_diagnostics ⟨false, false⟩
      "x\nelse ").2.2.2.2.2.1 hNone).2

end Translit
