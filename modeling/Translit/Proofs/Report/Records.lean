import Mathlib.Data.List.Basic
import Translit.Proofs.Report.Print
import Translit.Proofs.Text.Lines
import Translit.Proofs.Text.Quoted

/-
  Records in reports.

  Without colours a report starts with its records, each on
  a line of its own as the diagnostics show it.  A record in
  debug mode holds no control character, so it is one
  physical line, and its number and both texts can be read
  back from that line.

  Key definitions include:
    * `Record.ofDebug?`

  Main declarations:
    * `Record.ofDebug?_render`
    * `Record.not_isControl_of_mem_render`
    * `Report.render_recordLine`
    * `Report.render_records_plain`
    * `Report.render_lines_plain`
    * `Report.render_reached_plain`
    * `Report.debug_records_readable`
-/

------------------------------------------------------------
-- Reading Debug Records
------------------------------------------------------------

namespace Translit

namespace Record

/-
  Read the number and the two texts of a record from its
  debug form.  Nothing may follow the second text.
-/
def ofDebug?
    (t : Text) : Option (Nat × Text × Text) := do
  let numbered ← t.dropPrefix? "[DEBUG] Line ".toList
  let digits := numbered.takeWhile Char.isDigit
  let shown ←
    (numbered.dropWhile Char.isDigit).dropPrefix?
      ": ".toList
  let (source, arrow) ← Text.unquote? shown
  let shown ← arrow.dropPrefix? " -> ".toList
  let (converted, []) ← Text.unquote? shown | none
  return (Nat.ofDigitChars 10 digits 0, source, converted)

/- The parts of a debug record, from left to right. -/
theorem render_debug
    (record : Record) :
    record.render .debug =
      "[DEBUG] Line ".toList ++
        (Text.decimal record.number ++
          (": ".toList ++
            (record.source.quoted ++
              (" -> ".toList ++
                record.converted.quoted)))) := by
  unfold render detail Mode.tag
  simp only [List.append_assoc]
  rfl

/- A number ends where something else than a digit stands. -/
theorem span_decimal
    {rest : Text}
    (n : Nat)
    (hRest : rest.head?.all fun c => !c.isDigit) :
    (Text.decimal n ++ rest).takeWhile Char.isDigit =
        Text.decimal n ∧
      (Text.decimal n ++ rest).dropWhile Char.isDigit =
        rest := by
  have hDigits : ∀ c ∈ Text.decimal n, c.isDigit :=
    fun _ => Text.isDigit_of_mem_decimal
  rw [List.takeWhile_append_of_pos hDigits,
    List.dropWhile_append_of_pos hDigits]
  cases rest with
  | nil => simp
  | cons c rest =>
      have hOther : c.isDigit = false := by
        simpa using hRest
      simp [hOther]

/- A debug record is read as it was written. -/
theorem ofDebug?_render
    (record : Record) :
    ofDebug? (record.render .debug) =
      some
        (record.number, record.source, record.converted) := by
  have hDrop :
      ∀ w t : Text, (w ++ t).dropPrefix? w = some t :=
    fun w t => List.dropPrefix?_append_of_beq t (by simp)
  have hNumber :
      Nat.ofDigitChars 10 (Text.decimal record.number) 0 =
        record.number :=
    Nat.ofDigitChars_ten_toDigits
  have hLast :
      Text.unquote? record.converted.quoted =
        some (record.converted, []) := by
    simpa using Text.unquote?_quoted record.converted []
  -- Each part is read off the front, up to where the next
  -- one starts.
  rw [ofDebug?, render_debug, hDrop]
  simp only [Option.bind_eq_bind, Option.bind_some]
  rw [(span_decimal record.number rfl).1,
    (span_decimal record.number rfl).2, hDrop]
  simp only [Option.bind_some, Text.unquote?_quoted, hDrop,
    hLast, hNumber]
  rfl

/- Records with the same debug form agree but for the rule. -/
theorem render_debug_eq_iff
    (first second : Record) :
    first.render .debug = second.render .debug ↔
      first.number = second.number ∧
        first.source = second.source ∧
        first.converted = second.converted := by
  constructor
  · intro hRender
    have hRead := congrArg ofDebug? hRender
    rw [ofDebug?_render, ofDebug?_render] at hRead
    simpa using hRead
  · rintro ⟨hNumber, hSource, hConverted⟩
    rw [render_debug, render_debug, hNumber, hSource,
      hConverted]

/- A debug record holds no control characters. -/
theorem not_isControl_of_mem_render
    {record : Record}
    {c : Char}
    (hMember : c ∈ record.render .debug) :
    isControl c = false := by
  rw [render_debug] at hMember
  simp only [List.mem_append] at hMember
  rcases hMember with
    hTag | hNumber | hColon | hSource | hArrow | hConverted
  · exact Text.not_isControl_of_all (by decide) hTag
  · exact Text.not_isControl_of_mem_decimal hNumber
  · exact Text.not_isControl_of_all (by decide) hColon
  · exact Text.not_isControl_of_mem_quoted hSource
  · exact Text.not_isControl_of_all (by decide) hArrow
  · exact Text.not_isControl_of_mem_quoted hConverted

theorem lineFeed_notMem_render
    (record : Record) :
    '\n' ∉ record.render .debug := by
  intro hFeed
  exact absurd (not_isControl_of_mem_render hFeed) (by decide)

end Record

end Translit

------------------------------------------------------------
-- Reports Without Colours
------------------------------------------------------------

namespace Translit

namespace Span

@[simp] theorem render_plain
    (palette : Palette)
    (t : Text) :
    (Span.plain t).render palette = t :=
  rfl

@[simp] theorem render_styled_off
    (style : Style)
    (t : Text) :
    (Span.styled style t).render ⟨false⟩ = t :=
  rfl

end Span

namespace Report

/- What follows the records does not depend on them. -/
theorem lines_eq_append
    (details : Details)
    (elapsed : Elapsed)
    (mode : Mode) :
    lines details elapsed mode =
      details.records.map (recordLine mode) ++
        lines { details with records := [] } elapsed mode := by
  unfold lines
  simp only [List.append_assoc, List.map_nil, List.nil_append]
  rfl

/-
  The tag of a record is what stands before the first space
  of the record as it is shown, and the rest has no style.
-/
theorem render_recordLine
    (palette : Palette)
    (mode : Mode)
    (record : Record) :
    render palette [recordLine mode record] =
      palette.paint (tagStyle mode)
          ((record.render mode).takeWhile (· != ' ')) ++
        (record.render mode).dropWhile (· != ' ') ++
          ['\n'] := by
  have hTag : ∀ c ∈ mode.tag, (c != ' ') = true := by
    rw [← List.all_eq_true]
    cases mode <;> decide
  have hForm :
      record.render mode =
        mode.tag ++ ' ' :: record.detail mode := by
    simp [Record.render]
  rw [hForm, List.takeWhile_append_of_pos hTag,
    List.dropWhile_append_of_pos hTag, render_line]
  simp [recordLine, Span.render]

/- Without colours a record is written as it is shown. -/
theorem render_recordLine_plain
    (mode : Mode)
    (record : Record) :
    render ⟨false⟩ [recordLine mode record] =
      record.render mode ++ ['\n'] := by
  rw [render_recordLine]
  simp [Palette.paint]

theorem render_records_plain
    (mode : Mode)
    (records : List Record) :
    render ⟨false⟩ (records.map (recordLine mode)) =
      (records.map (·.render mode)).flatMap
        (· ++ ['\n']) := by
  rw [render_eq_flatMap, List.flatMap_map, List.flatMap_map]
  simp only [render_recordLine_plain]

section

variable (details : Details)
variable (elapsed : Elapsed)
variable (mode : Mode)

/- The records come first in a report, one after the other. -/
theorem render_lines_plain :
    render ⟨false⟩ (lines details elapsed mode) =
      (details.records.map (·.render mode)).flatMap
          (· ++ ['\n']) ++
        render ⟨false⟩
          (lines { details with records := [] } elapsed
            mode) := by
  rw [lines_eq_append, render_append, render_records_plain]

/- They do so even if the report breaks off. -/
theorem render_reached_plain :
    render ⟨false⟩ (reached details elapsed mode) =
      (details.records.map (·.render mode)).flatMap
          (· ++ ['\n']) ++
        render ⟨false⟩
          (reached { details with records := [] } elapsed
            mode) := by
  rw [← render_records_plain, ← render_append]
  rfl

end

/- Debug records are the first physical lines of a text. -/
theorem take_splitOn_records
    (records : List Record)
    (rest : Text) :
    (((records.map (·.render .debug)).flatMap
          (· ++ ['\n']) ++ rest).splitOn '\n').take
        records.length =
      records.map (·.render .debug) := by
  have hFeeds :
      ∀ entry ∈ records.map (·.render .debug),
        '\n' ∉ entry := by
    intro entry hEntry
    rcases List.mem_map.mp hEntry with ⟨record, _, rfl⟩
    exact Record.lineFeed_notMem_render record
  rw [Text.splitOn_flatMap_terminated _ hFeeds]
  apply List.take_left'
  exact List.length_map _

/-
  Debug records are faithful: the number and both texts can
  be read back from the line that shows a record, so records
  that look alike are alike.  The line holds no line feed or
  other control character, and a report of `n` records
  without colours has these lines as its first `n` physical
  lines, in what is printed of it as in its full text.
-/
theorem debug_records_readable
    (first second : Record)
    (details : Details)
    (elapsed : Elapsed) :
    Record.ofDebug? (first.render .debug) =
        some
          (first.number, first.source, first.converted) ∧
      (first.render .debug = second.render .debug ↔
        first.number = second.number ∧
          first.source = second.source ∧
          first.converted = second.converted) ∧
      '\n' ∉ first.render .debug ∧
      (first.render .debug).any isControl = false ∧
      ((render ⟨false⟩
            (lines details elapsed .debug)).splitOn
          '\n').take details.records.length =
        details.records.map (·.render .debug) ∧
      ∃ report : Text,
        printOn .unlimited ⟨false⟩ details elapsed .debug =
            (ending details.hits, report.utf8) ∧
          (report.splitOn '\n').take details.records.length =
            details.records.map (·.render .debug) := by
  refine ⟨Record.ofDebug?_render first,
    Record.render_debug_eq_iff first second,
    Record.lineFeed_notMem_render first, ?_, ?_, ?_⟩
  · rw [List.any_eq_false]
    intro c hMember
    simp [Record.not_isControl_of_mem_render hMember]
  · rw [render_lines_plain]
    exact take_splitOn_records _ _
  · refine ⟨_, printOn_unlimited _ _ _ _, ?_⟩
    rw [render_reached_plain]
    exact take_splitOn_records _ _

end Report

end Translit
