import Mathlib.Data.List.Basic
import Translit.Proofs.Report.Records

/-
  Colours only add terminal sequences.

  A scanner deletes the sequences that select a graphic
  rendition.  What it makes of a coloured report is the
  report without colours, as long as the names of the rules
  and the texts that verbose mode shows hold no escape
  character of their own.  In debug mode the texts may hold
  anything, as they are quoted.

  Key definitions include:
    * `Text.renditionLength?`
    * `Text.withoutRenditions`
    * `Text.ShowsAs`
    * `Report.IsClean`

  Main declarations:
    * `Text.showsAs_renditionCode`
    * `Span.showsAs_render`
    * `Report.showsAs_render`
    * `Report.isClean_lines`
    * `Report.withoutRenditions_lines`
-/

------------------------------------------------------------
-- Deleting Terminal Sequences
------------------------------------------------------------

namespace Translit

namespace Text

/-
  The length of the sequence that selects a rendition at the
  front of a text, if there is one: the escape character, a
  bracket, at least one digit and the letter m.
-/
def renditionLength? : Text → Option Nat
| '\x1b' :: '[' :: rest =>
    let digits := rest.takeWhile Char.isDigit
    if digits ≠ [] ∧
        (rest.dropWhile Char.isDigit).head? = some 'm' then
      some (digits.length + 3)
    else
      none
| _ => none

/-
  Delete every rendition sequence, after dropping the first
  `skip` characters.
-/
def dropRenditions : Nat → Text → Text
| _, [] => []
| skip + 1, _ :: rest => dropRenditions skip rest
| 0, c :: rest =>
    match renditionLength? (c :: rest) with
    | some n => dropRenditions (n - 1) rest
    | none => c :: dropRenditions 0 rest

/- The text without its rendition sequences. -/
def withoutRenditions
    (t : Text) : Text :=
  dropRenditions 0 t

/-
  Whether `plain` is what is left of `painted`, in front of
  any other text.
-/
def ShowsAs
    (painted plain : Text) : Prop :=
  ∀ rest : Text,
    withoutRenditions (painted ++ rest) =
      plain ++ withoutRenditions rest

variable {painted plain : Text}

theorem ShowsAs.withoutRenditions_eq
    (hShows : ShowsAs painted plain) :
    withoutRenditions painted = plain := by
  have hAlone := hShows []
  simpa [withoutRenditions, dropRenditions] using hAlone

theorem ShowsAs.append
    {painted' plain' : Text}
    (hFirst : ShowsAs painted plain)
    (hSecond : ShowsAs painted' plain') :
    ShowsAs (painted ++ painted') (plain ++ plain') := by
  intro rest
  rw [List.append_assoc, hFirst, hSecond, List.append_assoc]

/- Parts that show as others, one after the other. -/
theorem ShowsAs.flatMap
    {α : Type}
    {paint shown : α → Text}
    {parts : List α}
    (hParts :
      ∀ part ∈ parts, ShowsAs (paint part) (shown part)) :
    ShowsAs (parts.flatMap paint) (parts.flatMap shown) := by
  induction parts with
  | nil =>
      intro rest
      rfl
  | cons part parts ih =>
      have hFirst := hParts part (by simp)
      have hOthers := ih fun other hMember =>
        hParts other (List.mem_cons_of_mem part hMember)
      simpa using hFirst.append hOthers

/- A text without escape characters shows as itself. -/
theorem showsAs_self
    {t : Text}
    (hText : '\x1b' ∉ t) :
    ShowsAs t t := by
  intro rest
  induction t with
  | nil => rfl
  | cons c t ih =>
      rw [List.mem_cons, not_or] at hText
      -- No sequence starts with another character.
      have hNone :
          renditionLength? (c :: (t ++ rest)) = none := by
        unfold renditionLength?
        split
        · next hEscape =>
            have hHead := (List.cons.inj hEscape).1
            exact absurd hHead.symm hText.1
        · rfl
      have hRest := ih hText.2
      simp only [withoutRenditions, List.cons_append,
        dropRenditions, hNone] at hRest ⊢
      rw [hRest]

/- Skipping as many characters as a text has. -/
theorem dropRenditions_append
    (front rest : Text) :
    dropRenditions front.length (front ++ rest) =
      withoutRenditions rest := by
  induction front with
  | nil => rfl
  | cons c front ih => exact ih

/- A rendition sequence is found in full. -/
theorem renditionLength?_renditionCode
    {code : Text}
    (rest : Text)
    (hSome : code ≠ [])
    (hDigits : ∀ c ∈ code, c.isDigit) :
    renditionLength? (renditionCode code ++ rest) =
      some (code.length + 3) := by
  have hForm :
      renditionCode code ++ rest =
        '\x1b' :: '[' :: (code ++ 'm' :: rest) := by
    simp [renditionCode]
  have hTake :
      (code ++ 'm' :: rest).takeWhile Char.isDigit = code := by
    rw [List.takeWhile_append_of_pos hDigits]
    simp
  have hDrop :
      (code ++ 'm' :: rest).dropWhile Char.isDigit =
        'm' :: rest := by
    rw [List.dropWhile_append_of_pos hDigits]
    simp
  rw [hForm]
  simp [renditionLength?, hTake, hDrop, hSome]

/- A rendition sequence leaves nothing behind. -/
theorem showsAs_renditionCode
    {code : Text}
    (hSome : code ≠ [])
    (hDigits : ∀ c ∈ code, c.isDigit) :
    ShowsAs (renditionCode code) [] := by
  intro rest
  have hLength :=
    renditionLength?_renditionCode rest hSome hDigits
  have hForm :
      renditionCode code ++ rest =
        '\x1b' :: (('[' :: code ++ ['m']) ++ rest) := by
    simp [renditionCode]
  rw [hForm] at hLength ⊢
  -- The scanner deletes the escape character and skips the
  -- rest of the sequence.
  have hSkip :
      code.length + 3 - 1 = ('[' :: code ++ ['m']).length := by
    simp
  rw [withoutRenditions, dropRenditions, hLength]
  simp only [hSkip]
  exact dropRenditions_append _ rest

/- A sequence without digits is none. -/
example :
    withoutRenditions "\x1b[33mx\x1b[m" =
      "x\x1b[m".toList := by
  decide

end Text

end Translit

------------------------------------------------------------
-- Painted Reports
------------------------------------------------------------

namespace Translit

/- The number of a style is made of digits. -/
theorem Style.code_digits
    (style : Style) :
    style.code ≠ [] ∧ ∀ c ∈ style.code, c.isDigit := by
  rw [← List.all_eq_true]
  cases style <;> decide

theorem Palette.showsAs_paint
    {t : Text}
    (style : Style)
    (hText : '\x1b' ∉ t) :
    Text.ShowsAs (Palette.paint ⟨true⟩ style t) t := by
  have hOn :
      Text.ShowsAs (renditionCode style.code) [] :=
    Text.showsAs_renditionCode style.code_digits.1
      style.code_digits.2
  have hOff : Text.ShowsAs (renditionCode "0") [] :=
    Text.showsAs_renditionCode (by decide) (by simp)
  simpa [paint] using
    (hOn.append (Text.showsAs_self hText)).append hOff

/- A span in colour shows as the span without colours. -/
theorem Span.showsAs_render
    {span : Span}
    (hSpan : '\x1b' ∉ span.render ⟨false⟩) :
    Text.ShowsAs (span.render ⟨true⟩)
      (span.render ⟨false⟩) := by
  cases span with
  | plain t => exact Text.showsAs_self hSpan
  | styled style t => exact Palette.showsAs_paint style hSpan

namespace Report

/- Whether a report shows no escape characters of its own. -/
def IsClean
    (report : List Line) : Prop :=
  ∀ line ∈ report, ∀ span ∈ line,
    '\x1b' ∉ span.render ⟨false⟩

theorem IsClean.append
    {first second : List Line}
    (hFirst : IsClean first)
    (hSecond : IsClean second) :
    IsClean (first ++ second) := by
  intro line hLine
  rcases List.mem_append.mp hLine with hLeft | hRight
  · exact hFirst line hLeft
  · exact hSecond line hRight

/- A report in colour shows as the report without colours. -/
theorem showsAs_render
    {report : List Line}
    (hClean : IsClean report) :
    Text.ShowsAs (render ⟨true⟩ report)
      (render ⟨false⟩ report) := by
  rw [render_eq_flatMap, render_eq_flatMap ⟨false⟩]
  apply Text.ShowsAs.flatMap
  intro line hLine
  rw [render_line, render_line]
  have hSpans :
      Text.ShowsAs (line.flatMap (·.render ⟨true⟩))
        (line.flatMap (·.render ⟨false⟩)) := by
    apply Text.ShowsAs.flatMap
    intro span hSpan
    exact Span.showsAs_render (hClean line hLine span hSpan)
  exact hSpans.append (Text.showsAs_self (by decide))

end Report

end Translit

------------------------------------------------------------
-- Texts Without Escape Characters
------------------------------------------------------------

namespace Translit

namespace Text

theorem escape_notMem_decimal
    (n : Nat) :
    '\x1b' ∉ decimal n := by
  intro hMember
  exact absurd (not_isControl_of_mem_decimal hMember)
    (by decide)

theorem trimmed_subset
    (t : Text) :
    t.trimmed ⊆ t := by
  intro c hMember
  exact (List.dropWhile_sublist isWhiteSpace).subset
    ((dropTail_isPrefix isWhiteSpace _).subset hMember)

end Text

namespace Elapsed

theorem escape_notMem_fraction
    (places part : Nat) :
    '\x1b' ∉ fraction places part := by
  have hDigits :
      '\x1b' ∉
        List.replicate
            (places - (Text.decimal part).length) '0' ++
          Text.decimal part := by
    apply List.not_mem_append
    · simp [List.mem_replicate]
    · exact Text.escape_notMem_decimal part
  unfold fraction
  dsimp only
  split
  · exact List.not_mem_nil
  · intro hMember
    rcases List.mem_cons.mp hMember with hPoint | hShown
    · exact absurd hPoint (by decide)
    · exact hDigits
        ((Text.dropTail_isPrefix _ _).subset hShown)

theorem escape_notMem_render
    (elapsed : Elapsed) :
    '\x1b' ∉ elapsed.render := by
  have hParts :
      ∀ n places part : Nat, ∀ unit : Text,
        '\x1b' ∉ unit →
          '\x1b' ∉
            Text.decimal n ++ fraction places part ++
              unit := by
    intro n places part unit hUnit
    apply List.not_mem_append _ hUnit
    exact List.not_mem_append (Text.escape_notMem_decimal n)
      (escape_notMem_fraction places part)
  unfold render
  dsimp only
  split
  · exact hParts _ _ _ _ (by decide)
  · split
    · exact hParts _ _ _ _ (by decide)
    · split
      · exact hParts _ _ _ _ (by decide)
      · exact List.not_mem_append
          (Text.escape_notMem_decimal _) (by decide)

end Elapsed

namespace Record

variable {record : Record}

/- Verbose mode shows parts of the texts as they are. -/
theorem escape_notMem_detail_verbose
    (hSource : '\x1b' ∉ record.source)
    (hConverted : '\x1b' ∉ record.converted) :
    '\x1b' ∉ record.detail .verbose := by
  apply List.not_mem_append
  · apply List.not_mem_append _ (by decide)
    apply List.not_mem_append (by decide)
    intro hMember
    exact hSource (Text.trimmed_subset _ hMember)
  · intro hMember
    exact hConverted (Text.trimmed_subset _ hMember)

/- Debug mode shows no escape characters at all. -/
theorem escape_notMem_detail_debug
    (record : Record) :
    '\x1b' ∉ record.detail .debug := by
  intro hMember
  have hShown : '\x1b' ∈ record.render .debug :=
    List.mem_append_right _ hMember
  exact absurd (not_isControl_of_mem_render hShown)
    (by decide)

end Record

end Translit

------------------------------------------------------------
-- The Diagnostics Report
------------------------------------------------------------

namespace Translit

namespace Report

theorem escape_notMem_recordLine
    {mode : Mode}
    {record : Record}
    (hTexts :
      mode = .verbose →
        '\x1b' ∉ record.source ∧
          '\x1b' ∉ record.converted) :
    ∀ span ∈ recordLine mode record,
      '\x1b' ∉ span.render ⟨false⟩ := by
  have hDetail : '\x1b' ∉ record.detail mode := by
    cases mode with
    | verbose =>
        rcases hTexts rfl with ⟨hSource, hConverted⟩
        exact Record.escape_notMem_detail_verbose hSource
          hConverted
    | debug => exact Record.escape_notMem_detail_debug record
  have hTag : '\x1b' ∉ mode.tag := by
    cases mode <;> decide
  have hRest : '\x1b' ∉ " ".toList ++ record.detail mode :=
    List.not_mem_append (by decide) hDetail
  simpa [recordLine] using And.intro hTag hRest

theorem isClean_heading
    {title : Text}
    (hTitle : '\x1b' ∉ title) :
    IsClean (heading title) := by
  have hSpan :
      '\x1b' ∉
        "━━━ ".toList ++ title ++ " ━━━".toList := by
    apply List.not_mem_append _ (by decide)
    exact List.not_mem_append (by decide) hTitle
  simpa [IsClean, heading] using hSpan

theorem escape_notMem_manualSpan
    (manual : Nat) :
    '\x1b' ∉ (manualSpan manual).render ⟨false⟩ := by
  unfold manualSpan
  split
  · exact List.not_mem_append
      (Text.escape_notMem_decimal manual) (by decide)
  · exact (by decide :
      '\x1b' ∉ "0 need manual translation".toList)

theorem isClean_summary
    (details : Details) :
    IsClean (summary details) := by
  have hManual := escape_notMem_manualSpan details.manual
  have hCount :=
    Text.escape_notMem_decimal (lineCount details.hits)
  have hTried := Text.escape_notMem_decimal details.tried
  have hSkipped := Text.escape_notMem_decimal details.skipped
  simp [IsClean, summary, countLine, gatingLine, hManual,
    hCount, hTried, hSkipped]

theorem isClean_ruleRows
    {hits : List RuleHit}
    (hRules : ∀ hit ∈ hits, '\x1b' ∉ hit.rule) :
    IsClean (ruleRows hits) := by
  unfold ruleRows
  split
  · simp [IsClean, noticeLine]
  · intro line hLine
    rcases List.mem_map.mp hLine with ⟨hit, hFired, rfl⟩
    have hRule : '\x1b' ∉ hit.rule :=
      hRules hit (List.mem_of_mem_filter hFired)
    have hCount := Text.escape_notMem_decimal hit.count
    simp [ruleRow, rowLine, padTo, hRule, hCount]

/- A report is clean if its rules and records are. -/
theorem isClean_lines
    {details : Details}
    {mode : Mode}
    (elapsed : Elapsed)
    (hRules : ∀ hit ∈ details.hits, '\x1b' ∉ hit.rule)
    (hTexts :
      mode = .verbose →
        ∀ record ∈ details.records,
          '\x1b' ∉ record.source ∧
            '\x1b' ∉ record.converted) :
    IsClean (lines details elapsed mode) := by
  have hRecords :
      IsClean (details.records.map (recordLine mode)) := by
    intro line hLine
    rcases List.mem_map.mp hLine with ⟨record, hRecord, rfl⟩
    exact escape_notMem_recordLine fun hMode =>
      hTexts hMode record hRecord
  have hTiming : IsClean (timing elapsed) := by
    simp [IsClean, timing, elapsed.escape_notMem_render]
  unfold lines
  apply IsClean.append _ hTiming
  apply IsClean.append _ (isClean_heading (by decide))
  apply IsClean.append _ (isClean_ruleRows hRules)
  apply IsClean.append _ (isClean_heading (by decide))
  apply IsClean.append _ (isClean_summary details)
  exact hRecords.append (isClean_heading (by decide))

/-
  Colours only add terminal sequences: without them a report
  in colour is the report without colours, in which each
  record is written as it is shown.  Only the part of a
  record before its first space is ever in colour.  So it is
  with what is printed, even if the report breaks off.
-/
theorem withoutRenditions_lines
    (details : Details)
    (elapsed : Elapsed)
    (mode : Mode)
    (hRules : ∀ hit ∈ details.hits, '\x1b' ∉ hit.rule)
    (hTexts :
      mode = .verbose →
        ∀ record ∈ details.records,
          '\x1b' ∉ record.source ∧
            '\x1b' ∉ record.converted) :
    Text.withoutRenditions
          (render ⟨true⟩ (lines details elapsed mode)) =
        render ⟨false⟩ (lines details elapsed mode) ∧
      render ⟨false⟩ (lines details elapsed mode) =
        (details.records.map (·.render mode)).flatMap
            (· ++ ['\n']) ++
          render ⟨false⟩
            (lines { details with records := [] } elapsed
              mode) ∧
      (∀ (palette : Palette) (record : Record),
        render palette [recordLine mode record] =
          palette.paint (tagStyle mode)
              ((record.render mode).takeWhile (· != ' ')) ++
            (record.render mode).dropWhile (· != ' ') ++
              ['\n']) ∧
      ∃ painted plain : Text,
        printOn .unlimited ⟨true⟩ details elapsed mode =
            (ending details.hits, painted.utf8) ∧
          printOn .unlimited ⟨false⟩ details elapsed mode =
            (ending details.hits, plain.utf8) ∧
          Text.withoutRenditions painted = plain ∧
          (details.records.map (·.render mode)).flatMap
              (· ++ ['\n']) <+: plain := by
  have hClean : IsClean (lines details elapsed mode) :=
    isClean_lines elapsed hRules hTexts
  have hReached : IsClean (reached details elapsed mode) := by
    intro line hLine
    exact hClean line
      ((reached_isPrefix_lines _ _ _).subset hLine)
  refine
    ⟨?_, render_lines_plain details elapsed mode, ?_, ?_⟩
  · exact (showsAs_render hClean).withoutRenditions_eq
  · intro palette record
    exact render_recordLine palette mode record
  · refine ⟨_, _, printOn_unlimited _ _ _ _,
      printOn_unlimited _ _ _ _,
      (showsAs_render hReached).withoutRenditions_eq, ?_⟩
    rw [render_reached_plain]
    exact List.prefix_append _ _

/- Details with text that only looks like a sequence. -/
def bracketed : Details where
  mode := some .verbose
  records := [⟨1, "x = [33m", "x = [33m", "assignment"⟩]
  hits := [⟨"[0m", 1⟩]
  manual := 0
  tried := 2
  skipped := 13

theorem withoutRenditions_lines_bracketed :
    (∀ hit ∈ bracketed.hits, '\x1b' ∉ hit.rule) ∧
      (∀ record ∈ bracketed.records,
        '\x1b' ∉ record.source ∧
          '\x1b' ∉ record.converted) ∧
      Text.withoutRenditions
          (render ⟨true⟩ (lines bracketed .zero .verbose)) =
        render ⟨false⟩ (lines bracketed .zero .verbose) := by
  have hRules :
      ∀ hit ∈ bracketed.hits, '\x1b' ∉ hit.rule := by
    simp [bracketed]
  have hTexts :
      ∀ record ∈ bracketed.records,
        '\x1b' ∉ record.source ∧
          '\x1b' ∉ record.converted := by
    simp [bracketed]
  rcases withoutRenditions_lines bracketed .zero .verbose
      hRules fun _ => hTexts with
    ⟨hPlain, _⟩
  exact ⟨hRules, hTexts, hPlain⟩

end Report

end Translit
