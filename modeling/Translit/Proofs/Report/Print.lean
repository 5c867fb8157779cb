import Mathlib.Data.List.Basic
import Translit.Proofs.Report.Lines
import Translit.Proofs.Report.Sink
import Translit.Report.Print

/-
  What printing a report writes.

  A program that prints is specified by the text it writes
  and by the way it ends when all of that text is taken.  If
  the text is not taken, the program ends at the write that
  has failed, and nothing is written behind it.  The
  specification of a report is put together from those of its
  sections, and these from those of single writes.

  Key definitions include:
    * `Report.Prints`
    * `Report.ending`
    * `Report.printOn`

  Main declarations:
    * `Report.Prints.sequence`
    * `Report.Prints.forM`
    * `Report.prints_print`
    * `Report.print_eq_writeAll`
    * `Report.print_limited`
-/

------------------------------------------------------------
-- Programs That Print
------------------------------------------------------------

namespace Translit

/- One step of a program in a state and then the others. -/
theorem bind_step
    {σ α β : Type}
    {step : StateM σ α}
    {s next : σ}
    {a : α}
    (rest : α → StateM σ β)
    (hStep : step s = (a, next)) :
    (step >>= rest) s = rest a next := by
  change (let (a, next) := step s; rest a next) = _
  rw [hStep]

namespace Report

variable {σ ε : Type}

/-
  Whether a program prints a text on an outlet and ends in
  some way, unless a write of that text fails.
-/
def Prints
    (outlet : Outlet σ)
    (fault : ε)
    (program : Printer (StateM σ) ε Unit)
    (t : Text)
    (ended : Except (Halt ε) Unit) : Prop :=
  ∀ s,
    program.run s =
      ( if (outlet.sink s).takes t then ended
        else .error (.refused fault),
        outlet.refill s ((outlet.sink s).after t) )

/- What follows a program depends on how it has ended. -/
theorem run_bind
    {first : Printer (StateM σ) ε Unit}
    {s next : σ}
    {ended : Except (Halt ε) Unit}
    (second : Unit → Printer (StateM σ) ε Unit)
    (hFirst : first.run s = (ended, next)) :
    (first >>= second).run s =
      ExceptT.bindCont second ended next :=
  bind_step (ExceptT.bindCont second) hFirst

/- A value that is there is gone on with. -/
theorem bind_demand_some
    {α : Type}
    (a : α)
    (rest : α → Printer (StateM σ) ε Unit) :
    (demand (some a) >>= rest) = rest a :=
  pure_bind a rest

section

variable {outlet : Outlet σ} {fault : ε}

theorem prints_put
    (t : Text) :
    Prints outlet fault (put (outlet.write fault) t) t
      (.ok ()) := by
  intro s
  change (outlet.write fault t >>= _) s = _
  rw [bind_step _ (outlet.write_eq fault t s)]
  split_ifs
  · rfl
  · rfl

/- A program that only ends prints no text. -/
theorem prints_nil
    {program : Printer (StateM σ) ε Unit}
    {ended : Except (Halt ε) Unit}
    (hRun : ∀ s, program.run s = (ended, s)) :
    Prints outlet fault program [] ended := by
  intro s
  rw [hRun, Sink.after_nil, outlet.refill_sink,
    if_pos (Sink.takes_nil _)]

/- What is printed by two programs stands in their order. -/
theorem Prints.sequence
    {first second : Printer (StateM σ) ε Unit}
    {t u : Text}
    {ended : Except (Halt ε) Unit}
    (hFirst : Prints outlet fault first t (.ok ()))
    (hSecond : Prints outlet fault second u ended) :
    Prints outlet fault (first >>= fun _ => second) (t ++ u)
      ended := by
  intro s
  have hRun := hFirst s
  by_cases hTakes : (outlet.sink s).takes t
  · have hAll :
        (outlet.sink s).takes (t ++ u) =
          ((outlet.sink s).after t).takes u := by
      rw [Bool.eq_iff_iff, Sink.takes_append]
      simp [hTakes]
    rw [if_pos hTakes] at hRun
    rw [run_bind _ hRun]
    change second.run _ = _
    rw [hSecond, outlet.sink_refill, outlet.refill_refill,
      hAll, Sink.after_append_of_takes u hTakes]
  · have hAll : ¬ (outlet.sink s).takes (t ++ u) := by
      rw [Sink.takes_append]
      exact fun hBoth => hTakes hBoth.1
    rw [if_neg hTakes] at hRun
    rw [run_bind _ hRun, if_neg hAll,
      Sink.after_append_of_not_takes u hTakes]
    rfl

/- Nothing is printed behind a program that ends early. -/
theorem Prints.halt
    {first : Printer (StateM σ) ε Unit}
    {t : Text}
    {halt : Halt ε}
    (second : Unit → Printer (StateM σ) ε Unit)
    (hFirst : Prints outlet fault first t (.error halt)) :
    Prints outlet fault (first >>= second) t
      (.error halt) := by
  intro s
  have hRun := hFirst s
  split_ifs at hRun ⊢
  · exact run_bind _ hRun
  · exact run_bind _ hRun

/- A loop prints what its rounds print. -/
theorem Prints.forM
    {α : Type}
    {items : List α}
    {body : α → Printer (StateM σ) ε Unit}
    {text : α → Text}
    (hBody :
      ∀ item ∈ items,
        Prints outlet fault (body item) (text item)
          (.ok ())) :
    Prints outlet fault (items.forM body)
      (items.flatMap text) (.ok ()) := by
  induction items with
  | nil => exact prints_nil fun _ => rfl
  | cons item items ih =>
      rw [List.flatMap_cons]
      have hFirst := hBody item List.mem_cons_self
      have hOthers := ih fun other hOther =>
        hBody other (List.mem_cons_of_mem item hOther)
      exact hFirst.sequence hOthers

end

end Report

end Translit

------------------------------------------------------------
-- Lines
------------------------------------------------------------

namespace Translit

namespace Report

variable {σ ε : Type} {outlet : Outlet σ} {fault : ε}

theorem prints_printLine
    (palette : Palette)
    (line : Line) :
    Prints outlet fault
      (printLine (outlet.write fault) palette line)
      (render palette [line]) (.ok ()) := by
  rw [render_line]
  apply Prints.sequence _ (prints_put ['\n'])
  exact Prints.forM fun span _ =>
    prints_put (span.render palette)

theorem prints_forM_printLine
    (palette : Palette)
    (report : List Line) :
    Prints outlet fault
      (report.forM (printLine (outlet.write fault) palette))
      (render palette report) (.ok ()) := by
  rw [render_eq_flatMap]
  exact Prints.forM fun line _ =>
    prints_printLine palette line

end Report

end Translit

------------------------------------------------------------
-- Sections
------------------------------------------------------------

namespace Translit

namespace Report

variable {σ ε : Type} {outlet : Outlet σ} {fault : ε}

theorem prints_records
    (palette : Palette)
    (mode : Mode)
    (records : List Record) :
    Prints outlet fault
      (records.forM fun record =>
        printLine (outlet.write fault) palette
          (recordLine mode record))
      (render palette (records.map (recordLine mode)))
      (.ok ()) := by
  rw [render_eq_flatMap, List.flatMap_map]
  exact Prints.forM fun record _ =>
    prints_printLine palette (recordLine mode record)

theorem prints_printSummary
    (palette : Palette)
    {details : Details}
    (hCount : lineCount details.hits < UInt64.size) :
    Prints outlet fault
      (printSummary (outlet.write fault) palette details)
      (render palette (summary details)) (.ok ()) := by
  have hDemand :
      lineCount? details.hits =
        some (lineCount details.hits) := by
    rw [lineCount?_eq, if_pos hCount]
  have hText :
      render palette (summary details) =
        render palette
            [ countLine (lineCount details.hits)
                details.manual ] ++
          render palette
            [gatingLine details.tried details.skipped] := by
    rw [← render_append]
    rfl
  unfold printSummary
  rw [hDemand, bind_demand_some, hText]
  exact (prints_printLine palette _).sequence
    (prints_printLine palette _)

/- Without a line count the summary has not even begun. -/
theorem prints_printSummary_broken
    (palette : Palette)
    {details : Details}
    (hCount : ¬ lineCount details.hits < UInt64.size) :
    Prints outlet fault
      (printSummary (outlet.write fault) palette details) []
      (.error .broken) := by
  have hDemand : lineCount? details.hits = none := by
    rw [lineCount?_eq, if_neg hCount]
  unfold printSummary
  rw [hDemand]
  exact prints_nil fun _ => rfl

theorem prints_printRules
    (palette : Palette)
    {hits : List RuleHit}
    (hWidth : nameWidth (fired hits) ≤ maxWidth) :
    Prints outlet fault
      (printRules (outlet.write fault) palette hits)
      (render palette (ruleRows hits)) (.ok ()) := by
  unfold printRules ruleRows
  split_ifs
  · exact prints_printLine palette noticeLine
  · rw [render_eq_flatMap, List.flatMap_map]
    apply Prints.forM
    intro hit _
    rw [padTo?, if_pos hWidth, bind_demand_some]
    exact prints_printLine palette
      (ruleRow (nameWidth (fired hits)) hit)

/- A column that is too wide has no first row. -/
theorem prints_printRules_broken
    (palette : Palette)
    {hits : List RuleHit}
    (hWidth : ¬ nameWidth (fired hits) ≤ maxWidth) :
    Prints outlet fault
      (printRules (outlet.write fault) palette hits) []
      (.error .broken) := by
  unfold printRules
  cases hFired : fired hits with
  | nil =>
      rw [hFired] at hWidth
      exact absurd (Nat.zero_le maxWidth) hWidth
  | cons hit others =>
      rw [hFired] at hWidth
      have hDemand :
          padTo? (nameWidth (hit :: others)) hit.rule =
            none :=
        if_neg hWidth
      have hRow :
          Prints outlet fault
            (demand (padTo? (nameWidth (hit :: others))
                hit.rule) >>= fun name =>
              printLine (outlet.write fault) palette
                (rowLine name hit.count))
            [] (.error .broken) := by
        rw [hDemand]
        exact prints_nil fun _ => rfl
      exact hRow.halt _

end Report

end Translit

------------------------------------------------------------
-- Whole Reports
------------------------------------------------------------

namespace Translit

namespace Report

/- How a report ends of which all is taken. -/
def ending
    {ε : Type}
    (hits : List RuleHit) : Except (Halt ε) Unit :=
  if IsShowable hits then .ok () else .error .broken

theorem ending_eq_ok_iff
    {ε : Type}
    (hits : List RuleHit) :
    ending hits = (.ok () : Except (Halt ε) Unit) ↔
      IsShowable hits := by
  unfold ending
  split_ifs with hShowable
  · exact iff_of_true rfl hShowable
  · exact iff_of_false (by simp) hShowable

variable {σ ε : Type}

/- Printing a report writes what can be reached of it. -/
theorem prints_print
    (outlet : Outlet σ)
    (fault : ε)
    (palette : Palette)
    (details : Details)
    (elapsed : Elapsed)
    (mode : Mode) :
    Prints outlet fault
      (print (outlet.write fault) palette details elapsed
        mode)
      (render palette (reached details elapsed mode))
      (ending details.hits) := by
  have hHeading :
      ∀ title,
        Prints outlet fault
          (printHeading (outlet.write fault) palette title)
          (render palette (heading title)) (.ok ()) :=
    fun title => prints_forM_printLine palette _
  have hTiming :
      Prints outlet fault
        (printTiming (outlet.write fault) palette elapsed)
        (render palette (timing elapsed)) (.ok ()) :=
    prints_forM_printLine palette _
  unfold print reached ending
  rw [render_append, render_append]
  apply (prints_records palette mode details.records).sequence
  apply (hHeading "Summary").sequence
  have hShowable := isShowable_iff details.hits
  by_cases hCount : lineCount details.hits < UInt64.size
  · rw [if_pos hCount, render_append, render_append]
    apply (prints_printSummary palette hCount).sequence
    apply (hHeading "Rules").sequence
    by_cases hWidth :
        nameWidth (fired details.hits) ≤ maxWidth
    · rw [if_pos hWidth,
        if_pos (hShowable.mpr ⟨hCount, hWidth⟩),
        render_append, render_append]
      apply (prints_printRules palette hWidth).sequence
      exact (hHeading "Timing").sequence hTiming
    · rw [if_neg hWidth,
        if_neg fun hAll => hWidth (hShowable.mp hAll).2]
      exact (prints_printRules_broken palette hWidth).halt _
  · rw [if_neg hCount,
      if_neg fun hAll => hCount hAll.count]
    exact (prints_printSummary_broken palette hCount).halt _

/-
  A report that can be shown is printed as if its parts were
  written in order up to the first that does not fit.
-/
theorem print_eq_writeAll
    (outlet : Outlet σ)
    (fault : ε)
    (palette : Palette)
    {details : Details}
    (elapsed : Elapsed)
    (mode : Mode)
    (s : σ)
    (hShowable : IsShowable details.hits) :
    (print (outlet.write fault) palette details elapsed
        mode).run s =
      let (sink, complete) :=
        (outlet.sink s).writeAll
          (chunks palette (lines details elapsed mode))
      ( if complete then .ok ()
        else .error (.refused fault),
        outlet.refill s sink ) := by
  rw [prints_print, reached_eq_lines elapsed mode hShowable,
    (ending_eq_ok_iff _).mpr hShowable,
    Sink.writeAll_eq_write]
  rfl

end Report

end Translit

------------------------------------------------------------
-- Printing On A Sink
------------------------------------------------------------

namespace Translit

namespace Report

/- How printing a report on a sink ends, and its bytes then. -/
def printOn
    (sink : Sink)
    (palette : Palette)
    (details : Details)
    (elapsed : Elapsed)
    (mode : Mode) : Except (Halt Unit) Unit × Bytes :=
  let (ended, after) :=
    (print (Outlet.whole.write ()) palette details elapsed
      mode).run sink
  (ended, after.bytes)

section

variable (palette : Palette)
variable (details : Details)
variable (elapsed : Elapsed)
variable (mode : Mode)

theorem printOn_eq
    (sink : Sink) :
    let t := render palette (reached details elapsed mode)
    printOn sink palette details elapsed mode =
      ( if sink.takes t then ending details.hits
        else .error (.refused ()),
        (sink.after t).bytes ) := by
  unfold printOn
  rw [prints_print]
  rfl

/- Without a limit all that can be reached is written. -/
theorem printOn_unlimited :
    printOn .unlimited palette details elapsed mode =
      ( ending details.hits,
        (render palette
          (reached details elapsed mode)).utf8 ) := by
  have hTakes :
      Sink.unlimited.takes
        (render palette (reached details elapsed mode)) :=
    Sink.takes_of_unlimited _ rfl
  rw [printOn_eq, if_pos hTakes,
    Sink.bytes_after_of_takes hTakes]
  rfl

/- With a limit it is cut off there. -/
theorem printOn_limited
    (capacity : Nat) :
    let whole :=
      (render palette (reached details elapsed mode)).utf8
    printOn (.limited capacity) palette details elapsed
        mode =
      ( if whole.length ≤ capacity then ending details.hits
        else .error (.refused ()),
        whole.take (min capacity whole.length) ) := by
  simp only [printOn_eq, Sink.takes_limited_iff,
    Sink.bytes_after_limited]

end

/-
  A sink of limited capacity gets the front of the report, up
  to its capacity, where the whole report is what a sink
  without a limit gets.  Printing succeeds exactly if nothing
  is cut off and the rules can be shown.  Then the whole
  report is the text of its lines, and the sink is left as if
  their parts were written up to the first that does not fit.
-/
theorem print_limited
    (details : Details)
    (elapsed : Elapsed)
    (mode : Mode)
    (palette : Palette)
    (capacity : Nat) :
    let whole :=
      (printOn .unlimited palette details elapsed mode).2
    let printed :=
      printOn (.limited capacity) palette details elapsed mode
    (printed.1 = .ok () ↔
        IsShowable details.hits ∧ whole.length ≤ capacity) ∧
      (capacity < whole.length →
        printed.1 = .error (.refused ())) ∧
      printed.2 = whole.take (min capacity whole.length) ∧
      (IsShowable details.hits →
        whole =
            (render palette
              (lines details elapsed mode)).utf8 ∧
          printed =
            let (sink, complete) :=
              (Sink.limited capacity).writeAll
                (chunks palette (lines details elapsed mode))
            ( if complete then .ok ()
              else .error (.refused ()),
              sink.bytes )) := by
  intro whole printed
  have hWhole :
      whole =
        (render palette
          (reached details elapsed mode)).utf8 := by
    change (printOn _ _ _ _ _).2 = _
    rw [printOn_unlimited]
  have hPrinted :
      printed =
        ( if whole.length ≤ capacity then
            ending details.hits
          else .error (.refused ()),
          whole.take (min capacity whole.length) ) := by
    rw [hWhole]
    exact printOn_limited palette details elapsed mode
      capacity
  refine ⟨?_, ?_, ?_, ?_⟩
  · have hEnding :
        ending details.hits =
            (.ok () : Except (Halt Unit) Unit) ↔
          IsShowable details.hits :=
      ending_eq_ok_iff details.hits
    rw [hPrinted]
    split_ifs with hFits
    · simp [hFits, hEnding]
    · simp [hFits]
  · intro hLong
    rw [hPrinted, if_neg (Nat.not_le.mpr hLong)]
  · rw [hPrinted]
  · intro hShowable
    constructor
    · rw [hWhole, reached_eq_lines elapsed mode hShowable]
    · change printOn _ _ _ _ _ = _
      unfold printOn
      rw [print_eq_writeAll _ _ _ _ _ _ hShowable]
      rfl

/- Details of one rule, whose name has so many bytes. -/
def wide
    (width : Nat) : Details where
  mode := none
  records := []
  hits := [⟨List.replicate width 'a', 1⟩]
  manual := 0
  tried := 0
  skipped := 0

theorem isShowable_wide_iff
    (width : Nat) :
    IsShowable (wide width).hits ↔ width ≤ maxWidth := by
  have hCount : lineCount (wide width).hits = 1 := rfl
  have hFired :
      fired (wide width).hits =
        [⟨List.replicate width 'a', 1⟩] :=
    rfl
  have hName :
      Text.utf8Length (List.replicate width 'a') = width := by
    rw [Text.utf8Length_replicate]
    exact Nat.mul_one width
  rw [isShowable_iff, nameWidth_le_iff, hCount, hFired]
  simp [hName, UInt64.size]

/- The widest name fits, and a sink without room fails. -/
theorem print_limited_widest :
    let whole :=
      (printOn .unlimited ⟨true⟩ (wide 65535) .zero
        .verbose).2
    IsShowable (wide 65535).hits ∧
      whole =
        (render ⟨true⟩
          (lines (wide 65535) .zero .verbose)).utf8 ∧
      0 < whole.length ∧
      (printOn (.limited 0) ⟨true⟩ (wide 65535) .zero
          .verbose).1 =
        .error (.refused ()) := by
  intro whole
  have hShowable : IsShowable (wide 65535).hits :=
    (isShowable_wide_iff 65535).mpr (Nat.le_refl _)
  have hFirst :
      ∀ width,
        render ⟨true⟩ (reached (wide width) .zero .verbose) =
          ['\n'] ++
            render ⟨true⟩
              (reached (wide width) .zero .verbose).tail :=
    fun _ => render_append ⟨true⟩ [[]] _
  have hLong : 0 < whole.length := by
    change 0 < (printOn _ _ _ _ _).2.length
    rw [printOn_unlimited, hFirst, Text.utf8_append,
      List.length_append]
    exact Nat.lt_add_right _ (by decide)
  rcases print_limited (wide 65535) .zero .verbose ⟨true⟩ 0
    with ⟨_, hRefused, _, hShown⟩
  exact ⟨hShowable, (hShown hShowable).1, hLong,
    hRefused hLong⟩

/- A name with one more byte is printed on no sink. -/
theorem print_wide_broken :
    lineCount (wide 65536).hits < UInt64.size ∧
      ∀ capacity,
        (printOn (.limited capacity) ⟨false⟩ (wide 65536)
          .zero .verbose).1 ≠ .ok () := by
  have hWide : ¬ IsShowable (wide 65536).hits := by
    rw [isShowable_wide_iff]
    decide
  refine ⟨by decide, ?_⟩
  intro capacity
  rw [printOn_limited, ending, if_neg hWide]
  split_ifs
  · simp
  · simp

end Report

end Translit
