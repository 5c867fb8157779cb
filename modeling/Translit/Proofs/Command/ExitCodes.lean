import Translit.Proofs.Command.Course

/-
  How a conversion ends.

  The exit code says how far a conversion has come.  It is 0
  if the output and all messages were delivered, and 1 if the
  input, the report or the output has failed, which one line
  tells.  A success that cannot be told is neither, nor is a
  report that breaks off.

  Key definitions include:
    * `World.ending`
    * `World.Delivers`
    * `World.Refuses`
    * `World.Silences`
    * `World.Breaks`
    * `World.aside`

  Main declarations:
    * `World.Writes.takes_success`
    * `Course.ended_eq`
    * `Course.exists_line_of_failed`
    * `Course.bytes_of_success`
    * `Course.bytes_of_broken`
    * `execute_exitCodes`
-/

------------------------------------------------------------
-- Outputs And Streams
------------------------------------------------------------

namespace Translit

namespace Command

namespace World

variable {elapsed : Elapsed} {job : Job} {world : World}

/- The report stands in no output's way. -/
@[simp] theorem accepts_reported
    (source t : Text) :
    (world.reported elapsed job source).accepts job.output t =
      world.accepts job.output t := by
  unfold accepts
  split
  · next hStream =>
      unfold takes
      rw [sink_out_reported source hStream]
  · rw [files_reported]

theorem Writes.isOrdinary
    {path : String}
    {t : Text}
    {result : Except Fault Unit}
    {next : World}
    (hOutput : world.Writes path t result next) :
    FailsOrdinarily result := by
  cases hOutput with
  | stream _ => exact .ite (.ok ()) (.error rfl)
  | written _ _ => exact .ok ()
  | refused _ hWrite =>
      exact .error
        (world.files.write_failsOrdinarily _ _ _ hWrite)

/- Neither report nor success meets the output. -/
theorem Writes.sink_reportChannel
    {t : Text}
    {result : Except Fault Unit}
    {next : World}
    (hOutput : world.Writes job.output t result next) :
    next.sink (reportChannel job) =
      world.sink (reportChannel job) := by
  cases hStream : isStream job.output with
  | true =>
      rw [reportChannel_of_isStream hStream]
      exact hOutput.sink_err
  | false =>
      rw [reportChannel_of_file hStream]
      exact hOutput.sink_out hStream

/- Success is told behind the report, on the same stream. -/
theorem Writes.takes_success
    {source : Text}
    {result : Except Fault Unit}
    {next : World}
    (hReport : world.takesReport elapsed job source)
    (hOutput :
      (world.reported elapsed job source).Writes job.output
        (convert source) result next) :
    next.takes (reportChannel job) job.success =
      world.takes (reportChannel job)
        (world.report elapsed job source ++ job.success) := by
  unfold takesReport takes at hReport
  unfold takes
  rw [hOutput.sink_reportChannel, sink_reported_self,
    Bool.eq_iff_iff, Sink.takes_append]
  simp [hReport]

end World

end Command

end Translit

------------------------------------------------------------
-- Ways To End
------------------------------------------------------------

namespace Translit

namespace Command

namespace World

/- How a conversion ends that can tell of a failure. -/
def ending
    (world : World)
    (elapsed : Elapsed)
    (job : Job) : Exit :=
  match world.source? job.input with
  | none => .failed
  | some source =>
      if !world.takesReport elapsed job source then .failed
      else if !job.showable source then .broken
      else if !world.accepts job.output (convert source) then
        .failed
      else if world.takes (reportChannel job)
          (world.report elapsed job source ++
            job.success) then
        .success
      else .broken

/- The output and all messages of a job can be delivered. -/
def Delivers
    (world : World)
    (elapsed : Elapsed)
    (job : Job) : Prop :=
  ∃ source,
    world.source? job.input = some source ∧
      job.showable source ∧
      world.accepts job.output (convert source) ∧
      world.takes (reportChannel job)
        (world.report elapsed job source ++ job.success)

/- The input, the report or the output of a job fails. -/
def Refuses
    (world : World)
    (elapsed : Elapsed)
    (job : Job) : Prop :=
  world.source? job.input = none ∨
    ∃ source,
      world.source? job.input = some source ∧
        (world.takesReport elapsed job source = false ∨
          world.reports elapsed job source ∧
            world.accepts job.output (convert source) =
              false)

/- All goes well, but there is no room to say so. -/
def Silences
    (world : World)
    (elapsed : Elapsed)
    (job : Job) : Prop :=
  ∃ source,
    world.source? job.input = some source ∧
      world.reports elapsed job source ∧
      world.accepts job.output (convert source) ∧
      world.takes (reportChannel job)
        (world.report elapsed job source ++ job.success) =
          false

/- The report of a job is taken, but cannot be made. -/
def Breaks
    (world : World)
    (elapsed : Elapsed)
    (job : Job) : Prop :=
  ∃ source,
    world.source? job.input = some source ∧
      world.takesReport elapsed job source ∧
      job.showable source = false

variable {elapsed : Elapsed} {job : Job} {world : World}

/- Room for all messages is room for the report. -/
theorem takesReport_of_takes
    {source : Text}
    (hTold :
      world.takes (reportChannel job)
        (world.report elapsed job source ++ job.success)) :
    world.takesReport elapsed job source :=
  ((Sink.takes_append _ _ _).mp hTold).1

theorem ending_eq_success_iff :
    world.ending elapsed job = .success ↔
      world.Delivers elapsed job := by
  unfold ending Delivers
  cases world.source? job.input with
  | none => simp
  | some source =>
      have hRoom :
          world.takes (reportChannel job)
              (world.report elapsed job source ++
                job.success) →
            world.takesReport elapsed job source :=
        takesReport_of_takes
      simp only [Option.some.injEq, exists_eq_left']
      grind

theorem ending_eq_failed_iff :
    world.ending elapsed job = .failed ↔
      world.Refuses elapsed job := by
  unfold ending Refuses reports
  cases world.source? job.input with
  | none => simp
  | some source =>
      simp only [Option.some.injEq, exists_eq_left']
      grind

theorem ending_eq_broken_iff :
    world.ending elapsed job = .broken ↔
      world.Silences elapsed job ∨
        world.Breaks elapsed job := by
  unfold ending Silences Breaks reports
  cases world.source? job.input with
  | none => simp
  | some source =>
      simp only [Option.some.injEq, exists_eq_left']
      grind

end World

variable {elapsed : Elapsed} {job : Job} {world : World}

/- The code tells how a conversion ended. -/
theorem Exit.code_eq_code_iff
    (ended other : Exit) :
    ended.code = other.code ↔ ended = other := by
  cases ended <;> cases other <;> decide

/- No conversion ends with the code of a wrong invocation. -/
theorem World.code_ending_mem :
    (world.ending elapsed job).code ∈ [0, 1, 101] := by
  unfold ending
  split
  · decide
  · split_ifs <;> decide

end Command

end Translit

------------------------------------------------------------
-- Messages
------------------------------------------------------------

namespace Translit

namespace Command

namespace World

/- What a conversion shows on standard error as it goes. -/
def aside
    (world : World)
    (elapsed : Elapsed)
    (job : Job) : Text :=
  match world.source? job.input with
  | none => []
  | some source =>
      if isStream job.output then
        world.report elapsed job source
      else []

variable {elapsed : Elapsed} {job : Job} {world : World}

/- A failure is told in full where there is no limit. -/
theorem told_err
    (line : Text)
    (ended : Exit)
    (hErr : (world.sink .err).capacity = none) :
    world.told .err line ended =
      (ended, world.printed .err line) :=
  told_of_takes ended (Sink.takes_of_unlimited line hErr)

theorem bytes_printed_err
    (t : Text)
    (hErr : (world.sink .err).capacity = none) :
    ((world.printed .err t).sink .err).bytes =
      (world.sink .err).bytes ++ t.utf8 := by
  rw [sink_printed_self]
  exact Sink.bytes_after_of_takes
    (Sink.takes_of_unlimited t hErr)

theorem capacity_sink_printed
    (channel other : Channel)
    (t : Text) :
    ((world.printed channel t).sink other).capacity =
      (world.sink other).capacity := by
  by_cases hOther : other = channel
  · rw [hOther, sink_printed_self, Sink.capacity_after]
  · rw [sink_printed_of_ne _ _ hOther]

theorem capacity_err_reported
    (elapsed : Elapsed)
    (job : Job)
    (source : Text)
    (hErr : (world.sink .err).capacity = none) :
    ((world.reported elapsed job source).sink .err).capacity =
      none := by
  rw [reported, capacity_sink_printed]
  exact hErr

theorem lastWords_printed
    (channel : Channel)
    (t : Text) :
    (world.printed channel t).lastWords =
      world.lastWords := by
  cases channel with
  | out => rfl
  | err => rfl

/- An output gives standard error no limit. -/
theorem Writes.capacity_err
    {source t : Text}
    {result : Except Fault Unit}
    {next : World}
    (hOutput :
      (world.reported elapsed job source).Writes job.output t
        result next)
    (hErr : (world.sink .err).capacity = none) :
    (next.sink .err).capacity = none := by
  rw [hOutput.sink_err]
  exact capacity_err_reported elapsed job source hErr

/- The report of an output on a stream is shown there. -/
theorem bytes_err_reported
    {source : Text}
    (hErr : (world.sink .err).capacity = none)
    (hSource : world.source? job.input = some source) :
    ((world.reported elapsed job source).sink .err).bytes =
      (world.sink .err).bytes ++
        Text.utf8 (world.aside elapsed job) := by
  unfold aside
  rw [hSource]
  cases hStream : isStream job.output with
  | false =>
      rw [sink_err_reported source hStream]
      exact (List.append_nil _).symm
  | true =>
      unfold reported
      rw [reportChannel_of_isStream hStream]
      exact bytes_printed_err _ hErr

/- An output on a stream is not followed by silence. -/
theorem Silences.isStream_eq_false
    (hSilences : world.Silences elapsed job)
    (hErr : (world.sink .err).capacity = none) :
    isStream job.output = false := by
  rcases hSilences with ⟨source, _, _, _, hUntold⟩
  cases hStream : isStream job.output with
  | false => rfl
  | true =>
      rw [reportChannel_of_isStream hStream, takes,
        Sink.takes_of_unlimited _ hErr] at hUntold
      cases hUntold

/- The report of a source in memory does not break off. -/
theorem not_breaks_of_size
    {source : Text}
    (hSource : world.source? job.input = some source)
    (hSize : source.utf8Length < UInt64.size) :
    ¬ world.Breaks elapsed job := by
  rintro ⟨other, hOther, _, hShowable⟩
  rw [hSource, Option.some.injEq] at hOther
  rw [← hOther, job.showable_of_size hSize] at hShowable
  cases hShowable

end World

end Command

end Translit

------------------------------------------------------------
-- The Ends Of Courses
------------------------------------------------------------

namespace Translit

namespace Command

variable {elapsed : Elapsed} {job : Job} {world : World}
variable {after : Exit × World}

/- Each course has this end. -/
theorem Course.ended_eq
    (hCourse : Course elapsed job world after)
    (hErr : (world.sink .err).capacity = none) :
    after.1 = world.ending elapsed job := by
  unfold World.ending
  cases hCourse with
  | unread hSource hOrdinary hPath =>
      rw [World.told_err _ _ hErr, hSource]
  | unreported hSource hReport =>
      rw [World.told_err _ _
        (World.capacity_err_reported _ _ _ hErr), hSource]
      simp [hReport]
  | broken hSource hReport hShowable =>
      simp [hSource, hReport, hShowable]
  | unwritten hSource hReport hOutput =>
      have hRejected := hOutput.isOk_eq
      rw [World.accepts_reported] at hRejected
      rcases (World.reports_iff _).mp hReport with
        ⟨hTakes, hShowable⟩
      rw [World.told_err _ _ (hOutput.capacity_err hErr),
        hSource]
      simp [hTakes, hShowable, ← hRejected, Except.isOk,
        Except.toBool]
  | written hSource hReport hOutput =>
      have hAccepted := hOutput.isOk_eq
      rw [World.accepts_reported] at hAccepted
      rcases (World.reports_iff _).mp hReport with
        ⟨hTakes, hShowable⟩
      rw [World.told, hOutput.takes_success hTakes, hSource]
      simp only [hTakes, hShowable, ← hAccepted, Except.isOk,
        Except.toBool, Bool.not_true]
      split
      · rfl
      · rfl

/-
  A failed conversion ends with a line that tells why.  It is
  one line unless a path holds a line feed.
-/
theorem Course.exists_line_of_failed
    (hCourse : Course elapsed job world after)
    (hFailed : after.1 = .failed)
    (hErr : (world.sink .err).capacity = none) :
    ∃ line,
      "Error: ".toList <+: line ∧
        ('\n' ∉ job.input.toList →
          '\n' ∉ job.output.toList → '\n' ∉ line) ∧
        (after.2.sink .err).bytes =
          (world.sink .err).bytes ++
            Text.utf8 (world.aside elapsed job) ++
            Text.utf8 (line ++ ['\n']) := by
  cases hCourse with
  | @unread failure hSource hOrdinary hPath =>
      refine
        ⟨failure.message, failure.error_isPrefix_message,
          ?_, ?_⟩
      · intro hInput _
        rw [← hPath] at hInput
        exact Failure.lineFeed_notMem_message hOrdinary hInput
      · rw [World.told_err _ _ hErr,
          World.bytes_printed_err _ hErr, World.aside,
          hSource]
        simp [Text.utf8]
  | @unreported source hSource hReport =>
      have hLater :=
        World.capacity_err_reported elapsed job source hErr
      refine
        ⟨(Failure.report .noSpace).message,
          Failure.error_isPrefix_message _, ?_, ?_⟩
      · intro _ _
        exact Failure.lineFeed_notMem_message rfl
          List.not_mem_nil
      · rw [World.told_err _ _ hLater,
          World.bytes_printed_err _ hLater,
          World.bytes_err_reported hErr hSource]
  | broken hSource hReport hShowable => cases hFailed
  | @unwritten source fault next hSource hReport hOutput =>
      have hLater := hOutput.capacity_err hErr
      refine
        ⟨(Failure.write job.output fault).message,
          Failure.error_isPrefix_message _, ?_, ?_⟩
      · intro _ hPath
        exact Failure.lineFeed_notMem_message
          (hOutput.isOrdinary fault rfl) hPath
      · rw [World.told_err _ _ hLater,
          World.bytes_printed_err _ hLater, hOutput.sink_err,
          World.bytes_err_reported hErr hSource]
  | written hSource hReport hOutput =>
      cases (World.takes_of_told hFailed (by decide)).1

/- After a success all messages stand on their stream. -/
theorem Course.bytes_of_success
    (hCourse : Course elapsed job world after)
    (hSuccess : after.1 = .success) :
    ∃ source,
      world.source? job.input = some source ∧
        (after.2.sink (reportChannel job)).bytes =
          (world.sink (reportChannel job)).bytes ++
            Text.utf8
              (world.report elapsed job source ++
                job.success) := by
  rcases hCourse.exists_of_success hSuccess with
    ⟨source, next, hSource, hReport, hOutput, hTold, hAfter⟩
  have hTakes := ((World.reports_iff source).mp hReport).1
  refine ⟨source, hSource, ?_⟩
  rw [hAfter, World.sink_printed_self,
    hOutput.sink_reportChannel, World.sink_reported_self,
    ← Sink.after_append_of_takes _ hTakes]
  rw [hOutput.takes_success hTakes] at hTold
  exact Sink.bytes_after_of_takes hTold

/- A program that has broken off ends with its last words. -/
theorem Course.bytes_of_broken
    (hCourse : Course elapsed job world after)
    (hBroken : after.1 = .broken)
    (hErr : (world.sink .err).capacity = none) :
    (after.2.sink .err).bytes =
      (world.sink .err).bytes ++
        Text.utf8 (world.aside elapsed job) ++
        Text.utf8 world.lastWords := by
  cases hCourse with
  | unread hSource hOrdinary hPath =>
      rw [World.told_err _ _ hErr] at hBroken
      cases hBroken
  | unreported hSource hReport =>
      rw [World.told_err _ _
        (World.capacity_err_reported _ _ _ hErr)] at hBroken
      cases hBroken
  | @broken source hSource hReport hShowable =>
      have hLater :=
        World.capacity_err_reported elapsed job source hErr
      rw [World.brokenOff, World.bytes_printed_err _ hLater,
        World.bytes_err_reported hErr hSource]
      unfold World.reported
      rw [World.lastWords_printed]
  | unwritten hSource hReport hOutput =>
      rw [World.told_err _ _ (hOutput.capacity_err hErr)]
        at hBroken
      cases hBroken
  | @written source next hSource hReport hOutput =>
      have hLater := hOutput.capacity_err hErr
      have hWords : next.lastWords = world.lastWords := by
        rw [hOutput.lastWords_eq]
        exact World.lastWords_printed _ _
      cases hStream : isStream job.output with
      | true =>
          rw [reportChannel_of_isStream hStream,
            World.told_err _ _ hLater] at hBroken
          cases hBroken
      | false =>
          rw [World.told_of_broken hBroken (by decide),
            reportChannel_of_file hStream, World.brokenOff,
            World.bytes_printed_err, World.sink_printed_of_ne,
            hOutput.sink_err,
            World.bytes_err_reported hErr hSource,
            World.lastWords_printed, hWords]
          · simp
          · rw [World.capacity_sink_printed]
            exact hLater

end Command

end Translit

------------------------------------------------------------
-- Exit Codes
------------------------------------------------------------

namespace Translit

namespace Command

/-
  The exit code of a conversion, where standard error has no
  limit.  A conversion ends with 0 if all was delivered, and
  with 1 and a line that tells why if something has failed.
  It ends with 101 and no such line if its output went to a
  file and there was no room to tell so.  A report that breaks
  off would end in the same way, but no source in memory has
  one.
-/
theorem execute_exitCodes
    {arguments : List String}
    {job : Job}
    (elapsed : Elapsed)
    (world : World)
    (hParse : Invocation.parse arguments = .convert job)
    (hErr : world.stderr.capacity = none) :
    ((world.execute elapsed arguments).1.code = 0 ↔
        world.Delivers elapsed job) ∧
      ((world.execute elapsed arguments).1.code = 1 ↔
        world.Refuses elapsed job) ∧
      ((world.execute elapsed arguments).1.code = 101 ↔
        world.Silences elapsed job ∨
          world.Breaks elapsed job) ∧
      (world.execute elapsed arguments).1.code ∈
        [0, 1, 101] ∧
      (world.Silences elapsed job →
        isStream job.output = false) ∧
      (∀ source,
        world.source? job.input = some source →
        source.utf8Length < UInt64.size →
        ¬ world.Breaks elapsed job) ∧
      ((world.execute elapsed arguments).1.code = 0 →
        ∃ source,
          world.source? job.input = some source ∧
            ((world.execute elapsed arguments).2.sink
                (reportChannel job)).bytes =
              (world.sink (reportChannel job)).bytes ++
                Text.utf8
                  (world.report elapsed job source ++
                    job.success)) ∧
      ((world.execute elapsed arguments).1.code = 1 →
        ∃ line,
          "Error: ".toList <+: line ∧
            ('\n' ∉ job.input.toList →
              '\n' ∉ job.output.toList → '\n' ∉ line) ∧
            (world.execute elapsed arguments).2.stderr.bytes =
              world.stderr.bytes ++
                Text.utf8 (world.aside elapsed job) ++
                Text.utf8 (line ++ ['\n'])) ∧
      ((world.execute elapsed arguments).1.code = 101 →
        (world.execute elapsed arguments).2.stderr.bytes =
          world.stderr.bytes ++
            Text.utf8 (world.aside elapsed job) ++
            Text.utf8 world.lastWords) := by
  have hCourse := course_convertJob elapsed job world
  rw [← execute_eq_convertJob elapsed world hParse]
    at hCourse
  have hEnded := hCourse.ended_eq hErr
  refine ⟨?_, ?_, ?_, ?_, ?_, ?_, ?_, ?_, ?_⟩
  · rw [hEnded, ← World.ending_eq_success_iff]
    exact Exit.code_eq_code_iff _ .success
  · rw [hEnded, ← World.ending_eq_failed_iff]
    exact Exit.code_eq_code_iff _ .failed
  · rw [hEnded, ← World.ending_eq_broken_iff]
    exact Exit.code_eq_code_iff _ .broken
  · rw [hEnded]
    exact World.code_ending_mem
  · intro hSilences
    exact hSilences.isStream_eq_false hErr
  · intro source hSource hSize
    exact World.not_breaks_of_size hSource hSize
  · intro hCode
    exact hCourse.bytes_of_success
      ((Exit.code_eq_code_iff _ .success).mp hCode)
  · intro hCode
    exact hCourse.exists_line_of_failed
      ((Exit.code_eq_code_iff _ .failed).mp hCode) hErr
  · intro hCode
    exact hCourse.bytes_of_broken
      ((Exit.code_eq_code_iff _ .broken).mp hCode) hErr

/- An output in a missing directory ends with 1. -/
theorem execute_exitCodes_missingDirectory :
    Invocation.parse ["convert", "a.rb", "d/b.py"] =
        .convert ⟨"a.rb", "d/b.py", ⟨false, false⟩, .auto⟩ ∧
      (World.holding "a.rb" "else"
          .unlimited).stderr.capacity = none ∧
      ((World.holding "a.rb" "else" .unlimited).execute .zero
          ["convert", "a.rb", "d/b.py"]).1.code = 1 := by
  have hParse :
      Invocation.parse ["convert", "a.rb", "d/b.py"] =
        .convert
          ⟨"a.rb", "d/b.py", ⟨false, false⟩, .auto⟩ := by
    decide
  have hCodes :=
    execute_exitCodes .zero
      (World.holding "a.rb" "else" .unlimited) hParse rfl
  refine ⟨hParse, rfl, hCodes.2.1.mpr (.inr ?_)⟩
  exact ⟨"else", by decide, .inr (by decide)⟩

/-
  What 0 and 1 leave out.  A line on an error is two lines if
  a path holds a line feed.  And a conversion that has written
  its output but has no room to tell so ends with neither of
  them, and with no line on an error but with whatever the
  last words are.
-/
theorem execute_exitCodes_lineFeed :
    ((World.holding "a.rb" "else" .unlimited).execute .zero
          ["convert", "x\nError: y", "b.py"]).1.code = 1 ∧
      ((World.holding "a.rb" "else" .unlimited).execute .zero
          ["convert", "x\nError: y",
            "b.py"]).2.stderr.bytes =
        Text.utf8
          ("Error: Input file 'x\n" ++
            "Error: y' does not exist.\n") ∧
      ∀ words,
        let world :=
          { World.holding "a.rb" "else" (.limited 0) with
            lastWords := words }
        let after :=
          world.execute .zero ["convert", "a.rb", "b.py"]
        after.1.code = 101 ∧
          after.2.files.read "b.py" =
            .ok (Text.utf8 "else:") ∧
          after.2.stderr.bytes = Text.utf8 words := by
  refine ⟨by decide, by decide, ?_⟩
  intro words world after
  have hParse :
      Invocation.parse ["convert", "a.rb", "b.py"] =
        .convert ⟨"a.rb", "b.py", ⟨false, false⟩, .auto⟩ := by
    decide
  have hCourse :=
    course_convertJob .zero
      ⟨"a.rb", "b.py", ⟨false, false⟩, .auto⟩ world
  rw [← execute_eq_convertJob .zero world hParse] at hCourse
  have hBroken : after.1 = .broken := rfl
  refine ⟨congrArg Exit.code hBroken, rfl, ?_⟩
  exact hCourse.bytes_of_broken hBroken rfl

end Command

end Translit
