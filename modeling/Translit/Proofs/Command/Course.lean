import Mathlib.Tactic.Common
import Translit.Command.World
import Translit.Proofs.Command.Files
import Translit.Proofs.Report.RuleTable

/-
  The course of a conversion in a world.

  A conversion reads its input, prints the report, writes the
  output and tells of success, and the first step that fails
  ends it.  `Course` says which ways this can go and what
  world each of them leaves behind; every conversion takes
  one of them.

  Key definitions include:
    * `World.takes`
    * `World.printed`
    * `World.told`
    * `World.source?`
    * `World.report`
    * `World.Writes`
    * `Course`

  Main declarations:
    * `print_host`
    * `tell_host`
    * `readInput_host`
    * `printReport_host`
    * `writeOutput_host`
    * `course_convertJob`
    * `Course.exists_of_success`
    * `execute_eq_convertJob`
-/

------------------------------------------------------------
-- Printing In A World
------------------------------------------------------------

namespace Translit

namespace Command

namespace World

/- A world with one file and nothing on its streams yet. -/
def holding
    (name content : Text)
    (stdout : Sink) : World where
  files :=
    FileSystem.fresh.put ["tmp", "work", name]
      (.file content.utf8)
  stdin := []
  stdout := stdout
  stderr := .unlimited
  colored := []
  lastWords := []

/- Whether all of a text can be printed. -/
def takes
    (world : World)
    (channel : Channel)
    (t : Text) : Bool :=
  (world.sink channel).takes t

/- The world when a text was printed. -/
def printed
    (world : World)
    (channel : Channel)
    (t : Text) : World :=
  world.withSink channel ((world.sink channel).after t)

/- The world when the program has broken off. -/
def brokenOff
    (world : World) : World :=
  world.printed .err world.lastWords

/- How the program ends that tells a line, and where. -/
def told
    (world : World)
    (channel : Channel)
    (line : Text)
    (ended : Exit) : Exit × World :=
  if world.takes channel line then
    (ended, world.printed channel line)
  else
    (.broken, (world.printed channel line).brokenOff)

@[simp] theorem files_printed
    (world : World)
    (channel : Channel)
    (t : Text) :
    (world.printed channel t).files = world.files := by
  cases channel with
  | out => rfl
  | err => rfl

@[simp] theorem files_told
    (world : World)
    (channel : Channel)
    (line : Text)
    (ended : Exit) :
    (world.told channel line ended).2.files =
      world.files := by
  unfold told brokenOff
  split
  · exact files_printed _ _ _
  · rw [files_printed, files_printed]

@[simp] theorem sink_printed_self
    (world : World)
    (channel : Channel)
    (t : Text) :
    (world.printed channel t).sink channel =
      (world.sink channel).after t :=
  (outlet channel).sink_refill _ _

theorem sink_printed_of_ne
    (world : World)
    (t : Text)
    {channel other : Channel}
    (hOther : other ≠ channel) :
    (world.printed channel t).sink other =
      world.sink other := by
  cases channel with
  | out =>
      cases other with
      | out => exact absurd rfl hOther
      | err => rfl
  | err =>
      cases other with
      | out => rfl
      | err => exact absurd rfl hOther

section

variable {world : World}
variable {channel : Channel}
variable {line : Text}

theorem told_of_takes
    (ended : Exit)
    (hTakes : world.takes channel line) :
    world.told channel line ended =
      (ended, world.printed channel line) :=
  if_pos hTakes

/- Who has not broken off has told the line in full. -/
theorem takes_of_told
    {ended other : Exit}
    (hTold : (world.told channel line ended).1 = other)
    (hOther : other ≠ .broken) :
    ended = other ∧ world.takes channel line := by
  unfold told at hTold
  split at hTold
  · next hTakes => exact ⟨hTold, hTakes⟩
  · exact absurd hTold.symm hOther

theorem told_of_broken
    {ended : Exit}
    (hTold : (world.told channel line ended).1 = .broken)
    (hEnded : ended ≠ .broken) :
    world.told channel line ended =
      (.broken, (world.printed channel line).brokenOff) := by
  unfold told at hTold ⊢
  split at hTold
  · exact absurd hTold hEnded
  · next hTakes => exact if_neg hTakes

end

end World

theorem print_host
    (elapsed : Elapsed)
    (channel : Channel)
    (t : Text)
    (world : World) :
    (World.host elapsed).print channel t world =
      ( if world.takes channel t then .ok ()
        else .error .noSpace,
        world.printed channel t ) :=
  (World.outlet channel).write_eq _ t world

theorem tell_host
    (elapsed : Elapsed)
    (channel : Channel)
    (line : Text)
    (ended : Exit)
    (world : World) :
    tell (World.host elapsed) channel line ended world =
      world.told channel line ended := by
  unfold tell World.told
  rw [bind_step _ (print_host _ _ _ _)]
  split
  · rfl
  · rfl

end Command

end Translit

------------------------------------------------------------
-- Failures
------------------------------------------------------------

namespace Translit

namespace Command

namespace Failure

/- The path that a failure names. -/
def path : Failure → Text
| .missingInput path => path.toList
| .read path _ => path.toList
| .report _ => []
| .write path _ => path.toList

/- Whether a failure comes from an ordinary fault, if any. -/
def isOrdinary : Failure → Bool
| .missingInput _ => true
| .read _ fault => fault.isOrdinary
| .report fault => fault.isOrdinary
| .write _ fault => fault.isOrdinary

/- What a failed read and a failed write say of a path. -/
theorem isPrefix_pathMessage
    (opening : Text)
    (path : String)
    (fault : Fault) :
    opening <+:
      opening ++ quotedPath path ++ ": ".toList ++
        fault.message := by
  rw [List.append_assoc, List.append_assoc]
  exact List.prefix_append _ _

/- Every message says first that it is an error. -/
theorem error_isPrefix_message
    (failure : Failure) :
    "Error: ".toList <+: failure.message := by
  cases failure with
  | missingInput path =>
      have hOpening :
          "Error: ".toList <+: "Error: Input file ".toList := by
        decide
      exact hOpening.trans
        ((List.prefix_append _ _).trans
          (List.prefix_append _ _))
  | read path fault =>
      have hOpening :
          "Error: ".toList <+:
            "Error: failed to read ".toList := by
        decide
      exact hOpening.trans (isPrefix_pathMessage _ path fault)
  | report fault =>
      have hOpening :
          "Error: ".toList <+:
            "Error: failed to print diagnostics: ".toList := by
        decide
      exact hOpening.trans (List.prefix_append _ _)
  | write path fault =>
      have hOpening :
          "Error: ".toList <+:
            "Error: failed to write ".toList := by
        decide
      exact hOpening.trans (isPrefix_pathMessage _ path fault)

theorem lineFeed_notMem_quotedPath
    {path : String}
    (hPath : '\n' ∉ path.toList) :
    '\n' ∉ quotedPath path := by
  have hQuote : '\n' ∉ "'".toList := by
    decide
  exact List.not_mem_append
    (List.not_mem_append hQuote hPath) hQuote

theorem lineFeed_notMem_pathMessage
    {opening : Text}
    {path : String}
    {fault : Fault}
    (hOpening : '\n' ∉ opening)
    (hPath : '\n' ∉ path.toList)
    (hOrdinary : fault.isOrdinary) :
    '\n' ∉
      opening ++ quotedPath path ++ ": ".toList ++
        fault.message := by
  have hColon : '\n' ∉ ": ".toList := by
    decide
  exact List.not_mem_append
    (List.not_mem_append
      (List.not_mem_append hOpening
        (lineFeed_notMem_quotedPath hPath))
      hColon)
    (Fault.lineFeed_notMem_message hOrdinary)

/- A message is one line, unless a path has line feeds. -/
theorem lineFeed_notMem_message
    {failure : Failure}
    (hOrdinary : failure.isOrdinary)
    (hPath : '\n' ∉ failure.path) :
    '\n' ∉ failure.message := by
  cases failure with
  | missingInput path =>
      have hOpening : '\n' ∉ "Error: Input file ".toList := by
        decide
      have hClosing : '\n' ∉ " does not exist.".toList := by
        decide
      exact List.not_mem_append
        (List.not_mem_append hOpening
          (lineFeed_notMem_quotedPath hPath))
        hClosing
  | read path fault =>
      have hOpening :
          '\n' ∉ "Error: failed to read ".toList := by
        decide
      exact lineFeed_notMem_pathMessage hOpening hPath
        hOrdinary
  | report fault =>
      have hOpening :
          '\n' ∉
            "Error: failed to print diagnostics: ".toList := by
        decide
      exact List.not_mem_append hOpening
        (Fault.lineFeed_notMem_message hOrdinary)
  | write path fault =>
      have hOpening :
          '\n' ∉ "Error: failed to write ".toList := by
        decide
      exact lineFeed_notMem_pathMessage hOpening hPath
        hOrdinary

end Failure

end Command

end Translit

------------------------------------------------------------
-- Reading The Input
------------------------------------------------------------

namespace Translit

namespace Command

namespace World

/- The text that an input path stands for, if there is one. -/
def source?
    (world : World)
    (path : String) : Option Text :=
  if isStream path then
    Text.ofUtf8? world.stdin
  else
    (world.files.read path.toList).toOption.bind
      Text.ofUtf8?

end World

/- A path that leads nowhere cannot be read. -/
theorem read_of_exists?_eq_false
    {files : FileSystem}
    {written : Text}
    (hMissing : files.exists? written = false) :
    (files.read written).toOption = none := by
  unfold FileSystem.exists? at hMissing
  unfold FileSystem.read
  cases hResolve : files.resolve written with
  | error fault => rfl
  | ok path =>
      rw [hResolve] at hMissing
      cases hMissing

/-
  What comes of reading a path: its text, or an ordinary
  failure that names the path.
-/
inductive ReadsAs
    (path : String) :
    Option Text → Except Failure Text → Prop
| text
    (source : Text) :
    ReadsAs path (some source) (.ok source)
| failure
    {failure : Failure}
    (hOrdinary : failure.isOrdinary)
    (hPath : failure.path = path.toList) :
    ReadsAs path none (.error failure)

theorem readsAs_decode
    (path : String)
    {bytes : Except Fault Bytes}
    (hBytes : FailsOrdinarily bytes) :
    ReadsAs path (bytes.toOption.bind Text.ofUtf8?)
      (decode path bytes) := by
  cases bytes with
  | error fault => exact .failure (hBytes fault rfl) rfl
  | ok bytes =>
      change ReadsAs path (Text.ofUtf8? bytes) _
      rw [decode]
      cases Text.ofUtf8? bytes with
      | none => exact .failure rfl rfl
      | some source => exact .text source

/- Reading an input leaves the world as it is. -/
theorem readInput_host
    (elapsed : Elapsed)
    (path : String)
    (world : World) :
    ∃ result,
      ReadsAs path (world.source? path) result ∧
        readInput (World.host elapsed) path world =
          (result, world) := by
  unfold readInput World.source?
  by_cases hStream : isStream path
  · rw [if_pos hStream, if_pos hStream]
    exact ⟨_, readsAs_decode path (.ok world.stdin), rfl⟩
  · have hExists :
        (World.host elapsed).exists? path world =
          (world.files.exists? path.toList, world) :=
      rfl
    rw [if_neg hStream, if_neg hStream, bind_step _ hExists]
    by_cases hFound : world.files.exists? path.toList
    · rw [if_pos hFound]
      exact ⟨_, readsAs_decode path
        (world.files.read_failsOrdinarily path.toList), rfl⟩
    · rw [if_neg hFound]
      rw [Bool.not_eq_true] at hFound
      rw [read_of_exists?_eq_false hFound]
      exact ⟨_, .failure rfl rfl, rfl⟩

end Command

end Translit

------------------------------------------------------------
-- Report, Output And Success
------------------------------------------------------------

namespace Translit

namespace Command

namespace Job

/- The line that tells of a job's success. -/
def success
    (job : Job) : Text :=
  (successLine job.output).2

/- Whether a job's report, if there is one, can be shown. -/
def showable
    (job : Job)
    (source : Text) : Bool :=
  job.options.mode?.isNone ||
    decide
      (Report.IsShowable
        (convertWith job.options source).details.hits)

end Job

/- Success is told where the report is printed. -/
theorem successLine_eq
    (job : Job) :
    successLine job.output =
      (reportChannel job, job.success) := by
  unfold Job.success successLine reportChannel
  split
  · rfl
  · rfl

/- The report of an output on a stream goes elsewhere. -/
theorem reportChannel_of_isStream
    {job : Job}
    (hStream : isStream job.output) :
    reportChannel job = .err :=
  if_pos hStream

theorem reportChannel_of_file
    {job : Job}
    (hFile : isStream job.output = false) :
    reportChannel job = .out := by
  rw [reportChannel, hFile]
  rfl

/- The report of a source in memory can be shown. -/
theorem Job.showable_of_size
    (job : Job)
    {source : Text}
    (hSize : source.utf8Length < UInt64.size) :
    job.showable source := by
  unfold showable
  simp [Report.isShowable_convertWith job.options hSize]

namespace World

/- Whether a job's report is in colour. -/
def showsColor
    (world : World)
    (job : Job) : Bool :=
  match job.color with
  | .auto => world.colored.contains (reportChannel job)
  | .always => true
  | .never => false

/- What a job prints as its report: nothing without a mode. -/
def report
    (world : World)
    (elapsed : Elapsed)
    (job : Job)
    (source : Text) : Text :=
  match job.options.mode? with
  | none => []
  | some mode =>
      Report.render ⟨world.showsColor job⟩
        (Report.reached
          (convertWith job.options source).details elapsed
          mode)

/- Whether the streams take all of a job's report. -/
def takesReport
    (world : World)
    (elapsed : Elapsed)
    (job : Job)
    (source : Text) : Bool :=
  world.takes (reportChannel job)
    (world.report elapsed job source)

/- Whether a job's report is printed to its end. -/
def reports
    (world : World)
    (elapsed : Elapsed)
    (job : Job)
    (source : Text) : Bool :=
  world.takesReport elapsed job source &&
    job.showable source

/- The world when a job's report was printed. -/
def reported
    (world : World)
    (elapsed : Elapsed)
    (job : Job)
    (source : Text) : World :=
  world.printed (reportChannel job)
    (world.report elapsed job source)

section

variable {elapsed : Elapsed} {job : Job} {world : World}

theorem reports_iff
    (source : Text) :
    world.reports elapsed job source ↔
      world.takesReport elapsed job source ∧
        job.showable source :=
  Bool.and_eq_true_iff

/- The report of a source in memory fails with its stream. -/
theorem reports_eq_takesReport
    {source : Text}
    (hSize : source.utf8Length < UInt64.size) :
    world.reports elapsed job source =
      world.takesReport elapsed job source := by
  rw [reports, job.showable_of_size hSize, Bool.and_true]

@[simp] theorem files_reported
    (source : Text) :
    (world.reported elapsed job source).files =
      world.files :=
  files_printed _ _ _

@[simp] theorem sink_reported_self
    (source : Text) :
    (world.reported elapsed job source).sink
        (reportChannel job) =
      (world.sink (reportChannel job)).after
        (world.report elapsed job source) :=
  sink_printed_self _ _ _

theorem sink_out_reported
    (source : Text)
    (hStream : isStream job.output) :
    (world.reported elapsed job source).sink .out =
      world.sink .out := by
  unfold reported
  rw [reportChannel_of_isStream hStream]
  exact sink_printed_of_ne _ _ (by simp)

theorem sink_err_reported
    (source : Text)
    (hFile : isStream job.output = false) :
    (world.reported elapsed job source).sink .err =
      world.sink .err := by
  unfold reported
  rw [reportChannel_of_file hFile]
  exact sink_printed_of_ne _ _ (by simp)

end

end World

theorem usesColor_host
    (elapsed : Elapsed)
    (job : Job)
    (world : World) :
    usesColor (World.host elapsed) job.color
        (reportChannel job) world =
      (world.showsColor job, world) := by
  unfold usesColor World.showsColor
  cases job.color with
  | auto => rfl
  | always => rfl
  | never => rfl

/-
  A report is printed as far as it can be shown and is taken.
  Without a mode there is nothing to print.
-/
theorem printReport_host
    (elapsed : Elapsed)
    (job : Job)
    (source : Text)
    (world : World) :
    printReport (World.host elapsed) job
        (convertWith job.options source).details world =
      ( if world.takesReport elapsed job source then
          if job.showable source then .ok ()
          else .error .broken
        else .error (.refused .noSpace),
        world.reported elapsed job source ) := by
  have hMode :
      (convertWith job.options source).details.mode =
        job.options.mode? :=
    rfl
  unfold printReport World.takesReport World.reported
    World.report Job.showable
  rw [hMode]
  cases job.options.mode? with
  | none =>
      have hNothing :
          Report.Prints (World.outlet (reportChannel job))
            Fault.noSpace (pure ()) [] (.ok ()) :=
        Report.prints_nil fun _ => rfl
      exact hNothing world
  | some mode =>
      have hElapsed :
          (World.host elapsed).elapsed world =
            (elapsed, world) :=
        rfl
      dsimp only
      rw [bind_step _ (usesColor_host _ _ _),
        bind_step _ hElapsed]
      refine (Report.prints_print
        (World.outlet (reportChannel job)) Fault.noSpace _ _
          _ _ world).trans ?_
      unfold Report.ending
      simp only [Option.isNone_some, Bool.false_or,
        decide_eq_true_eq]
      rfl

namespace World

/- What comes of writing an output, and what it leaves. -/
inductive Writes
    (world : World)
    (path : String)
    (t : Text) : Except Fault Unit → World → Prop
| stream
    (hStream : isStream path) :
    Writes world path t
      (if world.takes .out t then .ok ()
        else .error .noSpace)
      (world.printed .out t)
| written
    {files : FileSystem}
    (hFile : isStream path = false)
    (hWrite :
      world.files.write path.toList t.utf8 = .ok files) :
    Writes world path t (.ok ()) { world with files := files }
| refused
    {fault : Fault}
    (hFile : isStream path = false)
    (hWrite :
      world.files.write path.toList t.utf8 =
        .error fault) :
    Writes world path t (.error fault) world

/- Whether an output can be written. -/
def accepts
    (world : World)
    (path : String)
    (t : Text) : Bool :=
  if isStream path then world.takes .out t
  else (world.files.write path.toList t.utf8).isOk

section

variable {world next : World}
variable {path : String}
variable {t : Text}
variable {result : Except Fault Unit}

theorem accepts_of_isStream
    (hStream : isStream path) :
    world.accepts path t = world.takes .out t :=
  if_pos hStream

/- An output is written if it can be. -/
theorem Writes.isOk_eq
    (hOutput : world.Writes path t result next) :
    result.isOk = world.accepts path t := by
  unfold accepts
  cases hOutput with
  | stream hStream =>
      rw [if_pos hStream]
      cases world.takes .out t with
      | true => rfl
      | false => rfl
  | written hFile hWrite =>
      rw [hFile, hWrite]
      rfl
  | refused hFile hWrite =>
      rw [hFile, hWrite]
      rfl

theorem Writes.lastWords_eq
    (hOutput : world.Writes path t result next) :
    next.lastWords = world.lastWords := by
  cases hOutput with
  | stream _ => rfl
  | written _ _ => rfl
  | refused _ _ => rfl

theorem Writes.eq_printed
    (hOutput : world.Writes path t result next)
    (hStream : isStream path) :
    next = world.printed .out t := by
  cases hOutput with
  | stream _ => rfl
  | written hFile _ =>
      rw [hStream] at hFile
      cases hFile
  | refused hFile _ =>
      rw [hStream] at hFile
      cases hFile

/- An output leaves nothing on standard error. -/
theorem Writes.sink_err
    (hOutput : world.Writes path t result next) :
    next.sink .err = world.sink .err := by
  cases hOutput with
  | stream _ => exact sink_printed_of_ne _ _ (by simp)
  | written _ _ => rfl
  | refused _ _ => rfl

theorem Writes.sink_out
    (hOutput : world.Writes path t result next)
    (hFile : isStream path = false) :
    next.sink .out = world.sink .out := by
  cases hOutput with
  | stream hStream =>
      rw [hFile] at hStream
      cases hStream
  | written _ _ => rfl
  | refused _ _ => rfl

end

end World

theorem writeOutput_host
    (elapsed : Elapsed)
    (path : String)
    (t : Text)
    (world : World) :
    ∃ result next,
      world.Writes path t result next ∧
        writeOutput (World.host elapsed) path t world =
          (result.mapError (Failure.write path), next) := by
  unfold writeOutput
  by_cases hStream : isStream path
  · refine ⟨_, _, .stream hStream, ?_⟩
    rw [if_pos hStream,
      bind_step _ (print_host _ _ _ _)]
    split
    · rfl
    · rfl
  · rw [if_neg hStream]
    rw [Bool.not_eq_true] at hStream
    cases hWrite :
        world.files.write path.toList t.utf8 with
    | ok files =>
        have hFile :
            (World.host elapsed).writeFile path t world =
              (.ok (), { world with files := files }) := by
          change World.writeFile path t world = _
          rw [World.writeFile, hWrite]
        refine ⟨_, _, .written hStream hWrite, ?_⟩
        rw [bind_step _ hFile]
        rfl
    | error fault =>
        have hFile :
            (World.host elapsed).writeFile path t world =
              (.error fault, world) := by
          change World.writeFile path t world = _
          rw [World.writeFile, hWrite]
        refine ⟨_, _, .refused hStream hWrite, ?_⟩
        rw [bind_step _ hFile]
        rfl

end Command

end Translit

------------------------------------------------------------
-- Courses
------------------------------------------------------------

namespace Translit

namespace Command

/- The ways a conversion can go, and what they leave behind. -/
inductive Course
    (elapsed : Elapsed)
    (job : Job)
    (world : World) : Exit × World → Prop
| unread
    {failure : Failure}
    (hSource : world.source? job.input = none)
    (hOrdinary : failure.isOrdinary)
    (hPath : failure.path = job.input.toList) :
    Course elapsed job world
      (world.told .err (failure.message ++ ['\n']) .failed)
| unreported
    {source : Text}
    (hSource : world.source? job.input = some source)
    (hReport : world.takesReport elapsed job source = false) :
    Course elapsed job world
      ((world.reported elapsed job source).told .err
        ((Failure.report .noSpace).message ++ ['\n'])
        .failed)
| broken
    {source : Text}
    (hSource : world.source? job.input = some source)
    (hReport : world.takesReport elapsed job source)
    (hShowable : job.showable source = false) :
    Course elapsed job world
      (.broken, (world.reported elapsed job source).brokenOff)
| unwritten
    {source : Text}
    {fault : Fault}
    {next : World}
    (hSource : world.source? job.input = some source)
    (hReport : world.reports elapsed job source)
    (hOutput :
      (world.reported elapsed job source).Writes job.output
        (convert source) (.error fault) next) :
    Course elapsed job world
      (next.told .err
        ((Failure.write job.output fault).message ++ ['\n'])
        .failed)
| written
    {source : Text}
    {next : World}
    (hSource : world.source? job.input = some source)
    (hReport : world.reports elapsed job source)
    (hOutput :
      (world.reported elapsed job source).Writes job.output
        (convert source) (.ok ()) next) :
    Course elapsed job world
      (next.told (reportChannel job) job.success .success)

/- Every conversion takes one of its courses. -/
theorem course_convertJob
    (elapsed : Elapsed)
    (job : Job)
    (world : World) :
    Course elapsed job world
      (convertJob (World.host elapsed) job world) := by
  rcases readInput_host elapsed job.input world with
    ⟨result, hResult, hRead⟩
  unfold convertJob
  rw [bind_step _ hRead]
  generalize hSource : world.source? job.input = source?
    at hResult
  cases hResult with
  | failure hOrdinary hPath =>
      dsimp only [tellFailure]
      rw [tell_host]
      exact .unread hSource hOrdinary hPath
  | text source =>
      have hText :
          (convertWith job.options source).text =
            convert source :=
        rfl
      dsimp only
      rw [bind_step _ (printReport_host _ _ _ _), hText]
      by_cases hTakes : world.takesReport elapsed job source
      · rw [if_pos hTakes]
        by_cases hShowable : job.showable source
        · have hReport : world.reports elapsed job source :=
            (World.reports_iff source).mpr
              ⟨hTakes, hShowable⟩
          rw [if_pos hShowable]
          rcases writeOutput_host elapsed job.output
              (convert source)
              (world.reported elapsed job source) with
            ⟨result, next, hOutput, hWrite⟩
          dsimp only
          rw [bind_step _ hWrite]
          cases result with
          | ok done =>
              dsimp only [Except.mapError, tellSuccess]
              rw [successLine_eq, tell_host]
              exact .written hSource hReport hOutput
          | error fault =>
              dsimp only [Except.mapError, tellFailure]
              rw [tell_host]
              exact .unwritten hSource hReport hOutput
        · rw [if_neg hShowable]
          rw [Bool.not_eq_true] at hShowable
          exact .broken hSource hTakes hShowable
      · rw [if_neg hTakes]
        rw [Bool.not_eq_true] at hTakes
        dsimp only [tellFailure]
        rw [tell_host]
        exact .unreported hSource hTakes

/- A success has come all the way, and is told in full. -/
theorem Course.exists_of_success
    {elapsed : Elapsed}
    {job : Job}
    {world : World}
    {after : Exit × World}
    (hCourse : Course elapsed job world after)
    (hSuccess : after.1 = .success) :
    ∃ source next,
      world.source? job.input = some source ∧
        world.reports elapsed job source ∧
        (world.reported elapsed job source).Writes job.output
          (convert source) (.ok ()) next ∧
        next.takes (reportChannel job) job.success ∧
        after.2 =
          next.printed (reportChannel job) job.success := by
  cases hCourse with
  | unread hSource hOrdinary hPath =>
      cases (World.takes_of_told hSuccess (by decide)).1
  | unreported hSource hReport =>
      cases (World.takes_of_told hSuccess (by decide)).1
  | broken hSource hReport hShowable => cases hSuccess
  | unwritten hSource hReport hOutput =>
      cases (World.takes_of_told hSuccess (by decide)).1
  | written hSource hReport hOutput =>
      have hTold :=
        (World.takes_of_told hSuccess (by decide)).2
      refine ⟨_, _, hSource, hReport, hOutput, hTold, ?_⟩
      rw [World.told_of_takes _ hTold]

/- Arguments that ask for a job have it carried out. -/
theorem execute_eq_convertJob
    {arguments : List String}
    {job : Job}
    (elapsed : Elapsed)
    (world : World)
    (hParse : Invocation.parse arguments = .convert job) :
    world.execute elapsed arguments =
      convertJob (World.host elapsed) job world := by
  unfold World.execute Command.execute
  rw [hParse]

end Command

end Translit
