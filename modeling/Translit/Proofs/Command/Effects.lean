import Translit.Proofs.Command.Arguments
import Translit.Proofs.Command.Course

/-
  What a conversion does to files and to standard output.

  A conversion writes at most one file, the one its output
  names, and what it writes there is the converted input as
  it was before.  Nothing is written if an earlier step has
  failed.  An output on a stream stands there alone.

  Key definitions include:
    * `World.filesAfter`
    * `Effects`

  Main declarations:
    * `World.Writes.files_eq`
    * `Course.files_eq`
    * `World.filesAfter_of_isRegular`
    * `World.exists_of_filesAfter_ne`
    * `Course.stdout_of_success`
    * `execute_effects`
-/

------------------------------------------------------------
-- Files
------------------------------------------------------------

namespace Translit

namespace Command

namespace World

/- The files that a conversion leaves behind. -/
def filesAfter
    (world : World)
    (elapsed : Elapsed)
    (job : Job) : FileSystem :=
  match world.source? job.input with
  | none => world.files
  | some source =>
      if isStream job.output then world.files
      else if world.reports elapsed job source then
        (world.files.write job.output.toList
          (convert source).utf8).toOption.getD world.files
      else world.files

end World

variable {elapsed : Elapsed} {job : Job} {world : World}

/- An output leaves the files of a write, if there was one. -/
theorem World.Writes.files_eq
    {path : String}
    {t : Text}
    {result : Except Fault Unit}
    {next : World}
    (hOutput : world.Writes path t result next) :
    next.files =
      if isStream path then world.files
      else
        (world.files.write path.toList
          t.utf8).toOption.getD world.files := by
  cases hOutput with
  | stream hStream => rw [if_pos hStream, files_printed]
  | written hFile hWrite =>
      simp [hFile, hWrite, Except.toOption]
  | refused hFile hWrite =>
      simp [hFile, hWrite, Except.toOption]

/- So does a conversion that has come as far as that. -/
theorem World.filesAfter_of_reports
    {source : Text}
    {result : Except Fault Unit}
    {next : World}
    (hSource : world.source? job.input = some source)
    (hReport : world.reports elapsed job source)
    (hOutput :
      (world.reported elapsed job source).Writes job.output
        (convert source) result next) :
    next.files = world.filesAfter elapsed job := by
  rw [hOutput.files_eq, files_reported, filesAfter, hSource]
  simp only [hReport, if_true]

/- Each course leaves these files behind. -/
theorem Course.files_eq
    {after : Exit × World}
    (hCourse : Course elapsed job world after) :
    after.2.files = world.filesAfter elapsed job := by
  cases hCourse with
  | unread hSource hOrdinary hPath =>
      simp [World.filesAfter, hSource]
  | unreported hSource hReport =>
      simp [World.filesAfter, World.reports, hSource, hReport]
  | broken hSource hReport hShowable =>
      simp [World.filesAfter, World.reports,
        World.brokenOff, hSource, hShowable]
  | unwritten hSource hReport hOutput =>
      rw [World.files_told]
      exact World.filesAfter_of_reports hSource hReport hOutput
  | written hSource hReport hOutput =>
      rw [World.files_told]
      exact World.filesAfter_of_reports hSource hReport hOutput

namespace World

/- No file is written for an output on a stream. -/
theorem filesAfter_of_isStream
    (hStream : isStream job.output) :
    world.filesAfter elapsed job = world.files := by
  unfold filesAfter
  split
  · rfl
  · exact if_pos hStream

/- A regular output is written when the report is printed. -/
theorem filesAfter_of_isRegular
    {source : Text}
    {path : Path}
    (hSource : world.source? job.input = some source)
    (hReport : world.reports elapsed job source)
    (hFile : isStream job.output = false)
    (hTarget :
      world.files.target job.output.toList = .ok path)
    (hRegular : world.files.isRegular path) :
    world.filesAfter elapsed job =
      world.files.put path (.file (convert source).utf8) := by
  have hWrite :=
    FileSystem.write_of_isRegular (convert source).utf8
      hTarget hRegular
  simp [filesAfter, hSource, hFile, hReport, hWrite,
    Except.toOption]

/- Where files have changed, the output was written. -/
theorem exists_of_filesAfter_ne
    (hChanged : world.filesAfter elapsed job ≠ world.files) :
    ∃ source path,
      world.source? job.input = some source ∧
        isStream job.output = false ∧
        world.files.target job.output.toList = .ok path ∧
        world.filesAfter elapsed job =
          world.files.put path
            (.file (convert source).utf8) := by
  unfold filesAfter at hChanged ⊢
  cases hSource : world.source? job.input with
  | none => simp [hSource] at hChanged
  | some source =>
      simp only [hSource] at hChanged ⊢
      split_ifs at hChanged ⊢ with hStream hReport
      · exact absurd rfl hChanged
      · cases hWrite :
            world.files.write job.output.toList
              (convert source).utf8 with
        | error fault =>
            rw [hWrite] at hChanged
            exact absurd rfl hChanged
        | ok files =>
            rw [hWrite] at hChanged
            rcases FileSystem.exists_of_write_eq_ok hWrite with
              ⟨path, hTarget, ⟨_, hFiles⟩ | ⟨_, hFiles⟩⟩
            · rw [Bool.not_eq_true] at hStream
              exact ⟨source, path, rfl, hStream, hTarget,
                hFiles⟩
            · exact absurd hFiles hChanged
      · exact absurd rfl hChanged

end World

end Command

end Translit

------------------------------------------------------------
-- Standard Output
------------------------------------------------------------

namespace Translit

namespace Command

variable {elapsed : Elapsed} {job : Job} {world : World}

/- After a success on a stream, only the output stands there. -/
theorem Course.stdout_of_success
    {after : Exit × World}
    (hCourse : Course elapsed job world after)
    (hSuccess : after.1 = .success)
    (hStream : isStream job.output) :
    ∃ source,
      world.source? job.input = some source ∧
        after.2.stdout.bytes =
          world.stdout.bytes ++ (convert source).utf8 := by
  rcases hCourse.exists_of_success hSuccess with
    ⟨source, next, hSource, _, hOutput, _, hAfter⟩
  refine ⟨source, hSource, ?_⟩
  have hTakes := hOutput.isOk_eq.symm
  rw [World.accepts_of_isStream hStream, World.takes,
    World.sink_out_reported _ hStream] at hTakes
  rw [hAfter, reportChannel_of_isStream hStream]
  change Sink.bytes (World.sink _ .out) = _
  rw [World.sink_printed_of_ne _ _ (by simp),
    hOutput.eq_printed hStream, World.sink_printed_self,
    World.sink_out_reported _ hStream]
  exact Sink.bytes_after_of_takes hTakes

end Command

end Translit

------------------------------------------------------------
-- Effects
------------------------------------------------------------

namespace Translit

namespace Command

/-
  What a conversion may do to a world.

  A path at which something else is found afterwards is that
  of the output, and there the converted input is found.  No
  file changes if the input cannot be read, the report cannot
  be printed or the output cannot be written.  Otherwise a
  regular output reads as the converted input, and an output
  on a stream is all that was printed there.
-/
structure Effects
    (elapsed : Elapsed)
    (job : Job)
    (world : World)
    (ended : Exit)
    (after : World) : Prop where
  changed :
    ∀ path,
      after.files.lookup path ≠ world.files.lookup path →
      isStream job.output = false ∧
        world.files.target job.output.toList = .ok path ∧
        ∃ source,
          world.source? job.input = some source ∧
            after.files.lookup path =
              some (.file (convert source).utf8)
  unread :
    world.source? job.input = none →
      after.files = world.files
  unreported :
    ∀ source,
      world.source? job.input = some source →
      world.reports elapsed job source = false →
      after.files = world.files
  unwritten :
    ∀ source fault,
      world.source? job.input = some source →
      world.files.write job.output.toList
        (convert source).utf8 = .error fault →
      after.files = world.files
  written :
    ∀ source path,
      world.source? job.input = some source →
      world.reports elapsed job source →
      isStream job.output = false →
      world.files.target job.output.toList = .ok path →
      world.files.isRegular path →
      after.files.lookup path =
          some (.file (convert source).utf8) ∧
        after.files.read job.output.toList =
          .ok (convert source).utf8
  streamed :
    isStream job.output →
      after.files = world.files ∧
        (ended = .success →
          ∃ source,
            world.source? job.input = some source ∧
              after.stdout.bytes =
                world.stdout.bytes ++ (convert source).utf8)

variable {elapsed : Elapsed} {job : Job} {world : World}

/- A conversion has no other effects. -/
theorem Course.effects
    {after : Exit × World}
    (hCourse : Course elapsed job world after) :
    Effects elapsed job world after.1 after.2 := by
  have hFiles := hCourse.files_eq
  constructor
  · intro path hChanged
    rw [hFiles] at hChanged ⊢
    have hNe :
        world.filesAfter elapsed job ≠ world.files := by
      intro hSame
      rw [hSame] at hChanged
      exact hChanged rfl
    rcases World.exists_of_filesAfter_ne hNe with
      ⟨source, target, hSource, hFile, hTarget, hPut⟩
    have hPath : path = target := by
      by_contra hOther
      rw [hPut, FileSystem.lookup_put_of_ne _ _ hOther]
        at hChanged
      exact hChanged rfl
    rw [hPath, hPut, FileSystem.lookup_put_self _ _
      (FileSystem.ne_nil_of_target hTarget)]
    exact ⟨hFile, hTarget, source, hSource, rfl⟩
  · intro hSource
    rw [hFiles, World.filesAfter, hSource]
  · intro source hSource hReport
    simp [hFiles, World.filesAfter, hSource, hReport]
  · intro source fault hSource hWrite
    simp [hFiles, World.filesAfter, hSource, hWrite,
      Except.toOption]
  · intro source path hSource hReport hFile hTarget hRegular
    rw [hFiles, World.filesAfter_of_isRegular hSource hReport
      hFile hTarget hRegular]
    constructor
    · exact FileSystem.lookup_put_self _ _
        (FileSystem.ne_nil_of_target hTarget)
    · exact FileSystem.read_put _ hTarget hRegular
  · intro hStream
    constructor
    · rw [hFiles, World.filesAfter_of_isStream hStream]
    · intro hSuccess
      exact hCourse.stdout_of_success hSuccess hStream

/-
  The effects of every conversion, and of every run that asks
  for one.  A job can be asked for unless a path is empty, and
  its report fails only if the stream does, for every source
  in memory.
-/
theorem execute_effects
    (elapsed : Elapsed)
    (job : Job)
    (world : World) :
    Effects elapsed job world
        (convertJob (World.host elapsed) job world).1
        (convertJob (World.host elapsed) job world).2 ∧
      (∀ arguments,
        Invocation.parse arguments = .convert job →
        Effects elapsed job world
          (world.execute elapsed arguments).1
          (world.execute elapsed arguments).2) ∧
      (Invocation.parse job.arguments = .convert job ↔
        job.input ≠ "" ∧ job.output ≠ "") ∧
      ∀ source : Text,
        source.utf8Length < UInt64.size →
        world.reports elapsed job source =
          world.takesReport elapsed job source := by
  have hEffects :=
    (course_convertJob elapsed job world).effects
  refine ⟨hEffects, ?_, job.parse_arguments_eq_iff, ?_⟩
  · intro arguments hParse
    rw [execute_eq_convertJob elapsed world hParse]
    exact hEffects
  · intro source hSize
    exact World.reports_eq_takesReport hSize

/-
  A file can be converted in place, or to another one, which
  leaves the first as it was.
-/
theorem execute_effects_inPlace :
    let world := World.holding "a.rb" "else" .unlimited
    let job := Job.mk "a.rb" "a.rb" ⟨false, true⟩ .auto
    let other := Job.mk "a.rb" "b.py" ⟨true, false⟩ .always
    Invocation.parse ["convert", "a.rb", "a.rb", "--debug"] =
        .convert job ∧
      (world.execute .zero
          ["convert", "a.rb", "a.rb",
            "--debug"]).2.files.read "a.rb" =
        .ok (Text.utf8 "else:") ∧
      Invocation.parse other.arguments = .convert other ∧
      (world.execute .zero
          other.arguments).2.files.read "b.py" =
        .ok (Text.utf8 "else:") ∧
      (world.execute .zero
          other.arguments).2.files.lookup
            ["tmp", "work", "a.rb"] =
        some (.file (Text.utf8 "else")) := by
  intro world job other
  have hSource : world.source? "a.rb" = some "else" := by
    decide
  have hReport :
      ∀ job : Job, world.reports .zero job "else" := by
    intro job
    have hCapacity :
        (world.sink (reportChannel job)).capacity = none := by
      cases reportChannel job with
      | out => rfl
      | err => rfl
    rw [World.reports_eq_takesReport (by decide)]
    exact Sink.takes_of_unlimited _ hCapacity
  have hParse :
      Invocation.parse
          ["convert", "a.rb", "a.rb", "--debug"] =
        .convert job := by
    decide
  rcases execute_effects .zero job world with
    ⟨_, hInPlace, _⟩
  rcases execute_effects .zero other world with
    ⟨_, hElsewhere, hArguments, _⟩
  have hAsked := hArguments.mpr (by decide)
  have hSame :=
    (hInPlace _ hParse).written "else"
      ["tmp", "work", "a.rb"] hSource (hReport job) rfl
      (by decide) (by decide)
  have hOther :=
    (hElsewhere _ hAsked).written "else"
      ["tmp", "work", "b.py"] hSource (hReport other) rfl
      (by decide) (by decide)
  refine ⟨hParse, hSame.2, hAsked, hOther.2, ?_⟩
  by_contra hChanged
  have hTarget :=
    ((hElsewhere _ hAsked).changed ["tmp", "work", "a.rb"]
      hChanged).2.1
  exact absurd hTarget (by decide)

end Command

end Translit
