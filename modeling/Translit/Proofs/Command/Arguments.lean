import Mathlib.Tactic.Common
import Translit.Command.Arguments

/-
  Arguments that ask for a job.

  Every job can be asked for whose paths are not empty.  Its
  options stand behind the word `convert`, and a separator
  keeps the paths from being read as anything else.

  Key definitions include:
    * `Settings.arguments`
    * `Job.settings`
    * `Job.arguments`

  Main declarations:
    * `Request.parse_of_give?`
    * `Request.parse_arguments`
    * `Job.parse_arguments_eq_iff`
-/

------------------------------------------------------------
-- Options
------------------------------------------------------------

namespace Translit

namespace Command

namespace Color

/- The argument that asks for colours. -/
def argument : Color → String
| .auto => "--color=auto"
| .always => "--color=always"
| .never => "--color=never"

end Color

namespace Settings

/- The arguments that give some options. -/
def arguments
    (settings : Settings) : List String :=
  (if settings.verbose then ["--verbose"] else []) ++
    (if settings.debug then ["--debug"] else []) ++
    settings.color.toList.map Color.argument

end Settings

namespace Request

/- An argument that gives an option is read as that. -/
theorem parse_of_give?
    {settings next : Settings}
    {argument : String}
    (paths rest : List String)
    (hGive :
      settings.give? (Argument.read argument) = some next) :
    parse settings paths (argument :: rest) =
      parse next paths rest := by
  conv_lhs => unfold parse
  cases hRead : Argument.read argument with
  | verbose =>
      rw [hRead] at hGive
      simp only [hGive]
  | debug =>
      rw [hRead] at hGive
      simp only [hGive]
  | colorValue value =>
      rw [hRead] at hGive
      simp only [hGive]
  | _ =>
      rw [hRead] at hGive
      cases hGive

/- Options are given up to the separator. -/
theorem parse_arguments
    (settings : Settings)
    (rest : List String) :
    parse .empty [] (settings.arguments ++ "--" :: rest) =
      parsePaths settings [] rest := by
  rcases settings with ⟨verbose, debug, color⟩
  -- The options are given in the order of their arguments.
  have hColor :
      ∀ verbose debug,
        parse ⟨verbose, debug, none⟩ []
            (color.toList.map Color.argument ++
              "--" :: rest) =
          parsePaths ⟨verbose, debug, color⟩ [] rest := by
    intro verbose debug
    cases color with
    | none => rfl
    | some color =>
        cases color <;> exact parse_of_give? _ _ rfl
  have hDebug :
      ∀ verbose,
        parse ⟨verbose, false, none⟩ []
            ((if debug then ["--debug"] else []) ++
              (color.toList.map Color.argument ++
                "--" :: rest)) =
          parsePaths ⟨verbose, debug, color⟩ [] rest := by
    intro verbose
    cases debug with
    | false => exact hColor verbose false
    | true =>
        exact (parse_of_give? _ _ rfl).trans
          (hColor verbose true)
  rw [Settings.arguments, List.append_assoc,
    List.append_assoc]
  cases verbose with
  | false => exact hDebug false
  | true =>
      exact (parse_of_give? _ _ rfl).trans (hDebug true)

end Request

end Command

end Translit

------------------------------------------------------------
-- Jobs
------------------------------------------------------------

namespace Translit

namespace Command

namespace Request

theorem parsePaths_pair
    (settings : Settings)
    (input output : String) :
    parsePaths settings [] [input, output] =
      if input = "" ∨ output = "" then .misuse
      else .paths settings input output := by
  simp only [parsePaths, addPath?, finish]
  by_cases hInput : input = ""
  · simp [hInput]
  · by_cases hOutput : output = ""
    · simp [hInput, hOutput]
    · simp [hInput, hOutput]

end Request

namespace Job

/- The options of a job. -/
def settings
    (job : Job) : Settings where
  verbose := job.options.verbose
  debug := job.options.debug
  color :=
    if job.color = .auto then none else some job.color

/- Arguments that ask for a job. -/
def arguments
    (job : Job) : List String :=
  "convert" ::
    (job.settings.arguments ++ ["--", job.input, job.output])

/- A job is asked for, unless one of its paths is empty. -/
theorem parse_arguments_eq_iff
    (job : Job) :
    Invocation.parse job.arguments = .convert job ↔
      job.input ≠ "" ∧ job.output ≠ "" := by
  have hParse :
      Invocation.parse job.arguments =
        Invocation.parseConvert .empty
          (job.settings.arguments ++
            ["--", job.input, job.output]) :=
    rfl
  have hJob :
      Settings.empty.job job.settings job.input job.output =
        job := by
    rcases job with ⟨input, output, options, color⟩
    cases color <;> rfl
  rw [hParse, Invocation.parseConvert,
    Request.parse_arguments, Request.parsePaths_pair]
  split_ifs with hEmpty
  · apply iff_of_false
    · simp
    · exact fun hPaths => hEmpty.elim hPaths.1 hPaths.2
  · apply iff_of_true
    · exact congrArg Invocation.convert hJob
    · exact not_or.mp hEmpty

example :
    arguments ⟨"--help", "-", ⟨true, false⟩, .never⟩ =
      [ "convert", "--verbose", "--color=never", "--",
        "--help", "-" ] := by
  decide

end Job

end Command

end Translit
