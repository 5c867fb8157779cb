import Mathlib.Data.List.Basic
import Mathlib.Data.List.TakeWhile
import Translit.Proofs.Pattern.Indentation
import Translit.Rule.Output

/-
  What a match captures, step by step.

  A reading says how a text may be cut, a match which cut is
  preferred.  For most steps there is no choice: fixed words
  of which none starts another one, single characters, and
  longest runs that gain nothing by giving back.  A gap in
  front of the rest of a line is different.  It gives back
  a blank when nothing else is left for that rest.

  Key definitions include:
    * `Text.IsLongest`
    * `Text.argument?`
    * `Pattern.captures?`
    * `Pattern.Rejects`
    * `Pattern.Spares`

  Main declarations:
    * `Pattern.exists_of_captures?_cons`
    * `Pattern.captures?_words_eq_some_iff`
    * `Pattern.captures?_one_eq_some_iff`
    * `Pattern.captures?_run_of_isLongest`
    * `Pattern.captures?_run_eq_some_iff`
    * `Pattern.captures?_argument_eq_some_iff`
-/

------------------------------------------------------------
-- Longest Runs
------------------------------------------------------------

namespace Translit

namespace Text

/-
  A run of a class goes as far as it can: the character
  behind it, if there is one, is of another class.
-/
def IsLongest
    (p : Char → Bool)
    (run rest : Text) : Prop :=
  run.all p ∧ rest.head?.all fun c => !p c

instance
    (p : Char → Bool)
    (run rest : Text) :
    Decidable (IsLongest p run rest) := by
  unfold IsLongest
  infer_instance

variable {p : Char → Bool}
variable {run rest : Text}

/- Every text starts with a longest run, which may be empty. -/
theorem isLongest_takeWhile
    (p : Char → Bool)
    (t : Text) :
    IsLongest p (t.takeWhile p) (t.dropWhile p) := by
  refine ⟨List.all_takeWhile, ?_⟩
  have hHead := List.head?_dropWhile_not p t
  cases hRest : (t.dropWhile p).head? with
  | none => simp
  | some c =>
      rw [hRest] at hHead
      simpa using hHead

theorem exists_isLongest
    (p : Char → Bool)
    (t : Text) :
    ∃ run rest, t = run ++ rest ∧ IsLongest p run rest :=
  ⟨t.takeWhile p, t.dropWhile p,
    List.takeWhile_append_dropWhile.symm,
    isLongest_takeWhile p t⟩

theorem IsLongest.mem
    (hLongest : IsLongest p run rest) :
    ∀ c ∈ run, p c :=
  List.all_eq_true.mp hLongest.1

theorem IsLongest.takeWhile_rest
    (hLongest : IsLongest p run rest) :
    rest.takeWhile p = [] := by
  have hHead := hLongest.2
  cases rest with
  | nil => simp
  | cons c rest =>
      apply List.takeWhile_cons_of_neg
      simpa using hHead

theorem IsLongest.takeWhile_eq
    (hLongest : IsLongest p run rest) :
    (run ++ rest).takeWhile p = run := by
  rw [List.takeWhile_append_of_pos hLongest.mem,
    hLongest.takeWhile_rest, List.append_nil]

theorem IsLongest.dropWhile_eq
    (hLongest : IsLongest p run rest) :
    (run ++ rest).dropWhile p = rest := by
  have hSplit :=
    List.takeWhile_append_dropWhile (p := p) (l := run ++ rest)
  rw [hLongest.takeWhile_eq] at hSplit
  exact List.append_cancel_left hSplit

/- No other run goes further than the longest one. -/
theorem IsLongest.exists_of_run
    {taken last : Text}
    (hLongest : IsLongest p run rest)
    (hText : run ++ rest = taken ++ last)
    (hTaken : ∀ c ∈ taken, p c) :
    ∃ given,
      run = taken ++ given ∧ last = given ++ rest := by
  refine ⟨last.takeWhile p, ?_, ?_⟩
  · rw [← hLongest.takeWhile_eq, hText,
      List.takeWhile_append_of_pos hTaken]
  · have hRest := hLongest.dropWhile_eq
    rw [hText, List.dropWhile_append_of_pos hTaken] at hRest
    rw [← hRest, List.takeWhile_append_dropWhile]

end Text

end Translit

------------------------------------------------------------
-- Captures
------------------------------------------------------------

namespace Translit

namespace Captures

@[simp] theorem keep_none
    (captures : Captures)
    (t : Text) :
    captures.keep none t = captures := by
  rfl

@[simp] theorem keep_name
    (name body t : Text) :
    keep ⟨name, body⟩ (some .name) t = ⟨t ++ name, body⟩ := by
  rfl

@[simp] theorem keep_body
    (name body t : Text) :
    keep ⟨name, body⟩ (some .body) t = ⟨name, t ++ body⟩ := by
  rfl

@[simp] theorem empty_eq :
    empty = ⟨[], []⟩ := by
  rfl

end Captures

namespace Pattern

/- What a match remembers, if there is one. -/
def captures?
    (pattern : Pattern)
    (t : Text) : Option Captures :=
  (pattern.match? t).map Prod.fst

@[simp] theorem captures?_nil
    (t : Text) :
    captures? [] t = some ⟨[], []⟩ := by
  rfl

@[simp] theorem isSome_captures?
    (pattern : Pattern)
    (t : Text) :
    (pattern.captures? t).isSome =
      (pattern.match? t).isSome := by
  rw [captures?, Option.isSome_map]

variable {step : Step}
variable {steps : Pattern}
variable {slot : Option Slot}
variable {t : Text}
variable {found : Captures}

theorem captures?_cons
    (step : Step)
    (steps : Pattern)
    (t : Text) :
    captures? (step :: steps) t =
      (step.piece.take? (match? steps) t).map fun cut =>
        cut.2.1.keep step.slot cut.1 := by
  rw [captures?, match?, Option.map_map]
  congr 1

/- The first step takes a front of the text, as it may. -/
theorem exists_of_captures?_cons
    (hFound : captures? (step :: steps) t = some found) :
    ∃ taken rest inner,
      t = taken ++ rest ∧
        step.piece.Takes taken rest ∧
        captures? steps rest = some inner ∧
        found = inner.keep step.slot taken := by
  rw [captures?_cons] at hFound
  rcases Option.map_eq_some_iff.mp hFound with
    ⟨⟨taken, inner, last⟩, hTake, rfl⟩
  rcases Piece.exists_of_take?_eq_some hTake with
    ⟨rest, hText, hTaken, hNext⟩
  refine ⟨taken, rest, inner, hText, hTaken, ?_, rfl⟩
  rw [captures?, hNext, Option.map_some]

/- A step takes something if the others accept some rest. -/
theorem isSome_captures?_cons
    {taken rest : Text}
    (hTaken : step.piece.Takes taken rest)
    (hInner : (captures? steps rest).isSome) :
    (captures? (step :: steps) (taken ++ rest)).isSome := by
  rw [isSome_captures?] at hInner
  rw [captures?_cons, Option.isSome_map]
  exact Piece.isSome_take? hTaken hInner

/- Indentation does not matter to what is captured. -/
theorem captures?_indented
    (t : Text)
    (hSolid : startsSolid steps) :
    captures? (.pass .blanks :: steps) t =
      captures? steps t.unindented := by
  rw [captures?, match?_indented t hSolid, captures?]

theorem captures?_of_isBlank
    {c : Char}
    (t : Text)
    (hSolid : startsSolid steps)
    (hBlank : isBlank c) :
    captures? steps (c :: t) = none := by
  rw [captures?, match?_of_isBlank t hSolid hBlank,
    Option.map_none]

end Pattern

end Translit

------------------------------------------------------------
-- Steps Without A Choice
------------------------------------------------------------

namespace Translit

namespace Pattern

variable {steps : Pattern}
variable {slot : Option Slot}
variable {t : Text}
variable {found : Captures}

/- Words of which none starts another one leave no choice. -/
theorem captures?_words_eq_some_iff
    {ws : List Text}
    (hFree : ∀ v ∈ ws, ∀ w ∈ ws, v <+: w → v = w) :
    captures? (⟨.words ws, slot⟩ :: steps) t = some found ↔
      ∃ w ∈ ws, ∃ rest inner,
        t = w ++ rest ∧
          captures? steps rest = some inner ∧
          found = inner.keep slot w := by
  constructor
  · intro hFound
    rcases exists_of_captures?_cons hFound with
      ⟨w, rest, inner, hText, hWord, hInner, hKeep⟩
    exact ⟨w, hWord, rest, inner, hText, hInner, hKeep⟩
  · rintro ⟨w, hWord, rest, inner, rfl, hInner, rfl⟩
    have hSome :
        (captures? (⟨.words ws, slot⟩ :: steps)
          (w ++ rest)).isSome := by
      apply isSome_captures?_cons
      · exact hWord
      · rw [hInner, Option.isSome_some]
    rcases Option.isSome_iff_exists.mp hSome with
      ⟨found, hFound⟩
    rcases exists_of_captures?_cons hFound with
      ⟨v, tail, other, hText, hOther, hInner', rfl⟩
    -- Both words are in front of the text, so one of them
    -- starts the other one.
    have hSame : v = w := by
      have hFront : w <+: v ++ tail := ⟨rest, hText⟩
      rcases List.prefix_or_prefix_of_prefix
          (List.prefix_append v tail) hFront with
        hStarts | hStarts
      · exact hFree v hOther w hWord hStarts
      · exact (hFree w hWord v hOther hStarts).symm
    subst hSame
    have hRest := List.append_cancel_left hText
    rw [← hRest, hInner, Option.some_inj] at hInner'
    rw [hFound, hInner']

/- One word leaves no choice. -/
theorem captures?_word_eq_some_iff
    {w : Text} :
    captures? (.pass (.word w) :: steps) t = some found ↔
      ∃ rest,
        t = w ++ rest ∧ captures? steps rest = some found := by
  have hFree : ∀ u ∈ [w], ∀ v ∈ [w], u <+: v → u = v := by
    intro u hU v hV _
    rw [List.mem_singleton.mp hU, List.mem_singleton.mp hV]
  have hWords :
      captures? (.pass (.word w) :: steps) t = some found ↔
        ∃ v ∈ [w], ∃ rest inner,
          t = v ++ rest ∧
            captures? steps rest = some inner ∧
            found = inner.keep none v :=
    captures?_words_eq_some_iff hFree
  rw [hWords]
  simp

theorem captures?_one_eq_some_iff
    {cls : CharClass} :
    captures? (⟨.one cls, slot⟩ :: steps) t = some found ↔
      ∃ c rest inner,
        t = c :: rest ∧
          cls.holds c ∧
          captures? steps rest = some inner ∧
          found = inner.keep slot [c] := by
  constructor
  · intro hFound
    rcases exists_of_captures?_cons hFound with
      ⟨_, rest, inner, rfl, ⟨c, hClass, rfl⟩, hInner, hKeep⟩
    exact ⟨c, rest, inner, rfl, hClass, hInner, hKeep⟩
  · rintro ⟨c, rest, inner, rfl, hClass, hInner, rfl⟩
    rcases Option.map_eq_some_iff.mp hInner with
      ⟨⟨inner, last⟩, hMatch, rfl⟩
    simp [captures?_cons, Piece.take?, hClass, hMatch]

end Pattern

namespace Piece

/- What is accepted at once is not given back. -/
theorem giveBack_of_eq_some
    {α : Type}
    {next : Text → Option α}
    {rest : Text}
    {a : α}
    (spare : Nat)
    (taken : Text)
    (hNext : next rest = some a) :
    giveBack next spare taken rest =
      some (taken.reverse, a) := by
  cases spare with
  | zero => simp [giveBack, hNext]
  | succ spare =>
      cases taken with
      | nil => simp [giveBack, hNext]
      | cons c taken => simp [giveBack, hNext]

/- A longest run is taken first and then given back. -/
theorem take?_of_isLongest
    {α : Type}
    {cls : CharClass}
    {least : Nat}
    {run rest : Text}
    (next : Text → Option α)
    (hLongest : Text.IsLongest cls.holds run rest)
    (hLeast : least ≤ run.length) :
    (Piece.run cls least .longest).take? next (run ++ rest) =
      giveBack next (run.length - least) run.reverse rest := by
  simp only [take?, hLongest.takeWhile_eq,
    hLongest.dropWhile_eq]
  rw [if_neg (Nat.not_lt.mpr hLeast)]

end Piece

namespace Pattern

variable {steps : Pattern}
variable {slot : Option Slot}
variable {cls : CharClass}
variable {least : Nat}
variable {t : Text}
variable {found : Captures}

/- The longest run is taken if the others accept the rest. -/
theorem captures?_run_of_isLongest
    {run rest : Text}
    {inner : Captures}
    (hLongest : Text.IsLongest cls.holds run rest)
    (hLeast : least ≤ run.length)
    (hInner : captures? steps rest = some inner) :
    captures? (⟨.run cls least .longest, slot⟩ :: steps)
        (run ++ rest) =
      some (inner.keep slot run) := by
  rcases Option.map_eq_some_iff.mp hInner with
    ⟨⟨inner, last⟩, hMatch, rfl⟩
  have hTaken :=
    Piece.giveBack_of_eq_some (run.length - least)
      run.reverse hMatch
  rw [captures?_cons,
    Piece.take?_of_isLongest _ hLongest hLeast, hTaken,
    Option.map_some, List.reverse_reverse]

/- No text that starts with a character of the class is read. -/
def Rejects
    (steps : Pattern)
    (cls : CharClass) : Prop :=
  ∀ c t, cls.holds c → captures? steps (c :: t) = none

/-
  What is read with a character of the class in front is
  read without it as well.
-/
def Spares
    (steps : Pattern)
    (cls : CharClass) : Prop :=
  ∀ c t, cls.holds c →
    (captures? steps (c :: t)).isSome →
      (captures? steps t).isSome

theorem Rejects.spares
    (hRejects : Rejects steps cls) :
    Spares steps cls := by
  intro c t hClass hSome
  rw [hRejects c t hClass] at hSome
  cases hSome

theorem rejects_blank_of_startsSolid
    (hSolid : startsSolid steps) :
    Rejects steps .blank :=
  fun _ t hBlank => captures?_of_isBlank t hSolid hBlank

theorem Spares.isSome
    {given rest : Text}
    (hSpares : Spares steps cls)
    (hGiven : ∀ c ∈ given, cls.holds c)
    (hSome : (captures? steps (given ++ rest)).isSome) :
    (captures? steps rest).isSome := by
  induction given with
  | nil => exact hSome
  | cons c given ih =>
      apply ih
      · intro d hMember
        exact hGiven d (List.mem_cons_of_mem c hMember)
      · exact hSpares c _ (hGiven c (by simp)) hSome

/- A run ends with its class if the others refuse it. -/
theorem Rejects.isLongest
    {run rest : Text}
    {inner : Captures}
    (hRejects : Rejects steps cls)
    (hRun : run.all cls.holds)
    (hInner : captures? steps rest = some inner) :
    Text.IsLongest cls.holds run rest := by
  refine ⟨hRun, ?_⟩
  cases rest with
  | nil => simp
  | cons c rest =>
      by_contra hHead
      have hClass : cls.holds c := by
        simpa using hHead
      rw [hRejects c rest hClass] at hInner
      cases hInner

/-
  A run goes as far as it can if the others spare its class,
  as nothing is gained by giving back.
-/
theorem captures?_run_eq_some_iff
    (hSpares : Spares steps cls) :
    captures? (⟨.run cls least .longest, slot⟩ :: steps) t =
        some found ↔
      ∃ run rest inner,
        t = run ++ rest ∧
          Text.IsLongest cls.holds run rest ∧
          least ≤ run.length ∧
          captures? steps rest = some inner ∧
          found = inner.keep slot run := by
  constructor
  · intro hFound
    rcases exists_of_captures?_cons hFound with
      ⟨taken, last, inner, hText, ⟨hLeast, hTaken⟩, hInner, _⟩
    rcases Text.exists_isLongest cls.holds t with
      ⟨run, rest, rfl, hLongest⟩
    rcases hLongest.exists_of_run hText hTaken with
      ⟨given, rfl, rfl⟩
    have hGiven : ∀ c ∈ given, cls.holds c := by
      intro c hMember
      exact hLongest.mem c (List.mem_append_right taken hMember)
    have hSome : (captures? steps rest).isSome := by
      apply hSpares.isSome hGiven
      rw [hInner, Option.isSome_some]
    have hEnough : least ≤ (taken ++ given).length := by
      rw [List.length_append]
      exact Nat.le_trans hLeast (Nat.le_add_right _ _)
    rcases Option.isSome_iff_exists.mp hSome with
      ⟨other, hOther⟩
    rw [captures?_run_of_isLongest hLongest hEnough hOther,
      Option.some_inj] at hFound
    exact
      ⟨_, rest, other, rfl, hLongest, hEnough, hOther,
        hFound.symm⟩
  · rintro ⟨run, rest, inner, rfl, hLongest, hLeast, hInner, rfl⟩
    exact captures?_run_of_isLongest hLongest hLeast hInner

/- A gap in front of steps that spare blanks is the longest. -/
theorem captures?_gap_eq_some_iff
    (hSpares : Spares steps .blank) :
    captures? (.pass (.run .blank least .longest) :: steps) t =
        some found ↔
      ∃ gap rest,
        t = gap ++ rest ∧
          Text.IsLongest isBlank gap rest ∧
          least ≤ gap.length ∧
          captures? steps rest = some found := by
  have hRun :
      captures? (.pass (.run .blank least .longest) :: steps)
            t =
          some found ↔
        ∃ gap rest inner,
          t = gap ++ rest ∧
            Text.IsLongest isBlank gap rest ∧
            least ≤ gap.length ∧
            captures? steps rest = some inner ∧
            found = inner.keep none gap :=
    captures?_run_eq_some_iff hSpares
  rw [hRun]
  simp

end Pattern

end Translit

------------------------------------------------------------
-- Arguments
------------------------------------------------------------

namespace Translit

namespace Text

/-
  What stands for an argument behind a longest run of blanks:
  the rest up to the end of its line.  If there is no rest,
  then the last blank that does not end a line stands for
  it, as long as `least` blanks remain in front.
-/
def argument?
    (least : Nat)
    (gap rest : Text) : Option Text :=
  if rest.isEmpty then
    ((gap.drop least).findRev? (· != '\n')).map fun c => [c]
  else
    some (rest.takeWhile (· != '\n'))

end Text

namespace Pattern

/- The rest of a line is taken up to the line feed. -/
theorem captures?_restOfLine
    {c : Char}
    (rest : Text)
    (hLine : c ≠ '\n') :
    captures? [.keep .body .restOfLine] (c :: rest) =
      some ⟨[], (c :: rest).takeWhile (· != '\n')⟩ := by
  have hLongest :=
    Text.isLongest_takeWhile CharClass.inLine.holds (c :: rest)
  have hSplit :=
    List.takeWhile_append_dropWhile
      (p := CharClass.inLine.holds) (l := c :: rest)
  have hLeast :
      1 ≤ ((c :: rest).takeWhile
        CharClass.inLine.holds).length := by
    have hClass : CharClass.inLine.holds c := by
      simpa [CharClass.holds] using hLine
    simp [hClass]
  have hFound :
      captures? [.keep .body .restOfLine]
          ((c :: rest).takeWhile CharClass.inLine.holds ++
            (c :: rest).dropWhile CharClass.inLine.holds) =
        some (Captures.keep ⟨[], []⟩ (some .body)
          ((c :: rest).takeWhile CharClass.inLine.holds)) :=
    captures?_run_of_isLongest hLongest hLeast
      (captures?_nil _)
  rw [hSplit, Captures.keep_body, List.append_nil] at hFound
  exact hFound

theorem match?_restOfLine_of_lineFeed
    {t : Text}
    (hFeeds : ∀ c ∈ t, c = '\n') :
    match? [.keep .body .restOfLine] t = none := by
  by_contra hMatch
  rcases Option.ne_none_iff_exists'.mp hMatch with
    ⟨⟨found, rest⟩, hSome⟩
  rcases exists_of_reads_cons
      (reads_of_match?_eq_some hSome) with
    ⟨taken, middle, _, rfl, ⟨hLeast, hRun⟩, _, _⟩
  cases taken with
  | nil => exact absurd hLeast (by simp)
  | cons c taken =>
      have hClass := hRun c (by simp)
      rw [hFeeds c (by simp)] at hClass
      simp [CharClass.holds] at hClass

/-
  Behind the last blank there are only line feeds.  Blanks
  are given back from the right until one of them is no line
  feed, and that one is then all there is on its line.
-/
theorem giveBack_restOfLine
    (spare : Nat)
    (taken : Text)
    {feeds : Text}
    (hFeeds : ∀ c ∈ feeds, c = '\n') :
    (Piece.giveBack (match? [.keep .body .restOfLine]) spare
        taken feeds).map (fun cut => cut.2.1) =
      ((taken.take spare).find? (· != '\n')).map
        fun c => ⟨[], [c]⟩ := by
  have hNone := match?_restOfLine_of_lineFeed hFeeds
  induction spare generalizing taken feeds with
  | zero => simp [Piece.giveBack, hNone]
  | succ spare ih =>
      cases taken with
      | nil => simp [Piece.giveBack, hNone]
      | cons c taken =>
          simp only [Piece.giveBack, hNone, List.take_succ_cons]
          by_cases hFeed : c = '\n'
          · subst hFeed
            have hMore :
                ∀ d ∈ '\n' :: feeds, d = '\n' := by
              simpa using hFeeds
            rw [ih taken hMore
              (match?_restOfLine_of_lineFeed hMore),
              List.find?_cons_of_neg (by simp)]
          · have hLine :
                (c :: feeds).takeWhile (· != '\n') = [c] := by
              cases feeds with
              | nil => simp [hFeed]
              | cons d feeds =>
                  have hNext : d = '\n' := hFeeds d (by simp)
                  simp [hFeed, hNext]
            have hFound := captures?_restOfLine feeds hFeed
            rw [hLine] at hFound
            rcases Option.map_eq_some_iff.mp hFound with
              ⟨⟨inner, last⟩, hMatch, hInner⟩
            rw [Piece.giveBack_of_eq_some spare taken hMatch,
              List.find?_cons_of_pos (by simpa using hFeed)]
            simpa using hInner

/- A gap and an argument, for a gap that is long enough. -/
theorem captures?_argument
    {least : Nat}
    {gap rest : Text}
    (hLongest : Text.IsLongest isBlank gap rest)
    (hLeast : least ≤ gap.length) :
    captures?
        [ .pass (.run .blank least .longest),
          .keep .body .restOfLine ]
        (gap ++ rest) =
      (Text.argument? least gap rest).map fun argument =>
        ⟨[], argument⟩ := by
  cases rest with
  | nil =>
      have hTake :
          gap.reverse.take (gap.length - least) =
            (gap.drop least).reverse := by
        rw [List.take_reverse, Nat.sub_sub_self hLeast]
      have hFeeds : ∀ c ∈ ([] : Text), c = '\n' := by
        simp
      have hGiven :=
        giveBack_restOfLine (gap.length - least) gap.reverse
          hFeeds
      have hBlanks :
          Text.IsLongest CharClass.blank.holds gap [] :=
        hLongest
      have hRun :=
        Piece.take?_of_isLongest
          (match? [.keep .body .restOfLine]) hBlanks hLeast
      rw [hTake, ← List.findRev?_eq_find?_reverse, ← hRun]
        at hGiven
      rw [captures?_cons, Text.argument?, List.isEmpty_nil,
        if_pos rfl, Option.map_map]
      exact hGiven
  | cons c rest =>
      have hSolid : isBlank c = false := by
        simpa using hLongest.2
      have hLine : c ≠ '\n' := by
        rintro rfl
        cases hSolid
      have hInner := captures?_restOfLine rest hLine
      rw [Text.argument?, List.isEmpty_cons, if_neg (by simp),
        Option.map_some]
      exact captures?_run_of_isLongest hLongest hLeast hInner

/- What a gap and an argument capture, for every text. -/
theorem captures?_argument_eq_some_iff
    {least : Nat}
    {t : Text}
    {found : Captures} :
    captures?
          [ .pass (.run .blank least .longest),
            .keep .body .restOfLine ] t =
        some found ↔
      ∃ gap rest argument,
        t = gap ++ rest ∧
          Text.IsLongest isBlank gap rest ∧
          least ≤ gap.length ∧
          Text.argument? least gap rest = some argument ∧
          found = ⟨[], argument⟩ := by
  constructor
  · intro hFound
    rcases exists_of_captures?_cons hFound with
      ⟨taken, last, _, hText, ⟨hLeast, hTaken⟩, _, _⟩
    rcases Text.exists_isLongest isBlank t with
      ⟨gap, rest, rfl, hLongest⟩
    rcases hLongest.exists_of_run hText hTaken with
      ⟨given, rfl, _⟩
    have hEnough : least ≤ (taken ++ given).length := by
      rw [List.length_append]
      exact Nat.le_trans hLeast (Nat.le_add_right _ _)
    rw [captures?_argument hLongest hEnough] at hFound
    rcases Option.map_eq_some_iff.mp hFound with
      ⟨argument, hArgument, hEq⟩
    exact
      ⟨_, rest, argument, rfl, hLongest, hEnough, hArgument,
        hEq.symm⟩
  · rintro ⟨gap, rest, argument, rfl, hLongest, hLeast,
      hArgument, rfl⟩
    rw [captures?_argument hLongest hLeast, hArgument,
      Option.map_some]

end Pattern

end Translit

------------------------------------------------------------
-- Captures Of Rules
------------------------------------------------------------

namespace Translit

namespace Rule

variable {rule : Rule}
variable {line : Text}
variable {found : Captures}

/- A rule writes its output for what its form captures. -/
theorem convert?_eq_map_captures?
    (rule : Rule)
    (line : Text) :
    rule.convert? line =
      (rule.form.captures? line).map (rule.output line) := by
  rw [convert?, Pattern.captures?, Option.map_map]
  congr 1

theorem convert?_of_captures?
    (hFound : rule.form.captures? line = some found) :
    rule.convert? line = some (rule.output line found) := by
  rw [convert?_eq_map_captures?, hFound, Option.map_some]

theorem convert?_eq_some_iff
    {output : Text} :
    rule.convert? line = some output ↔
      ∃ found,
        rule.form.captures? line = some found ∧
          rule.output line found = output := by
  rw [convert?_eq_map_captures?, Option.map_eq_some_iff]

theorem applies_of_captures?
    (hFound : rule.form.captures? line = some found) :
    rule.applies line := by
  rw [applies, ← Pattern.isSome_captures?, hFound,
    Option.isSome_some]

end Rule

end Translit
