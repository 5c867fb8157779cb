import Translit.Proofs.Run.Statistics
import Translit.Proofs.Text.Lines

/-
  Line endings and padding.

  A run sees the lines of a document without their padding,
  and nothing else of it.  So blanks, carriage returns and
  NUL characters in front of a line feed change nothing, and
  neither does a line feed at the very end.

  Key definitions include:
    * `Text.padFeeds`

  Main declarations:
    * `Text.lineInduction`
    * `Text.map_stripped_lines_padFeeds`
    * `Text.map_stripped_lines_terminated`
    * `Table.run_eq_of_map_stripped`
    * `Table.run_lineEndings`
-/

------------------------------------------------------------
-- Documents Line By Line
------------------------------------------------------------

namespace Translit

namespace Text

/-
  A document is a text without line feeds, or such a text
  with a line feed and a document behind it.
-/
@[elab_as_elim] theorem lineInduction
    {motive : Text → Prop}
    (single :
      ∀ line : Text, '\n' ∉ line → motive line)
    (feed :
      ∀ line rest : Text, '\n' ∉ line → motive rest →
        motive (line ++ '\n' :: rest))
    (document : Text) :
    motive document := by
  by_cases hFeed : '\n' ∈ document
  · rcases List.eq_append_cons_of_mem hFeed with
      ⟨line, rest, hDocument, hLine⟩
    have hShorter : rest.length < document.length := by
      simp [hDocument]
      omega
    rw [hDocument]
    exact feed line rest hLine
      (lineInduction single feed rest)
  · exact single document hFeed
termination_by document.length

/- Without line feeds there is a last line only. -/
theorem lines_of_lineFeed_notMem
    {line : Text}
    (hLine : '\n' ∉ line) :
    lines line = lastLine line := by
  simp [lines, List.splitOn_eq_singleton hLine]

/- The first line ends at the first line feed. -/
theorem lines_cons
    {line : Text}
    (rest : Text)
    (hLine : '\n' ∉ line) :
    lines (line ++ '\n' :: rest) =
      line.chomped :: lines rest := by
  rw [lines_append, lines_terminated,
    List.splitOn_eq_singleton hLine]
  rfl

end Text

end Translit

------------------------------------------------------------
-- Padding
------------------------------------------------------------

namespace Translit

namespace Text

/- Padding put behind a line is dropped again. -/
theorem stripped_append
    (line : Text)
    {pad : Text}
    (hPad : ∀ c ∈ pad, isPadding c) :
    (line ++ pad).stripped = line.stripped := by
  have hReverse : ∀ c ∈ pad.reverse, isPadding c := by
    intro c hMember
    exact hPad c (List.mem_reverse.mp hMember)
  unfold stripped dropTail
  rw [List.reverse_append,
    List.dropWhile_append_of_pos hReverse]

/- A carriage return at the end is padding as well. -/
@[simp] theorem stripped_chomped
    (line : Text) :
    line.chomped.stripped = line.stripped := by
  unfold chomped
  split
  · next hReturn =>
      rcases List.getLast?_eq_some_iff.mp hReturn with
        ⟨front, rfl⟩
      rw [List.dropLast_concat]
      have hPad : ∀ c ∈ ['\r'], isPadding c := by
        intro c hMember
        rw [List.mem_singleton.mp hMember]
        rfl
      rw [stripped_append front hPad]
  · rfl

/-
  The document with `pads i` put in front of the line feed
  that ends line `i`, counted from zero.
-/
def padFeeds
    (pads : Nat → Text) :
    Text → Text
| [] => []
| c :: rest =>
    if c = '\n' then
      pads 0 ++
        '\n' :: padFeeds (fun i => pads (i + 1)) rest
    else
      c :: padFeeds pads rest

theorem padFeeds_of_lineFeed_notMem
    (pads : Nat → Text)
    {line : Text}
    (hLine : '\n' ∉ line) :
    padFeeds pads line = line := by
  induction line with
  | nil => rfl
  | cons c line ih =>
      rw [List.mem_cons, not_or] at hLine
      rw [padFeeds, if_neg (Ne.symm hLine.1), ih hLine.2]

theorem padFeeds_append
    (pads : Nat → Text)
    {line : Text}
    (rest : Text)
    (hLine : '\n' ∉ line) :
    padFeeds pads (line ++ '\n' :: rest) =
      line ++ pads 0 ++
        '\n' :: padFeeds (fun i => pads (i + 1)) rest := by
  induction line with
  | nil => simp [padFeeds]
  | cons c line ih =>
      rw [List.mem_cons, not_or] at hLine
      rw [List.cons_append, padFeeds,
        if_neg (Ne.symm hLine.1), ih hLine.2]
      rfl

end Text

end Translit

------------------------------------------------------------
-- Lines Without Padding
------------------------------------------------------------

namespace Translit

namespace Text

/- Padding before line feeds is lost with the padding. -/
theorem map_stripped_lines_padFeeds
    {pads : Nat → Text}
    (document : Text)
    (hPads :
      ∀ i, ∀ c ∈ pads i, isPadding c ∧ c ≠ '\n') :
    (lines (padFeeds pads document)).map stripped =
      (lines document).map stripped := by
  induction document using lineInduction
    generalizing pads with
  | single line hLine =>
      rw [padFeeds_of_lineFeed_notMem pads hLine]
  | feed line rest hLine ih =>
      have hPadded : '\n' ∉ line ++ pads 0 := by
        intro hMember
        rcases List.mem_append.mp hMember with hFront | hPad
        · exact hLine hFront
        · exact (hPads 0 '\n' hPad).2 rfl
      have hFirst :
          (line ++ pads 0).stripped = line.stripped :=
        stripped_append line fun c hMember =>
          (hPads 0 c hMember).1
      have hRest := ih fun i => hPads (i + 1)
      rw [padFeeds_append pads rest hLine,
        lines_cons _ hPadded, lines_cons rest hLine]
      simp only [List.map_cons, stripped_chomped, hFirst,
        hRest]

/- A last line may as well end with a line feed. -/
theorem map_stripped_lines_terminated
    {document : Text}
    (hSome : document ≠ [])
    (hOpen : document.getLast? ≠ some '\n') :
    (lines (document ++ ['\n'])).map stripped =
      (lines document).map stripped := by
  induction document using lineInduction with
  | single line hLine =>
      rw [lines_cons [] hLine,
        lines_of_lineFeed_notMem hLine, lastLine,
        if_neg (by simpa using hSome)]
      simp [lines, lastLine]
  | feed line rest hLine ih =>
      -- Behind the first line feed something has to follow.
      have hRest : rest ≠ [] := by
        rintro rfl
        exact hOpen List.getLast?_concat
      have hLast :
          (line ++ '\n' :: rest).getLast? =
            rest.getLast? := by
        rw [List.append_cons,
          List.getLast?_append_of_ne_nil _ hRest]
      rw [hLast] at hOpen
      have hShorter := ih hRest hOpen
      rw [List.append_assoc, List.cons_append,
        lines_cons _ hLine, lines_cons _ hLine,
        List.map_cons, List.map_cons, hShorter]

end Text

end Translit

------------------------------------------------------------
-- Runs
------------------------------------------------------------

namespace Translit

namespace Table

/- Records are made from lines without padding. -/
theorem records_run
    (table : Table)
    (document : Text) :
    (table.run true document).records =
      (((Text.lines document).map Text.stripped).zipIdx
        1).map fun line =>
          { number := line.2
            source := line.1
            converted := table.firstOutput line.1
            rule :=
              table.winnerLabel (table.winner? line.1) } := by
  simp only [run, if_true, List.zipIdx_map, List.map_map]
  apply List.map_congr_left
  intro line _
  simp [recordOf]

/- A run depends on the lines without padding alone. -/
theorem run_eq_of_map_stripped
    (table : Table)
    (keepRecords : Bool)
    {first second : Text}
    (hLines :
      (Text.lines first).map Text.stripped =
        (Text.lines second).map Text.stripped) :
    table.run keepRecords first =
      table.run keepRecords second := by
  have hEntries :
      (table.run keepRecords first).entries =
        (table.run keepRecords second).entries := by
    have hMapped :=
      congrArg (List.map table.firstOutput) hLines
    rw [List.map_map, List.map_map] at hMapped
    rw [entries_run, entries_run]
    exact hMapped
  have hTally :
      (table.run keepRecords first).tally =
        (table.run keepRecords second).tally := by
    have hMapped :=
      congrArg (List.map fun line => search line table)
        hLines
    rw [List.map_map, List.map_map] at hMapped
    rw [tally_run, tally_run]
    exact congrArg (Tally.ofVerdicts table) hMapped
  have hRecords :
      (table.run keepRecords first).records =
        (table.run keepRecords second).records := by
    cases keepRecords with
    | false => rfl
    | true => rw [records_run, records_run, hLines]
  rw [Run.mk.injEq]
  exact ⟨hEntries, hTally, hRecords⟩

/-
  Neither padding in front of line feeds nor a line feed at
  the end of a document changes a run.
-/
theorem run_lineEndings
    (table : Table)
    (keepRecords : Bool)
    (document : Text) :
    (∀ pads : Nat → Text,
      (∀ i, ∀ c ∈ pads i,
        c ∈ [' ', '\t', '\x0b', '\x0c', '\r', '\x00']) →
      table.run keepRecords (document.padFeeds pads) =
        table.run keepRecords document) ∧
      (document ≠ [] → document.getLast? ≠ some '\n' →
        table.run keepRecords (document ++ ['\n']) =
          table.run keepRecords document) := by
  constructor
  · intro pads hPads
    apply run_eq_of_map_stripped
    apply Text.map_stripped_lines_padFeeds
    intro i c hMember
    have hAll :
        [' ', '\t', '\x0b', '\x0c', '\r', '\x00'].all
          fun c => isPadding c && c != '\n' := by
      decide
    have hPad :=
      List.all_eq_true.mp hAll c (hPads i c hMember)
    simpa using hPad
  · intro hSome hOpen
    apply run_eq_of_map_stripped
    exact Text.map_stripped_lines_terminated hSome hOpen

/- Each line feed can have padding of its own. -/
theorem run_lineEndings_mixed :
    standard.run true "if x\r\n\x00 \r\nend" =
        standard.run true "if x\n\nend" ∧
      standard.run true "if x\n\nend\n" =
        standard.run true "if x\n\nend" := by
  have hEndings :=
    run_lineEndings standard true "if x\n\nend"
  constructor
  · refine hEndings.1
      (fun i =>
        if i = 0 then ['\r'] else ['\x00', ' ', '\r']) ?_
    intro i c hMember
    split at hMember
    · simp_all
    · simp only [List.mem_cons] at hMember ⊢
      tauto
  · have hSome : ("if x\n\nend".toList : Text) ≠ [] := by
      decide
    have hOpen :
        ("if x\n\nend".toList : Text).getLast? ≠
          some '\n' := by
      decide
    exact hEndings.2 hSome hOpen

end Table

end Translit
