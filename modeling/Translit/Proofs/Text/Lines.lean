import Mathlib.Algebra.BigOperators.Group.List.Basic
import Mathlib.Algebra.GroupWithZero.Nat
import Mathlib.Data.List.Basic
import Mathlib.Data.List.DropRight
import Translit.Text.Blank
import Translit.Text.Lines

/-
  Lines of joined documents.

  A line feed cuts a document into two documents whose lines
  follow each other, whatever stands next to it: other line
  feeds, carriage returns or nothing at all.  No line holds a
  line feed, and joined entries are cut again where one of
  them ends or holds one.

  Main declarations:
    * `Text.lines_terminated`
    * `Text.lines_append`
    * `Text.lines_eq_nil_iff`
    * `Text.lineFeed_notMem_of_mem_lines`
    * `Text.joinLines_append`
    * `Text.splitOn_joinLines`
    * `Text.splitOn_flatMap_terminated`
    * `Text.count_lineFeed_joinLines`
-/

------------------------------------------------------------
-- Splitting At A Line Feed
------------------------------------------------------------

namespace Translit

namespace Text

/- In a document that ends with a line feed no line is last. -/
theorem lines_terminated
    (document : Text) :
    lines (document ++ ['\n']) =
      (document.splitOn '\n').map chomped := by
  have hPieces :
      (document ++ ['\n']).splitOn '\n' =
        document.splitOn '\n' ++ [[]] :=
    List.splitOn_append_cons_self document []
  simp [lines, hPieces, lastLine]

/- The lines before a line feed and those after it. -/
theorem lines_append
    (front back : Text) :
    lines (front ++ '\n' :: back) =
      lines (front ++ ['\n']) ++ lines back := by
  have hPieces :
      (front ++ '\n' :: back).splitOn '\n' =
        front.splitOn '\n' ++ back.splitOn '\n' :=
    List.splitOn_append_cons_self front back
  have hBack : back.splitOn '\n' ≠ [] :=
    List.splitOn_ne_nil '\n' back
  rw [lines_terminated]
  simp only [lines, hPieces]
  rw [List.dropLast_append_of_ne_nil hBack,
    List.getLast?_append_of_ne_nil _ hBack, List.map_append,
    List.append_assoc]

/- Only the empty document has no lines. -/
@[simp] theorem lines_eq_nil_iff
    (document : Text) :
    lines document = [] ↔ document = [] := by
  constructor
  · intro hLines
    rcases List.eq_nil_or_concat'
        (document.splitOn '\n') with
      hNone | ⟨pieces, last, hPieces⟩
    · exact absurd hNone (List.splitOn_ne_nil '\n' document)
    · have hJoin :
          List.intercalate ['\n'] (pieces ++ [last]) =
            document := by
        rw [← hPieces]
        exact List.intercalate_splitOn '\n'
      simp only [lines, hPieces, List.dropLast_concat,
        List.getLast?_concat, Option.map_some,
        Option.getD_some, List.append_eq_nil_iff,
        List.map_eq_nil_iff] at hLines
      rcases hLines with ⟨rfl, hLast⟩
      cases last with
      | nil =>
          rw [← hJoin]
          rfl
      | cons c last => cases hLast
  · rintro rfl
    rfl

end Text

end Translit

------------------------------------------------------------
-- Lines Without Line Feeds
------------------------------------------------------------

namespace Translit

namespace Text

/- What a character cuts off does not hold it. -/
theorem notMem_of_mem_splitOn
    {c : Char}
    {t piece : Text}
    (hPiece : piece ∈ t.splitOn c) :
    c ∉ piece := by
  induction t generalizing piece with
  | nil =>
      rw [List.splitOn_nil, List.mem_singleton] at hPiece
      simp [hPiece]
  | cons d t ih =>
      rw [List.splitOn_cons_eq_if_modifyHead] at hPiece
      split at hPiece
      · rcases List.mem_cons.mp hPiece with rfl | hRest
        · simp
        · exact ih hRest
      · next hOther =>
          -- The character joins the first piece of the rest.
          cases hPieces : t.splitOn c with
          | nil => exact absurd hPieces (by simp)
          | cons first pieces =>
              rw [hPieces, List.modifyHead_cons] at hPiece
              rcases List.mem_cons.mp hPiece with rfl | hRest
              · have hFirst : c ∉ first :=
                  ih (by simp [hPieces])
                simp only [beq_iff_eq] at hOther
                simp [hFirst, Ne.symm hOther]
              · exact ih (by simp [hPieces, hRest])

/- Dropping a line end adds nothing to the line. -/
theorem chomped_isPrefix
    (line : Text) :
    line.chomped <+: line := by
  unfold chomped
  split
  · exact List.dropLast_prefix line
  · exact List.prefix_rfl

/- Neither does dropping a tail, such as the padding. -/
theorem dropTail_isPrefix
    (p : Char → Bool)
    (t : Text) :
    dropTail p t <+: t :=
  List.rdropWhile_prefix p t

theorem stripped_isPrefix
    (line : Text) :
    line.stripped <+: line :=
  dropTail_isPrefix isPadding line

/- No line holds a line feed. -/
theorem lineFeed_notMem_of_mem_lines
    {document line : Text}
    (hLine : line ∈ lines document) :
    '\n' ∉ line := by
  rcases List.mem_append.mp hLine with hFront | hBack
  · rcases List.mem_map.mp hFront with ⟨piece, hPiece, rfl⟩
    intro hFeed
    exact notMem_of_mem_splitOn
      ((List.dropLast_subset _) hPiece)
      ((chomped_isPrefix piece).subset hFeed)
  · cases hLast : (document.splitOn '\n').getLast? with
    | none =>
        rw [hLast] at hBack
        cases hBack
    | some piece =>
        have hPiece : piece ∈ document.splitOn '\n' :=
          List.mem_of_getLast? hLast
        rw [hLast, Option.map_some, Option.getD_some,
          lastLine] at hBack
        split at hBack
        · cases hBack
        · rw [List.mem_singleton.mp hBack]
          exact notMem_of_mem_splitOn hPiece

theorem lineFeed_notMem_stripped
    {document line : Text}
    (hLine : line ∈ lines document) :
    '\n' ∉ line.stripped := by
  intro hFeed
  exact lineFeed_notMem_of_mem_lines hLine
    ((stripped_isPrefix line).subset hFeed)

end Text

end Translit

------------------------------------------------------------
-- Joining
------------------------------------------------------------

namespace Translit

namespace Text

/- Joining all entries joins the joined halves. -/
theorem joinLines_append
    {front back : List Text}
    (hFront : front ≠ [])
    (hBack : back ≠ []) :
    joinLines (front ++ back) =
      joinLines front ++ '\n' :: joinLines back := by
  unfold joinLines
  induction front with
  | nil => exact absurd rfl hFront
  | cons entry front ih =>
      cases front with
      | nil =>
          rw [List.singleton_append,
            List.intercalate_cons_of_ne_nil hBack]
          simp
      | cons next front =>
          have hRest := ih (List.cons_ne_nil next front)
          simp only [List.cons_append,
            List.intercalate_cons_cons] at hRest ⊢
          rw [hRest]
          simp

@[simp] theorem joinLines_singleton
    (entry : Text) :
    joinLines [entry] = entry := by
  simp [joinLines]

/- The first entry ends at the first line feed between two. -/
theorem joinLines_cons
    {entries : List Text}
    (entry : Text)
    (hEntries : entries ≠ []) :
    joinLines (entry :: entries) =
      entry ++ '\n' :: joinLines entries := by
  rw [← List.singleton_append,
    joinLines_append (List.cons_ne_nil entry []) hEntries,
    joinLines_singleton]

/- Joined entries are cut where they end or hold a feed. -/
theorem splitOn_joinLines
    {entries : List Text}
    (hEntries : entries ≠ []) :
    (joinLines entries).splitOn '\n' =
      entries.flatMap (List.splitOn '\n') := by
  induction entries with
  | nil => exact absurd rfl hEntries
  | cons entry entries ih =>
      cases entries with
      | nil => simp
      | cons next entries =>
          have hRest := ih (List.cons_ne_nil next entries)
          rw [joinLines_cons entry (List.cons_ne_nil _ _),
            List.splitOn_append_cons_self, hRest]
          simp only [List.flatMap_cons]

/- Entries that each end with a line feed, and a rest. -/
theorem splitOn_flatMap_terminated
    {entries : List Text}
    (rest : Text)
    (hEntries : ∀ entry ∈ entries, '\n' ∉ entry) :
    (entries.flatMap (· ++ ['\n']) ++ rest).splitOn '\n' =
      entries ++ rest.splitOn '\n' := by
  induction entries with
  | nil => rfl
  | cons entry entries ih =>
      have hFirst : '\n' ∉ entry := hEntries entry (by simp)
      have hOthers : ∀ other ∈ entries, '\n' ∉ other := by
        intro other hMember
        exact hEntries other (List.mem_cons_of_mem _ hMember)
      rw [List.flatMap_cons, List.append_assoc,
        List.append_assoc, List.singleton_append,
        List.splitOn_append_cons_self,
        List.splitOn_eq_singleton hFirst, ih hOthers]
      rfl

/- Line feeds stand between the entries and inside them. -/
theorem count_lineFeed_joinLines
    (entries : List Text) :
    (joinLines entries).count '\n' =
      entries.length - 1 +
        (entries.map (List.count '\n')).sum := by
  induction entries with
  | nil => rfl
  | cons entry entries ih =>
      cases entries with
      | nil => simp
      | cons next entries =>
          rw [joinLines_cons entry (List.cons_ne_nil _ _),
            List.count_append, List.count_cons_self, ih]
          simp only [List.length_cons, List.map_cons,
            List.sum_cons]
          omega

end Text

end Translit
