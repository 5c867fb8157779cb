import Translit.Proofs.Pattern.Reading
import Translit.Rule.Form
import Translit.Rule.Gate

/-
  Gates are necessary conditions of their patterns.

  Whether a gate can ever close on a line that a pattern
  reads is seen from the pattern alone: each mark must be
  borne by a step that cannot be passed over, and the words
  after the indentation must start with a keyword.
  `Gate.guards` is that test, and all built-in rules pass it.

  Key definitions include:
    * `Pattern.bears`
    * `Pattern.opensWith`
    * `Gate.guards`
    * `Rule.applies`

  Main declarations:
    * `Gate.admits_of_reads`
    * `Rule.gate_guards_form`
    * `Rule.admits_of_applies`
-/

------------------------------------------------------------
-- Indentation
------------------------------------------------------------

namespace Translit

namespace Text

/- Blanks in front of a text belong to its indentation. -/
theorem unindented_append
    {indent : Text}
    (t : Text)
    (hIndent : ∀ c ∈ indent, isBlank c) :
    unindented (indent ++ t) = unindented t :=
  List.dropWhile_append_of_pos hIndent

/- A text that starts with another character has none. -/
theorem unindented_of_head
    {t : Text}
    (hHead : t.head?.all fun c => !isBlank c) :
    unindented t = t := by
  cases t with
  | nil => rfl
  | cons c t =>
      apply List.dropWhile_cons_of_neg
      simpa using hHead

end Text

end Translit

------------------------------------------------------------
-- Marks
------------------------------------------------------------

namespace Translit

/- Whether all characters of a class bear a mark. -/
def CharClass.bears : CharClass → Mark → Bool
| .quote, .quote => true
| _, _ => false

/- Whether a piece cannot do without a character of a mark. -/
def Piece.bears
    (mark : Mark) : Piece → Bool
| .words ws => ws.all fun w => w.any mark.holds
| .one cls => cls.bears mark
| .run cls least _ => 0 < least && cls.bears mark
| .finish => false

/- Whether some step of a pattern bears a mark. -/
def Pattern.bears
    (pattern : Pattern)
    (mark : Mark) : Bool :=
  pattern.any fun step => step.piece.bears mark

theorem CharClass.holds_mark
    {cls : CharClass}
    {mark : Mark}
    {c : Char}
    (hBears : cls.bears mark)
    (hClass : cls.holds c) :
    mark.holds c := by
  unfold CharClass.bears at hBears
  split at hBears
  · exact hClass
  · cases hBears

/- What a piece takes holds the marks that it bears. -/
theorem Piece.any_of_takes
    {piece : Piece}
    {mark : Mark}
    {taken rest : Text}
    (hBears : piece.bears mark)
    (hTaken : piece.Takes taken rest) :
    taken.any mark.holds := by
  cases piece with
  | words ws => exact List.all_eq_true.mp hBears taken hTaken
  | one cls =>
      rcases hTaken with ⟨c, hClass, rfl⟩
      simpa using CharClass.holds_mark hBears hClass
  | run cls least greed =>
      rcases hTaken with ⟨hLeast, hRun⟩
      simp only [bears, Bool.and_eq_true,
        decide_eq_true_eq] at hBears
      cases taken with
      | nil =>
          have hNone : least ≤ 0 := hLeast
          omega
      | cons c taken =>
          have hMark : mark.holds c :=
            CharClass.holds_mark hBears.2 (hRun c (by simp))
          simp [hMark]
  | finish => cases hBears

/- A text with a reading holds the marks of its pattern. -/
theorem Pattern.any_of_reads
    {pattern : Pattern}
    {mark : Mark}
    {t rest : Text}
    {found : Captures}
    (hBears : pattern.bears mark)
    (hReads : pattern.Reads t found rest) :
    t.any mark.holds := by
  induction hReads with
  | done rest => cases hBears
  | step hTaken hSteps ih =>
      rw [List.any_append, Bool.or_eq_true]
      rcases Bool.or_eq_true _ _ |>.mp hBears with
        hStep | hOther
      · exact Or.inl (Piece.any_of_takes hStep hTaken)
      · exact Or.inr (ih hOther)

end Translit

------------------------------------------------------------
-- Keywords
------------------------------------------------------------

namespace Translit

namespace Pattern

/-
  Whether a pattern is indentation and then words, each of
  which starts with a keyword and not with a blank.
-/
def opensWith
    (keywords : List Text) : Pattern → Bool
| ⟨.run .blank _ _, _⟩ :: ⟨.words ws, _⟩ :: _ =>
    ws.all fun w =>
      keywords.any (fun k => k.isPrefixOf w) &&
        w.head?.any fun c => !isBlank c
| _ => false

/- A text with a reading starts with one of the keywords. -/
theorem any_isPrefixOf_of_reads
    {pattern : Pattern}
    {keywords : List Text}
    {t rest : Text}
    {found : Captures}
    (hOpens : pattern.opensWith keywords)
    (hReads : pattern.Reads t found rest) :
    keywords.any fun k => k.isPrefixOf t.unindented := by
  unfold opensWith at hOpens
  split at hOpens
  · cases hReads with
    | step hIndent hReads =>
      cases hReads with
      | @step _ _ w last _ _ hWord hReads =>
        have hBoth := List.all_eq_true.mp hOpens w hWord
        rw [Bool.and_eq_true] at hBoth
        rcases List.any_eq_true.mp hBoth.1 with
          ⟨k, hMember, hFront⟩
        have hText :
            (w ++ last).unindented = w ++ last := by
          apply Text.unindented_of_head
          cases w with
          | nil => cases hBoth.2
          | cons c w => exact hBoth.2
        apply List.any_eq_true.mpr
        refine ⟨k, hMember, ?_⟩
        rw [Text.unindented_append _ hIndent.2, hText]
        rw [List.isPrefixOf_iff_prefix] at hFront ⊢
        exact hFront.trans (List.prefix_append w last)
  · cases hOpens

end Pattern

end Translit

------------------------------------------------------------
-- Gates And Patterns
------------------------------------------------------------

namespace Translit

namespace Gate

/- Whether a gate asks for nothing that a pattern lacks. -/
def guards
    (gate : Gate)
    (pattern : Pattern) : Bool :=
  gate.marks.all pattern.bears &&
    (gate.keywords.isEmpty ||
      pattern.opensWith gate.keywords)

/- A gate that guards a pattern admits all that it reads. -/
theorem admits_of_reads
    {gate : Gate}
    {pattern : Pattern}
    {t rest : Text}
    {found : Captures}
    (hGuards : gate.guards pattern)
    (hReads : pattern.Reads t found rest) :
    gate.admits t := by
  rw [guards, Bool.and_eq_true] at hGuards
  rw [admits, Bool.and_eq_true]
  constructor
  · apply List.all_eq_true.mpr
    intro mark hMark
    exact Pattern.any_of_reads
      (List.all_eq_true.mp hGuards.1 mark hMark) hReads
  · rw [startsLine, Bool.or_eq_true]
    rcases Bool.or_eq_true _ _ |>.mp hGuards.2 with
      hNone | hOpens
    · exact Or.inl hNone
    · exact Or.inr
        (Pattern.any_isPrefixOf_of_reads hOpens hReads)

end Gate

namespace Rule

/- Whether a line matches the pattern of a rule. -/
def applies
    (rule : Rule)
    (line : Text) : Bool :=
  (rule.form.match? line).isSome

theorem applies_iff
    (rule : Rule)
    (line : Text) :
    rule.applies line ↔
      ∃ found rest, rule.form.Reads line found rest :=
  Pattern.isSome_match?_iff rule.form line

/- The gate of every rule guards its pattern. -/
theorem gate_guards_form
    (rule : Rule) :
    rule.gate.guards rule.form := by
  cases rule <;> decide

/- A line that a rule applies to passes the rule's gate. -/
theorem admits_of_applies
    {rule : Rule}
    {line : Text}
    (hApplies : rule.applies line) :
    rule.gate.admits line := by
  rcases (applies_iff rule line).mp hApplies with
    ⟨found, rest, hReads⟩
  exact Gate.admits_of_reads (gate_guards_form rule) hReads

end Rule

end Translit
