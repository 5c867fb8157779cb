import Mathlib.Data.List.Basic
import Translit.Report.Sink

/-
  What sinks take.

  A sink takes as much of a text as there is room for, and it
  does not matter in how many parts the text is written, as
  long as nothing is written behind a part that fails.

  Key definitions include:
    * `Sink.takes`
    * `Sink.after`
    * `Sink.writeAll`

  Main declarations:
    * `Sink.takes_append`
    * `Sink.after_append_of_takes`
    * `Sink.after_append_of_not_takes`
    * `Sink.writeAll_eq_write`
-/

------------------------------------------------------------
-- Single Writes
------------------------------------------------------------

namespace Translit

namespace Text

theorem utf8_append
    (first second : Text) :
    utf8 (first ++ second) = first.utf8 ++ second.utf8 :=
  List.flatMap_append

theorem utf8Length_cons
    (c : Char)
    (t : Text) :
    utf8Length (c :: t) = c.utf8Size + utf8Length t := by
  simp [utf8Length, utf8]

theorem utf8Length_replicate
    (n : Nat)
    (c : Char) :
    utf8Length (List.replicate n c) = n * c.utf8Size := by
  induction n with
  | zero => exact (Nat.zero_mul _).symm
  | succ n ih =>
      rw [List.replicate_succ, utf8Length_cons, ih,
        Nat.succ_mul, Nat.add_comm]

end Text

namespace Sink

/- A sink is its capacity and the bytes it has taken. -/
theorem eq_of_bytes_eq
    {first second : Sink}
    (hCapacity : first.capacity = second.capacity)
    (hBytes : first.bytes = second.bytes) :
    first = second := by
  rw [Sink.mk.injEq]
  exact ⟨hCapacity, Array.toList_inj.mp hBytes⟩

/- Whether a sink takes all of a text. -/
def takes
    (sink : Sink)
    (t : Text) : Bool :=
  (sink.write t).2

/- The sink when a text was written. -/
def after
    (sink : Sink)
    (t : Text) : Sink :=
  (sink.write t).1

theorem write_eq
    (sink : Sink)
    (t : Text) :
    sink.write t = (sink.after t, sink.takes t) :=
  rfl

@[simp] theorem capacity_after
    (sink : Sink)
    (t : Text) :
    (sink.after t).capacity = sink.capacity :=
  rfl

theorem bytes_after
    (sink : Sink)
    (t : Text) :
    (sink.after t).bytes =
      sink.bytes ++ sink.fitting t.utf8 := by
  simp [after, write, bytes]

/- A sink without a limit takes everything. -/
theorem fitting_of_unlimited
    {sink : Sink}
    (bytes : Bytes)
    (hCapacity : sink.capacity = none) :
    sink.fitting bytes = bytes := by
  rw [fitting, hCapacity]

theorem takes_of_unlimited
    {sink : Sink}
    (t : Text)
    (hCapacity : sink.capacity = none) :
    sink.takes t := by
  simp [takes, write, fitting_of_unlimited _ hCapacity]

/- Any other sink takes what there is room for. -/
theorem fitting_of_limited
    {sink : Sink}
    {n : Nat}
    (bytes : Bytes)
    (hCapacity : sink.capacity = some n) :
    sink.fitting bytes =
      bytes.take (n - sink.bytes.length) := by
  rw [fitting, hCapacity]
  rfl

theorem takes_iff_of_limited
    {sink : Sink}
    {n : Nat}
    (t : Text)
    (hCapacity : sink.capacity = some n) :
    sink.takes t ↔
      t.utf8.length ≤ n - sink.bytes.length := by
  simp only [takes, write, fitting_of_limited _ hCapacity,
    List.length_take, beq_iff_eq]
  omega

@[simp] theorem takes_nil
    (sink : Sink) :
    sink.takes [] := by
  cases hCapacity : sink.capacity with
  | none => exact takes_of_unlimited [] hCapacity
  | some n =>
      rw [takes_iff_of_limited [] hCapacity]
      exact Nat.zero_le _

/- A text that is taken fits as it is. -/
theorem fitting_of_takes
    {sink : Sink}
    {t : Text}
    (hTakes : sink.takes t) :
    sink.fitting t.utf8 = t.utf8 := by
  cases hCapacity : sink.capacity with
  | none => exact fitting_of_unlimited _ hCapacity
  | some n =>
      rw [takes_iff_of_limited t hCapacity] at hTakes
      rw [fitting_of_limited _ hCapacity]
      exact List.take_of_length_le hTakes

theorem bytes_after_of_takes
    {sink : Sink}
    {t : Text}
    (hTakes : sink.takes t) :
    (sink.after t).bytes = sink.bytes ++ t.utf8 := by
  rw [bytes_after, fitting_of_takes hTakes]

@[simp] theorem after_nil
    (sink : Sink) :
    sink.after [] = sink := by
  refine eq_of_bytes_eq rfl ?_
  rw [bytes_after_of_takes sink.takes_nil]
  exact List.append_nil _

end Sink

end Translit

------------------------------------------------------------
-- Writing In Parts
------------------------------------------------------------

namespace Translit

namespace Sink

/- Two texts are taken if one is and then the other. -/
theorem takes_append
    (sink : Sink)
    (first second : Text) :
    sink.takes (first ++ second) ↔
      sink.takes first ∧ (sink.after first).takes second := by
  cases hCapacity : sink.capacity with
  | none => simp [takes_of_unlimited, hCapacity]
  | some n =>
      have hLater : (sink.after first).capacity = some n :=
        hCapacity
      rw [takes_iff_of_limited _ hCapacity,
        takes_iff_of_limited _ hCapacity,
        takes_iff_of_limited _ hLater, bytes_after,
        fitting_of_limited _ hCapacity, Text.utf8_append,
        List.length_append, List.length_append,
        List.length_take]
      omega

theorem after_append_of_takes
    {sink : Sink}
    {first : Text}
    (second : Text)
    (hTakes : sink.takes first) :
    sink.after (first ++ second) =
      (sink.after first).after second := by
  refine eq_of_bytes_eq rfl ?_
  rw [bytes_after, bytes_after, Text.utf8_append,
    bytes_after_of_takes hTakes, List.append_assoc]
  congr 1
  cases hCapacity : sink.capacity with
  | none =>
      have hLater : (sink.after first).capacity = none :=
        hCapacity
      rw [fitting_of_unlimited _ hCapacity,
        fitting_of_unlimited _ hLater]
  | some n =>
      have hLater : (sink.after first).capacity = some n :=
        hCapacity
      rw [fitting_of_limited _ hCapacity,
        fitting_of_limited _ hLater,
        bytes_after_of_takes hTakes, List.take_append]
      rw [takes_iff_of_limited first hCapacity] at hTakes
      rw [List.take_of_length_le hTakes, List.length_append,
        Nat.sub_sub]

/- Nothing is written behind a text that does not fit. -/
theorem after_append_of_not_takes
    {sink : Sink}
    {first : Text}
    (second : Text)
    (hTakes : ¬ sink.takes first) :
    sink.after (first ++ second) = sink.after first := by
  refine eq_of_bytes_eq rfl ?_
  cases hCapacity : sink.capacity with
  | none =>
      exact absurd (takes_of_unlimited first hCapacity) hTakes
  | some n =>
      rw [takes_iff_of_limited first hCapacity] at hTakes
      have hFull :
          n - sink.bytes.length ≤ first.utf8.length :=
        Nat.le_of_not_le hTakes
      rw [bytes_after, bytes_after, Text.utf8_append,
        fitting_of_limited _ hCapacity,
        fitting_of_limited _ hCapacity,
        List.take_append_of_le_length hFull]

/- Write parts in order, up to the first that does not fit. -/
def writeAll
    (sink : Sink) :
    List Text → Sink × Bool
| [] => (sink, true)
| t :: parts =>
    match sink.write t with
    | (next, true) => next.writeAll parts
    | (next, false) => (next, false)

/- Parts are written as if they were one text. -/
theorem writeAll_eq_write
    (sink : Sink)
    (parts : List Text) :
    sink.writeAll parts = sink.write parts.flatten := by
  induction parts generalizing sink with
  | nil =>
      rw [List.flatten_nil, write_eq, after_nil, takes_nil]
      rfl
  | cons t parts ih =>
      rw [List.flatten_cons, writeAll, write_eq sink t]
      by_cases hTakes : sink.takes t
      · have hAll :
            sink.takes (t ++ parts.flatten) =
              (sink.after t).takes parts.flatten := by
          rw [Bool.eq_iff_iff, takes_append]
          simp [hTakes]
        rw [hTakes, write_eq, after_append_of_takes _ hTakes,
          hAll, ← write_eq]
        exact ih (sink.after t)
      · have hAll : ¬ sink.takes (t ++ parts.flatten) := by
          rw [takes_append]
          simp [hTakes]
        rw [Bool.not_eq_true] at hTakes hAll
        rw [hTakes, write_eq, hAll,
          after_append_of_not_takes _ (by simp [hTakes])]

end Sink

end Translit

------------------------------------------------------------
-- Outlets
------------------------------------------------------------

namespace Translit

namespace Outlet

/- A write on an outlet is one on its sink. -/
theorem write_eq
    {σ ε : Type}
    (outlet : Outlet σ)
    (fault : ε)
    (t : Text)
    (s : σ) :
    outlet.write fault t s =
      ( if (outlet.sink s).takes t then .ok ()
        else .error fault,
        outlet.refill s ((outlet.sink s).after t) ) :=
  rfl

end Outlet

end Translit

------------------------------------------------------------
-- Empty Sinks
------------------------------------------------------------

namespace Translit

namespace Sink

/- An empty sink takes texts up to its capacity. -/
theorem takes_limited_iff
    (capacity : Nat)
    (t : Text) :
    (limited capacity).takes t ↔
      t.utf8.length ≤ capacity := by
  have hCapacity :
      (limited capacity).capacity = some capacity :=
    rfl
  rw [takes_iff_of_limited t hCapacity]
  rfl

/- Of a longer text it takes the front. -/
theorem bytes_after_limited
    (capacity : Nat)
    (t : Text) :
    ((limited capacity).after t).bytes =
      t.utf8.take (min capacity t.utf8.length) := by
  have hCapacity :
      (limited capacity).capacity = some capacity :=
    rfl
  rw [bytes_after, fitting_of_limited _ hCapacity]
  change t.utf8.take capacity = _
  rw [List.take_eq_take_iff]
  omega

end Sink

end Translit
