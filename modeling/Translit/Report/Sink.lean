import Translit.Text.Basic

/-
  Byte sinks.

  A sink takes bytes until its capacity is used up.  A write
  that does not fit is taken as far as it does and fails.
  Where a state holds a sink, an outlet leads to it.

  Key definitions include:
    * `Sink`
    * `Sink.write`
    * `Outlet`
    * `Outlet.write`
-/

------------------------------------------------------------
-- Sinks
------------------------------------------------------------

namespace Translit

/- How many bytes a sink takes in all, and the bytes taken. -/
structure Sink where
  capacity : Option Nat
  taken : Array UInt8
deriving DecidableEq

namespace Sink

/- An empty sink that takes everything. -/
def unlimited : Sink where
  capacity := none
  taken := #[]

/- An empty sink that takes so many bytes. -/
def limited
    (capacity : Nat) : Sink where
  capacity := some capacity
  taken := #[]

/- The bytes a sink has taken. -/
def bytes
    (sink : Sink) : Bytes :=
  sink.taken.toList

/- The bytes of a write that still fit. -/
def fitting
    (sink : Sink)
    (bytes : Bytes) : Bytes :=
  match sink.capacity with
  | none => bytes
  | some n => bytes.take (n - sink.taken.size)

/- Write a text; the result tells whether all of it fits. -/
def write
    (sink : Sink)
    (t : Text) : Sink × Bool :=
  let bytes := t.utf8
  let fit := sink.fitting bytes
  ({ sink with taken := sink.taken ++ fit },
    fit.length == bytes.length)

end Sink

end Translit

------------------------------------------------------------
-- Outlets
------------------------------------------------------------

namespace Translit

/- The way to a sink inside of a state, and back. -/
structure Outlet
    (σ : Type) where
  sink : σ → Sink
  refill : σ → Sink → σ
  sink_refill : ∀ s k, sink (refill s k) = k
  refill_sink : ∀ s, refill s (sink s) = s
  refill_refill : ∀ s k l, refill (refill s k) l = refill s l

namespace Outlet

/- A sink that is all of the state. -/
def whole : Outlet Sink where
  sink := id
  refill := fun _ k => k
  sink_refill := fun _ _ => rfl
  refill_sink := fun _ => rfl
  refill_refill := fun _ _ _ => rfl

/- Write a text on a sink, with the fault if it fails. -/
def write
    {σ ε : Type}
    (outlet : Outlet σ)
    (fault : ε)
    (t : Text) : StateM σ (Except ε Unit) :=
  fun s =>
    let (next, complete) := (outlet.sink s).write t
    (if complete then .ok () else .error fault,
      outlet.refill s next)

end Outlet

end Translit
