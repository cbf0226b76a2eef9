import Mathlib.Data.List.Basic
import Mathlib.Data.List.Infix

/-!
# Pipes

A pipe has a reader and any number of writers. One of the writers is watched: `mark` is how much the
pipe had been given when that one last wrote. A reader takes what there is, as much as it asks for.
Reading short means that everything was taken, and then also all that the watched writer had written.
-/

namespace Pipes

structure Pipe (α : Type*) where
  /-- Everything that was ever written. -/
  written : List α
  /-- How much of it was read. -/
  consumed : Nat
  /-- How much had been written when the watched writer had last written. -/
  mark : Nat
  /-- There is no writer any more. -/
  hungup : Bool
  consumed_le : consumed ≤ written.length
  mark_le : mark ≤ written.length

namespace Pipe

variable {α : Type*} {p : Pipe α} {n : Nat}

def new : Pipe α where
  written := []
  consumed := 0
  mark := 0
  hungup := false
  consumed_le := Nat.zero_le _
  mark_le := Nat.zero_le _

/-- What can be read. -/
def available (p : Pipe α) : List α := p.written.drop p.consumed

/-- What was read. -/
def delivered (p : Pipe α) : List α := p.written.take p.consumed

/-- What had been written when the watched writer had last written. -/
def marked (p : Pipe α) : List α := p.written.take p.mark

/-- Something is written, by the watched writer or by another one. -/
def write (p : Pipe α) (data : List α) (watched : Bool) : Pipe α where
  written := p.written ++ data
  consumed := p.consumed
  mark := if watched then p.written.length + data.length else p.mark
  hungup := p.hungup
  consumed_le := by
    rw [List.length_append]
    exact Nat.le_add_right_of_le p.consumed_le
  mark_le := by
    rw [List.length_append]
    split
    · exact Nat.le_refl _
    · exact Nat.le_add_right_of_le p.mark_le

/-- The last writer is gone. -/
def hangup (p : Pipe α) : Pipe α := { p with hungup := true }

/-- At most `n` elements are read. -/
def read (p : Pipe α) (n : Nat) : Pipe α where
  written := p.written
  consumed := p.consumed + (p.available.take n).length
  mark := p.mark
  hungup := p.hungup
  consumed_le := by
    have hle := p.consumed_le
    rw [available, List.length_take, List.length_drop]
    omega
  mark_le := p.mark_le

/-- All that the watched writer has written was read. -/
def Drained (p : Pipe α) : Prop := p.mark ≤ p.consumed

@[simp] theorem delivered_hangup (p : Pipe α) : p.hangup.delivered = p.delivered := rfl

@[simp] theorem delivered_write (p : Pipe α) (data : List α) (watched : Bool) :
    (p.write data watched).delivered = p.delivered :=
  List.take_append_of_le_length p.consumed_le

/-- **Reading delivers in order.** -/
theorem delivered_read (p : Pipe α) (n : Nat) :
    (p.read n).delivered = p.delivered ++ p.available.take n := by
  have hrest : p.available.take (p.available.take n).length = p.available.take n := by
    rw [List.length_take, List.take_eq_take_iff]
    omega
  rw [delivered, delivered, read, List.take_add]
  exact congrArg _ hrest

/-- A reader that gets less than it asked for has everything. -/
theorem drained_read_of_short (h : (p.available.take n).length < n) : (p.read n).Drained := by
  have hmark := p.mark_le
  show p.mark ≤ p.consumed + (p.available.take n).length
  rw [List.length_take, available, List.length_drop] at h ⊢
  omega

theorem drained_of_available (h : p.available = []) : p.Drained :=
  Nat.le_trans p.mark_le (List.drop_eq_nil_iff.mp h)

theorem Drained.read (h : p.Drained) (n : Nat) : (p.read n).Drained :=
  Nat.le_add_right_of_le h

/-- Others may go on writing. -/
theorem Drained.write (h : p.Drained) (data : List α) : (p.write data false).Drained := h

theorem Drained.marked (h : p.Drained) : p.marked <+: p.delivered :=
  List.take_prefix_take_left h

end Pipe

end Pipes
