import SimpleSshd.Dropbear.Proofs.CircBufferProofs
import SimpleSshd.Lib.Runs

/-!
# Proofs: runs of the ring buffer against a queue

Callers write into a ring in two steps: they copy bytes to the place that `cbuf_writeptr` gives, and count
them with `cbuf_incrwrite`. The two need not agree, and there may be calls in between. The abstract queue
therefore has, besides the bytes that were counted and not yet read, those that were copied and not yet
counted.

What is asserted about the positions does not depend on the bytes, and holds for a caller who counts bytes
that were never copied, too.
-/

namespace SimpleSshd.Dropbear

open Fallible Ring Runs
open Wire (sub32_of_le)

variable {cbuf cbuf' : Circbuffer} {size len : Nat} {contents bytes : Bytes}

/-! ## Positions -/

/-- The ring after `bytes` were copied behind the cells in use. -/
theorem run_writeptr (h : cbuf.Placed size) (hbytes : bytes.length ≤ len)
    (hlen : len ≤ room size cbuf.readpos cbuf.used) :
    ∃ cells, cbuf.allocated.data = some cells ∧ cells.length = size ∧
      cbuf.writepos + bytes.length ≤ cells.length ∧
      RingCall.run cbuf (.writeptr len bytes) =
        .ok { cbuf with data := some (Overwrite.overwrite cells cbuf.writepos bytes) } := by
  have hfit := endPos_add_room_le h.readpos_lt (u := cbuf.used)
  obtain ⟨cells, hcells, hlength⟩ : ∃ cells, cbuf.allocated.data = some cells ∧ cells.length = size := by
    refine ⟨_, rfl, ?_⟩
    cases hdata : cbuf.data with
    | none => rw [Option.getD_none, List.length_replicate, h.size_eq]
    | some cells => exact h.length_cells cells hdata
  have hbound : cbuf.writepos + bytes.length ≤ cells.length := by
    rw [h.writepos_eq, hlength]
    omega
  refine ⟨cells, hcells, hlength, hbound, ?_⟩
  rw [RingCall.run, cbuf_writeptr_placed h hlen, ok_bind]
  simp only [Circbuffer.store, hcells]
  exact if_pos hbound

/-- **A call within the limits returns**, and leaves the positions in order. -/
theorem Circbuffer.Placed.step (h : cbuf.Placed size) {call : RingCall} (hfits : call.Fits cbuf) :
    ∃ cbuf', call.run cbuf = .ok cbuf' ∧ cbuf'.Placed size := by
  cases call with
  | writeptr len bytes =>
    obtain ⟨hbytes, hlen⟩ := hfits
    obtain ⟨cells, -, hlength, hbound, hrun⟩ :=
      run_writeptr h hbytes (hlen _ (cbuf_writelen_placed h))
    refine ⟨_, hrun, h.size_eq, h.size_pos, h.size_le, h.readpos_lt, h.used_le, h.writepos_eq, ?_⟩
    rintro _ ⟨⟩
    rw [Overwrite.length_overwrite hbound, hlength]
  | incrwrite len =>
    have hroom := hfits _ (cbuf_writelen_placed h)
    have hle := add_room_le h.readpos_lt h.used_le
    refine ⟨_, cbuf_incrwrite_placed h hroom, h.size_eq, h.size_pos, h.size_le, h.readpos_lt, ?_, rfl,
      h.length_cells⟩
    show cbuf.used + len ≤ size
    omega
  | incrread len =>
    have hused : len ≤ cbuf.used := hfits
    refine ⟨_, cbuf_incrread_placed h hused, h.size_eq, h.size_pos, h.size_le, Nat.mod_lt _ h.size_pos,
      (Nat.sub_le _ _).trans h.used_le, ?_, h.length_cells⟩
    show cbuf.writepos = endPos size ((cbuf.readpos + len) % size) (cbuf.used - len)
    rw [endPos_read hused, h.writepos_eq]

theorem RingStep.placed {call : RingCall} (h : cbuf.Placed size) (hstep : RingStep cbuf call cbuf') :
    cbuf'.Placed size := by
  obtain ⟨hfits, hrun⟩ := hstep
  obtain ⟨cbuf₁, hrun₁, hplaced⟩ := h.step hfits
  rw [hrun] at hrun₁
  cases hrun₁
  exact hplaced

/-! ## The queue -/

structure Fifo where
  /-- What was written and not yet read. -/
  queue : Bytes := []
  /-- What was copied to the place for writing and not yet counted. -/
  pending : Bytes := []

def Fifo.step (f : Fifo) : RingCall → Fifo
  | .writeptr _ bytes => { f with pending := bytes ++ f.pending.drop bytes.length }
  | .incrwrite len => { queue := f.queue ++ f.pending.take len, pending := f.pending.drop len }
  | .incrread len => { f with queue := f.queue.drop len }

/-- Only bytes that were copied are counted. -/
def Fifo.Copied (f : Fifo) : RingCall → Prop
  | .writeptr _ _ => True
  | .incrwrite len => len ≤ f.pending.length
  | .incrread _ => True

/-- A ring beside the queue that it should be. -/
def FifoStep (s : Circbuffer × Fifo) (call : RingCall) (s' : Circbuffer × Fifo) : Prop :=
  s.2.Copied call ∧ RingStep s.1 call s'.1 ∧ s'.2 = s.2.step call

/-- The ring holds the queue, and the bytes to come stand behind it. -/
structure Refines (size : Nat) (cbuf : Circbuffer) (f : Fifo) : Prop where
  holds : cbuf.Holds size f.queue
  pending_le : f.pending.length ≤ room size cbuf.readpos f.queue.length
  uncopied : cbuf.data = none → f.pending = []
  copied : ∀ cells, cbuf.data = some cells →
    (cells.drop cbuf.writepos).take f.pending.length = f.pending

variable {f : Fifo}

theorem Refines.copied_allocated (h : Refines size cbuf f) {cells : Bytes}
    (hcells : cbuf.allocated.data = some cells) :
    (cells.drop cbuf.writepos).take f.pending.length = f.pending := by
  cases hdata : cbuf.data with
  | none =>
    rw [h.uncopied hdata]
    exact List.take_zero
  | some old =>
    simp only [Circbuffer.allocated, hdata, Option.getD_some, Option.some.injEq] at hcells
    rw [← hcells]
    exact h.copied old hdata

/-- Bytes are copied over those that were copied before. -/
theorem Refines.writeptr (h : Refines size cbuf f) (hbytes : bytes.length ≤ len)
    (hroom : len ≤ room size cbuf.readpos f.queue.length) :
    ∃ cbuf', RingCall.run cbuf (.writeptr len bytes) = .ok cbuf' ∧
      Refines size cbuf' (f.step (.writeptr len bytes)) := by
  have hholds := h.holds
  have hpending := h.pending_le
  obtain ⟨cells, hcells, hlength, hbound, hrun⟩ :=
    run_writeptr hholds.placed hbytes (hholds.used_eq ▸ hroom)
  refine ⟨_, hrun, hholds.stored hcells (hbytes.trans hroom), ?_, fun hnone => (by cases hnone), ?_⟩
  · show (bytes ++ f.pending.drop bytes.length).length ≤ room size cbuf.readpos f.queue.length
    rw [List.length_append, List.length_drop]
    omega
  · rintro _ ⟨⟩
    show ((Overwrite.overwrite cells cbuf.writepos bytes).drop cbuf.writepos).take
      (bytes ++ f.pending.drop bytes.length).length = bytes ++ f.pending.drop bytes.length
    have hrest : (cells.drop (cbuf.writepos + bytes.length)).take (f.pending.length - bytes.length) =
        f.pending.drop bytes.length := by
      rw [← List.drop_drop, ← List.drop_take, h.copied_allocated hcells]
    rw [Overwrite.drop_overwrite_start (by omega), List.length_append, List.take_length_add_append,
      List.length_drop, hrest]

/-- Bytes that were copied become part of the queue. -/
theorem Refines.incrwrite (h : Refines size cbuf f) (hlen : len ≤ f.pending.length) :
    ∃ cbuf', RingCall.run cbuf (.incrwrite len) = .ok cbuf' ∧
      Refines size cbuf' (f.step (.incrwrite len)) := by
  have hholds := h.holds
  have hpending := h.pending_le
  have hread := hholds.readpos_lt
  have hroom : len ≤ room size cbuf.readpos f.queue.length := hlen.trans hpending
  have hfit := endPos_add_room_le hread (u := f.queue.length)
  have htake : (f.pending.take len).length = len := by
    rw [List.length_take, Nat.min_eq_left hlen]
  have hnone : cbuf.data = none → f.pending.take len = [] := by
    intro hdata
    rw [h.uncopied hdata, List.take_nil]
  have hbehind : ∀ cells, cbuf.data = some cells →
      (cells.drop cbuf.writepos).take (f.pending.take len).length = f.pending.take len := by
    intro cells hcells
    rw [htake, ← h.copied cells hcells, List.take_take, Nat.min_eq_left hlen]
  have hgrown := hholds.grow (htake.symm ▸ hroom) hnone hbehind
  have hrun := cbuf_incrwrite_placed hholds.placed (hholds.used_eq ▸ hroom)
  rw [htake] at hgrown
  refine ⟨_, hrun, hgrown, ?_, ?_, ?_⟩
  · show (f.pending.drop len).length ≤ room size cbuf.readpos (f.queue ++ f.pending.take len).length
    rw [List.length_drop, List.length_append, htake]
    by_cases hlt : endPos size cbuf.readpos f.queue.length + len < size
    · rw [room_grow hread hholds.used_le hroom hlt]
      omega
    · omega
  · intro hnone
    show f.pending.drop len = []
    rw [h.uncopied hnone, List.drop_nil]
  · intro cells hcells
    show (cells.drop (endPos size cbuf.readpos (cbuf.used + len))).take (f.pending.drop len).length =
      f.pending.drop len
    by_cases hlt : endPos size cbuf.readpos f.queue.length + len < size
    · rw [hholds.used_eq, endPos_grow hlt, ← hholds.writepos_eq, ← List.drop_drop, List.length_drop,
        ← List.drop_take, h.copied cells hcells]
    · -- the piece ends at the end of the block, and nothing more was copied
      have hnil : f.pending.drop len = [] := List.drop_eq_nil_of_le (by omega)
      rw [hnil]
      exact List.take_zero

theorem Refines.incrread (h : Refines size cbuf f) (hlen : len ≤ f.queue.length) :
    ∃ cbuf', RingCall.run cbuf (.incrread len) = .ok cbuf' ∧
      Refines size cbuf' (f.step (.incrread len)) := by
  have hholds := h.holds
  refine ⟨_, cbuf_incrread_placed hholds.placed (hholds.used_eq ▸ hlen), hholds.read hlen, ?_,
    h.uncopied, h.copied⟩
  show f.pending.length ≤ room size ((cbuf.readpos + len) % size) (f.queue.drop len).length
  rw [List.length_drop]
  exact h.pending_le.trans (room_read_le hholds.readpos_lt hholds.used_le hlen)

/-- **A step of the ring is a step of the queue.** -/
theorem FifoStep.refines {s s' : Circbuffer × Fifo} {call : RingCall} (h : Refines size s.1 s.2)
    (hstep : FifoStep s call s') : Refines size s'.1 s'.2 := by
  obtain ⟨cbuf, f⟩ := s
  obtain ⟨cbuf', f'⟩ := s'
  obtain ⟨hcopied, ⟨hfits, hrun⟩, hf'⟩ := hstep
  obtain rfl : f' = f.step call := hf'
  have hwritelen := cbuf_writelen_holds h.holds
  obtain ⟨cbuf₁, hrun₁, href⟩ : ∃ cbuf₁, call.run cbuf = .ok cbuf₁ ∧ Refines size cbuf₁ (f.step call) := by
    cases call with
    | writeptr len bytes => exact h.writeptr hfits.1 (hfits.2 _ hwritelen)
    | incrwrite len => exact h.incrwrite hcopied
    | incrread len =>
      have hused : len ≤ cbuf.used := hfits
      exact h.incrread (h.holds.used_eq ▸ hused)
  have hsame : call.run cbuf = .ok cbuf' := hrun
  rw [hsame] at hrun₁
  cases hrun₁
  exact href

/-! ## Reading -/

/-- What is held ends before the end of the block. -/
theorem readptrs_one (h : cbuf.Holds size contents) (hend : contents.length ≤ size - cbuf.readpos) :
    cbuf_readptrs cbuf = ⟨cbuf.readpos, contents.length, none, 0⟩ := by
  have hsmall := h.size_small
  have hread := h.readpos_lt
  unfold cbuf_readptrs
  simp only [h.used_eq, h.size_eq, sub32_of_le hread.le (show size < 2 ^ 32 by omega),
    Nat.min_eq_left hend, Nat.lt_irrefl, if_false]

/-- What is held goes on at the start of the block. -/
theorem readptrs_two (h : cbuf.Holds size contents) (hround : size - cbuf.readpos < contents.length) :
    cbuf_readptrs cbuf = ⟨cbuf.readpos, size - cbuf.readpos, some 0,
      contents.length - (size - cbuf.readpos)⟩ := by
  have hsmall := h.size_small
  have hread := h.readpos_lt
  have hused := h.used_le
  unfold cbuf_readptrs
  simp only [h.used_eq, h.size_eq, sub32_of_le hread.le (show size < 2 ^ 32 by omega),
    Nat.min_eq_right hround.le, if_pos hround,
    sub32_of_le hround.le (show contents.length < 2 ^ 32 by omega)]

/-- The second portion is what is held behind the end of the block. -/
theorem load_second (h : cbuf.Holds size contents) (hround : size - cbuf.readpos < contents.length) :
    cbuf.load 0 (contents.length - (size - cbuf.readpos)) =
      .ok (contents.drop (size - cbuf.readpos)) := by
  have hread := h.readpos_lt
  have hused := h.used_le
  cases hdata : cbuf.data with
  | none =>
    rw [h.unallocated hdata] at hround
    exact absurd hround (Nat.not_lt_zero _)
  | some cells =>
    have hlength := h.length_cells cells hdata
    have hheld := h.window_cells cells hdata
    rw [window_of_ge (by omega) (by omega) (by omega), hlength] at hheld
    have hdrop : (cells.drop cbuf.readpos).length = size - cbuf.readpos := by
      rw [List.length_drop, hlength]
    have hrest : contents.drop (size - cbuf.readpos) =
        cells.take (cbuf.readpos + contents.length - size) := by
      nth_rewrite 1 [← hheld]
      exact List.drop_left' hdrop
    have hcount : contents.length - (size - cbuf.readpos) =
        cbuf.readpos + contents.length - size := by omega
    have hbound : 0 + (cbuf.readpos + contents.length - size) ≤ cells.length := by omega
    rw [hrest, hcount, Circbuffer.load, hdata]
    exact if_pos hbound

/-- **The two portions are what the ring holds.** -/
theorem segments_holds (h : cbuf.Holds size contents) : cbuf.segments = .ok contents := by
  have hfirst := load_holds h
  unfold Circbuffer.segments
  by_cases hend : contents.length ≤ size - cbuf.readpos
  · rw [readptrs_one h hend, List.take_length] at hfirst
    rw [readptrs_one h hend]
    simp only [hfirst, ok_bind]
    rfl
  · have hround : size - cbuf.readpos < contents.length := Nat.lt_of_not_le hend
    rw [readptrs_two h hround] at hfirst
    rw [readptrs_two h hround]
    simp only [hfirst, load_second h hround, ok_bind]
    exact congrArg Except.ok (List.take_append_drop _ _)

/-! ## Runs -/

theorem Refines.init (h : cbuf.Holds size []) : Refines size cbuf {} where
  holds := h
  pending_le := Nat.zero_le _
  uncopied _ := rfl
  copied _ _ := List.take_zero

/-- **The ring buffer is a queue.** For every capacity: after any calls within the limits the positions
are below the capacity, something can be written unless the ring is full, and every call within the
limits returns, which means that no assertion fails. If only bytes that were copied are counted, the two
portions are the bytes written and not yet read, in order. -/
theorem ring_is_fifo (size : Nat) (hpos : 1 ≤ size) (hle : size ≤ MAX_CBUF_SIZE) :
    ∃ cbuf₀, cbuf_new size = .ok cbuf₀ ∧
      (∀ calls cbuf, Run RingStep cbuf₀ calls cbuf →
        cbuf.readpos < size ∧ cbuf.writepos < size ∧
        (∃ writelen, cbuf_writelen cbuf = .ok writelen ∧ (0 < cbuf_getavail cbuf → 0 < writelen)) ∧
        ∀ call : RingCall, call.Fits cbuf → ∃ cbuf', call.run cbuf = .ok cbuf') ∧
      ∀ calls cbuf f, Run FifoStep (cbuf₀, {}) calls (cbuf, f) → cbuf.segments = .ok f.queue := by
  obtain ⟨cbuf₀, hnew, hholds⟩ := cbuf_new_holds hpos hle
  refine ⟨cbuf₀, hnew, ?_, ?_⟩
  · intro calls cbuf hrun
    have hkept : ∀ ⦃s e t⦄, s.Placed size → RingStep s e t → t.Placed size := by
      intro s e t hplaced hstep
      exact hstep.placed hplaced
    have hplaced := hrun.invariant hkept hholds.placed
    have hsmall := hplaced.size_small
    refine ⟨hplaced.readpos_lt, ?_, ⟨_, cbuf_writelen_placed hplaced, ?_⟩, ?_⟩
    · rw [hplaced.writepos_eq]
      exact endPos_lt hpos
    · intro havail
      rw [cbuf_getavail, hplaced.size_eq, sub32_of_le hplaced.used_le (by omega)] at havail
      exact room_pos (by omega)
    · intro call hfits
      obtain ⟨cbuf', hcall, -⟩ := hplaced.step hfits
      exact ⟨cbuf', hcall⟩
  · intro calls cbuf f hrun
    have hkept : ∀ ⦃s e t⦄, Refines size s.1 s.2 → FifoStep s e t → Refines size t.1 t.2 := by
      intro s e t href hstep
      exact hstep.refines href
    have href := hrun.invariant hkept (Refines.init hholds)
    exact segments_holds href.holds

theorem le_writelen {writelen : Nat} (h : cbuf_writelen cbuf = .ok writelen) (hlen : len ≤ writelen) :
    ∀ writelen', cbuf_writelen cbuf = .ok writelen' → len ≤ writelen' := by
  intro writelen' h'
  rw [h] at h'
  cases h'
  exact hlen

/-- Two bytes fill a ring of two cells; when the first has been read, a third one goes round its end. -/
theorem ring_is_fifo_round :
    ∃ cbuf₀ cbuf, cbuf_new 2 = .ok cbuf₀ ∧
      Run FifoStep (cbuf₀, {}) [.writeptr 2 [1, 2], .incrwrite 2, .incrread 1, .writeptr 1 [3],
        .incrwrite 1] (cbuf, ⟨[2, 3], []⟩) ∧ cbuf.segments = .ok [2, 3] := by
  obtain ⟨cbuf₀, hnew, -, hsegments⟩ := ring_is_fifo 2 (by decide) (by decide)
  obtain rfl : (⟨2, 0, 0, 0, none⟩ : Circbuffer) = cbuf₀ := (pure_eq_ok _ _).mp hnew
  have hrun : Run FifoStep (⟨2, 0, 0, 0, none⟩, {}) [.writeptr 2 [1, 2], .incrwrite 2, .incrread 1,
      .writeptr 1 [3], .incrwrite 1] (⟨2, 1, 1, 2, some [3, 2]⟩, ⟨[2, 3], []⟩) := by
    refine .cons (t := (⟨2, 0, 0, 0, some [1, 2]⟩, ⟨[], [1, 2]⟩)) ⟨trivial, ⟨⟨?_, ?_⟩, rfl⟩, rfl⟩ ?_
    · decide
    · exact @le_writelen _ _ 2 (by decide) (by decide)
    refine .cons (t := (⟨2, 0, 0, 2, some [1, 2]⟩, ⟨[1, 2], []⟩)) ⟨?_, ⟨?_, rfl⟩, rfl⟩ ?_
    · exact Nat.le_refl 2
    · exact @le_writelen _ _ 2 (by decide) (by decide)
    refine .cons (t := (⟨2, 1, 0, 1, some [1, 2]⟩, ⟨[2], []⟩)) ⟨trivial, ⟨?_, rfl⟩, rfl⟩ ?_
    · exact Nat.le_succ 1
    refine .cons (t := (⟨2, 1, 0, 1, some [3, 2]⟩, ⟨[2], [3]⟩)) ⟨trivial, ⟨⟨?_, ?_⟩, rfl⟩, rfl⟩ ?_
    · decide
    · exact @le_writelen _ _ 1 (by decide) (by decide)
    refine .single ⟨?_, ⟨?_, rfl⟩, rfl⟩
    · exact Nat.le_refl 1
    · exact @le_writelen _ _ 1 (by decide) (by decide)
  exact ⟨_, _, hnew, hrun, hsegments _ _ _ hrun⟩

end SimpleSshd.Dropbear
