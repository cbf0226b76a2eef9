import SimpleSshd.Dropbear.CircBuffer
import SimpleSshd.Dropbear.Proofs.PacketProofs

/-!
# Proofs: the ring buffer is a bounded queue

`Holds cbuf size contents`: the ring has room for `size` bytes and holds `contents`, in order. Each
function is described by what it does to `contents`: while a ring holds something, no assertion of
`circbuffer.c` fails, nothing outside the block is touched, and bytes come out in the order in which
they went in.
-/

namespace SimpleSshd.Dropbear

open Fallible Ring
open Wire (add32 sub32 add32_of_lt sub32_of_le)

/-- What is in the ring, in order. -/
def Circbuffer.contents (cbuf : Circbuffer) : Bytes :=
  match cbuf.data with
  | none => []
  | some cells => window cells cbuf.readpos cbuf.used

variable {cbuf cbuf' : Circbuffer} {size len : Nat} {contents bytes : Bytes}

/-! ## Assertions and exits -/

theorem dropbear_assertion_true {a : Assertion} {p : Prop} [Decidable p] (h : p) :
    dropbear_assertion a p = .ok () := if_pos h

@[simp] theorem exits_ok {α : Type} (a : α) : exits (.ok a) = .ok a := rfl

theorem exits_eq_ok {α : Type} {x : Except Exit α} {a : α} : exits x = .ok a ↔ x = .ok a := by
  cases x with
  | error e => simp [exits, Except.mapError]
  | ok b => simp [exits, Except.mapError]

theorem umod_pos {a b : Nat} (h : 0 < b) : umod a b = .ok (a % b) := if_neg (by omega)

/-! ## Positions -/

/-- The positions of a ring with `size` cells are in order. -/
structure Circbuffer.Placed (cbuf : Circbuffer) (size : Nat) : Prop where
  size_eq : cbuf.size = size
  size_pos : 0 < size
  size_le : size ≤ MAX_CBUF_SIZE
  readpos_lt : cbuf.readpos < size
  used_le : cbuf.used ≤ size
  writepos_eq : cbuf.writepos = endPos size cbuf.readpos cbuf.used
  length_cells : ∀ cells, cbuf.data = some cells → cells.length = size

/-- A bound that keeps all the sums of the source below 2^32. -/
theorem Circbuffer.Placed.size_small (h : cbuf.Placed size) : size ≤ 100000000 := h.size_le

/-- The distance between two positions, in the 32-bit arithmetic of the assertions. -/
theorem distance_mod {a b k : Nat} (hsize : size ≤ MAX_CBUF_SIZE) (ha : a < size) (hb : b < size)
    (hk : (b + k) % size = a) :
    sub32 (add32 (2 * size % 2 ^ 32) a) b % size = k % size := by
  simp only [MAX_CBUF_SIZE] at hsize
  have htwo : 2 * size % 2 ^ 32 = 2 * size := Nat.mod_eq_of_lt (by omega)
  rw [htwo, add32_of_lt (by omega), sub32_of_le (by omega) (by omega)]
  have hsum : 2 * size + a - b = (size - b + a) + size := by omega
  rw [hsum, Nat.add_mod_right, ← hk, Nat.add_mod_mod]
  have hround : size - b + (b + k) = k + size := by omega
  rw [hround, Nat.add_mod_right]

/-- **The assertions of `cbuf_writelen` hold**, and it says how much can be written in one piece. -/
theorem cbuf_writelen_placed (h : cbuf.Placed size) :
    cbuf_writelen cbuf = .ok (room size cbuf.readpos cbuf.used) := by
  obtain ⟨hsize, hpos, hle, hread, hused, hwrite, -⟩ := h
  have hlt : endPos size cbuf.readpos cbuf.used < size := endPos_lt hpos
  have hback : (endPos size cbuf.readpos cbuf.used + (size - cbuf.used)) % size = cbuf.readpos := by
    rcases endPos_cases hread hused with ⟨heq, _⟩ | ⟨heq, _⟩
    · have hsum : cbuf.readpos + cbuf.used + (size - cbuf.used) = cbuf.readpos + size := by omega
      rw [heq, hsum, Nat.add_mod_right, Nat.mod_eq_of_lt hread]
    · have hsum : cbuf.readpos + cbuf.used - size + (size - cbuf.used) = cbuf.readpos := by omega
      rw [heq, hsum, Nat.mod_eq_of_lt hread]
  have hsmall : size ≤ 100000000 := hle
  simp only [cbuf_writelen, hsize, hwrite, umod_pos hpos, ok_bind,
    sub32_of_le hused (show size < 2 ^ 32 by omega)]
  rw [dropbear_assertion_true hused, ok_bind,
    dropbear_assertion_true (distance_mod hle hlt hread rfl), ok_bind,
    dropbear_assertion_true (distance_mod hle hread hlt hback), ok_bind, room]
  split
  · rfl
  · split
    · rw [sub32_of_le (by omega) (by omega)]
      rfl
    · rw [sub32_of_le (by omega) (by omega)]
      rfl

theorem cbuf_writeptr_placed (h : cbuf.Placed size)
    (hroom : len ≤ room size cbuf.readpos cbuf.used) :
    cbuf_writeptr cbuf len = .ok (cbuf.writepos, cbuf.allocated) := by
  rw [cbuf_writeptr, cbuf_writelen_placed h, ok_bind, if_neg (Nat.not_lt.mpr hroom)]
  rfl

theorem cbuf_incrwrite_placed (h : cbuf.Placed size)
    (hroom : len ≤ room size cbuf.readpos cbuf.used) :
    cbuf_incrwrite cbuf len = .ok { cbuf with
      used := cbuf.used + len
      writepos := endPos size cbuf.readpos (cbuf.used + len) } := by
  have hread := h.readpos_lt
  have hsmall := h.size_small
  have hle := add_room_le hread h.used_le
  have hlt : cbuf.writepos < size := h.writepos_eq ▸ endPos_lt h.size_pos
  have hused : add32 cbuf.used len = cbuf.used + len := add32_of_lt (by omega)
  have hpos : umod (add32 cbuf.writepos len) size =
      .ok (endPos size cbuf.readpos (cbuf.used + len)) := by
    rw [umod_pos h.size_pos, add32_of_lt (by omega), h.writepos_eq, endPos, endPos, Nat.mod_add_mod,
      Nat.add_assoc]
  have hassert : cbuf.used + len ≤ size := by omega
  rw [cbuf_incrwrite, cbuf_writelen_placed h, ok_bind, if_neg (Nat.not_lt.mpr hroom)]
  simp only [hused, h.size_eq, hpos, dropbear_assertion_true hassert, ok_bind]
  rfl

theorem cbuf_incrread_placed (h : cbuf.Placed size) (hlen : len ≤ cbuf.used) :
    cbuf_incrread cbuf len = .ok { cbuf with
      used := cbuf.used - len
      readpos := (cbuf.readpos + len) % size } := by
  have hread := h.readpos_lt
  have hused := h.used_le
  have hsmall := h.size_small
  have hsum : add32 cbuf.readpos len = cbuf.readpos + len := add32_of_lt (by omega)
  have hrest : sub32 cbuf.used len = cbuf.used - len := sub32_of_le hlen (by omega)
  rw [cbuf_incrread, dropbear_assertion_true hlen, ok_bind, hsum, h.size_eq, umod_pos h.size_pos,
    ok_bind, hrest]
  rfl

/-! ## Rings -/

/-- The ring has `size` cells, and those in use are `contents`. -/
structure Circbuffer.Holds (cbuf : Circbuffer) (size : Nat) (contents : Bytes) : Prop where
  size_eq : cbuf.size = size
  size_pos : 0 < size
  size_le : size ≤ MAX_CBUF_SIZE
  readpos_lt : cbuf.readpos < size
  used_eq : cbuf.used = contents.length
  used_le : contents.length ≤ size
  writepos_eq : cbuf.writepos = endPos size cbuf.readpos contents.length
  unallocated : cbuf.data = none → contents = []
  length_cells : ∀ cells, cbuf.data = some cells → cells.length = size
  window_cells : ∀ cells, cbuf.data = some cells →
    window cells cbuf.readpos contents.length = contents

theorem Circbuffer.Holds.size_small (h : cbuf.Holds size contents) : size ≤ 100000000 := h.size_le

theorem Circbuffer.Holds.placed (h : cbuf.Holds size contents) : cbuf.Placed size where
  size_eq := h.size_eq
  size_pos := h.size_pos
  size_le := h.size_le
  readpos_lt := h.readpos_lt
  used_le := h.used_eq ▸ h.used_le
  writepos_eq := h.used_eq ▸ h.writepos_eq
  length_cells := h.length_cells

theorem Circbuffer.Holds.contents_eq (h : cbuf.Holds size contents) : cbuf.contents = contents := by
  unfold Circbuffer.contents
  cases hdata : cbuf.data with
  | none => exact (h.unallocated hdata).symm
  | some cells =>
    show window cells cbuf.readpos cbuf.used = contents
    rw [h.used_eq]
    exact h.window_cells cells hdata

theorem cbuf_new_holds (hpos : 0 < size) (hle : size ≤ MAX_CBUF_SIZE) :
    ∃ cbuf, cbuf_new size = .ok cbuf ∧ cbuf.Holds size [] := by
  refine ⟨_, if_neg (Nat.not_lt.mpr hle), ?_⟩
  exact {
    size_eq := rfl, size_pos := hpos, size_le := hle, readpos_lt := hpos, used_eq := rfl
    used_le := Nat.zero_le _
    writepos_eq := (Nat.zero_mod size).symm
    unallocated := fun _ => rfl
    length_cells := fun _ h => by cases h
    window_cells := fun _ h => by cases h }

theorem cbuf_getavail_holds (h : cbuf.Holds size contents) :
    cbuf_getavail cbuf = size - contents.length := by
  have hsmall := h.size_small
  have hle := h.used_le
  rw [cbuf_getavail, h.size_eq, h.used_eq, sub32_of_le hle (by omega)]

/-! ## Writing -/

theorem cbuf_writelen_holds (h : cbuf.Holds size contents) :
    cbuf_writelen cbuf = .ok (room size cbuf.readpos contents.length) := by
  rw [cbuf_writelen_placed h.placed, h.used_eq]

/-- The block is there, and the ring holds the same. -/
theorem Circbuffer.Holds.allocated (h : cbuf.Holds size contents) :
    cbuf.allocated.Holds size contents := by
  refine ⟨h.size_eq, h.size_pos, h.size_le, h.readpos_lt, h.used_eq, h.used_le, h.writepos_eq,
    fun hnone => (by cases hnone), ?_, ?_⟩
  · intro cells hcells
    cases hdata : cbuf.data with
    | none =>
      simp only [Circbuffer.allocated, hdata, Option.getD_none, Option.some.injEq] at hcells
      rw [← hcells, List.length_replicate, h.size_eq]
    | some old =>
      simp only [Circbuffer.allocated, hdata, Option.getD_some, Option.some.injEq] at hcells
      exact hcells ▸ h.length_cells old hdata
  · intro cells hcells
    cases hdata : cbuf.data with
    | none =>
      rw [h.unallocated hdata]
      rfl
    | some old =>
      simp only [Circbuffer.allocated, hdata, Option.getD_some, Option.some.injEq] at hcells
      exact hcells ▸ h.window_cells old hdata

theorem cbuf_writeptr_holds (h : cbuf.Holds size contents)
    (hroom : len ≤ room size cbuf.readpos contents.length) :
    cbuf_writeptr cbuf len = .ok (cbuf.writepos, cbuf.allocated) := by
  rw [← h.used_eq] at hroom
  exact cbuf_writeptr_placed h.placed hroom

/-- What is stored behind the cells in use does not change what the ring holds. -/
theorem Circbuffer.Holds.stored (h : cbuf.Holds size contents) {cells : Bytes}
    (hcells : cbuf.allocated.data = some cells)
    (hroom : bytes.length ≤ room size cbuf.readpos contents.length) :
    Circbuffer.Holds { cbuf with data := some (Overwrite.overwrite cells cbuf.writepos bytes) } size
      contents := by
  have hread := h.readpos_lt
  have hfit := endPos_add_room_le hread (u := contents.length)
  have hlen := h.allocated.length_cells cells hcells
  have hold : window cells cbuf.readpos contents.length = contents :=
    h.allocated.window_cells cells hcells
  have hbound : cbuf.writepos + bytes.length ≤ cells.length := by
    rw [h.writepos_eq, hlen]
    omega
  refine ⟨h.size_eq, h.size_pos, h.size_le, hread, h.used_eq, h.used_le, h.writepos_eq,
    fun hnone => (by cases hnone), ?_, ?_⟩
  · rintro _ ⟨⟩
    rw [Overwrite.length_overwrite hbound, hlen]
  · rintro _ ⟨⟩
    show window (Overwrite.overwrite cells cbuf.writepos bytes) cbuf.readpos contents.length = contents
    rw [h.writepos_eq, window_store hlen.symm hread h.used_le hroom, hold]

/-- Counting the bytes behind the cells in use appends them to what the ring holds. -/
theorem Circbuffer.Holds.grow (h : cbuf.Holds size contents)
    (hroom : bytes.length ≤ room size cbuf.readpos contents.length)
    (hnone : cbuf.data = none → bytes = [])
    (hbehind : ∀ cells, cbuf.data = some cells →
      (cells.drop cbuf.writepos).take bytes.length = bytes) :
    Circbuffer.Holds { cbuf with
      used := cbuf.used + bytes.length
      writepos := endPos size cbuf.readpos (cbuf.used + bytes.length) } size (contents ++ bytes) := by
  have hread := h.readpos_lt
  have hle := add_room_le hread h.used_le
  have hsum : cbuf.used + bytes.length = (contents ++ bytes).length := by
    rw [h.used_eq, List.length_append]
  refine ⟨h.size_eq, h.size_pos, h.size_le, hread, hsum, ?_, ?_, ?_, h.length_cells, ?_⟩
  · rw [List.length_append]
    omega
  · rw [← hsum]
  · intro hdata
    rw [h.unallocated hdata, hnone hdata, List.append_nil]
  · intro cells hcells
    have hlen := h.length_cells cells hcells
    show window cells cbuf.readpos (contents ++ bytes).length = contents ++ bytes
    rw [List.length_append, window_grow hlen.symm hread h.used_le hroom, ← h.writepos_eq,
      hbehind cells hcells, h.window_cells cells hcells]

/-- **Writing**: a piece that there is room for, copied to the place `cbuf_writeptr` gives and then
counted, is behind what the ring held. -/
theorem cbuf_write_holds (h : cbuf.Holds size contents)
    (hroom : bytes.length ≤ room size cbuf.readpos contents.length) :
    ∃ cbuf₁ cbuf₂, cbuf.allocated.store cbuf.writepos bytes = .ok cbuf₁ ∧
      cbuf_incrwrite cbuf₁ bytes.length = .ok cbuf₂ ∧ cbuf₂.Holds size (contents ++ bytes) := by
  have hfit := endPos_add_room_le h.readpos_lt (u := contents.length)
  obtain ⟨cells, hcells⟩ : ∃ cells, cbuf.allocated.data = some cells := ⟨_, rfl⟩
  have hlen := h.allocated.length_cells cells hcells
  have hbound : cbuf.writepos + bytes.length ≤ cells.length := by
    rw [h.writepos_eq, hlen]
    omega
  have hstored := h.stored hcells hroom
  refine ⟨{ cbuf with data := some (Overwrite.overwrite cells cbuf.writepos bytes) }, _, ?_,
    cbuf_incrwrite_placed hstored.placed (h.used_eq ▸ hroom), ?_⟩
  · rw [Circbuffer.store, hcells]
    exact if_pos hbound
  · refine hstored.grow hroom (fun hnone => (by cases hnone)) ?_
    rintro _ ⟨⟩
    show ((Overwrite.overwrite cells cbuf.writepos bytes).drop cbuf.writepos).take bytes.length = bytes
    rw [Overwrite.drop_overwrite_start (by omega), List.take_left]

/-! ## Reading -/

/-- The first portion goes up to the end of what is held, or of the block. -/
theorem readptrs_holds (h : cbuf.Holds size contents) :
    (cbuf_readptrs cbuf).p1 = cbuf.readpos ∧
      (cbuf_readptrs cbuf).len1 = min contents.length (size - cbuf.readpos) := by
  have hsmall := h.size_small
  have hread := h.readpos_lt
  have hlen1 : min cbuf.used (sub32 cbuf.size cbuf.readpos) =
      min contents.length (size - cbuf.readpos) := by
    rw [h.used_eq, h.size_eq, sub32_of_le (by omega) (by omega)]
  simp only [cbuf_readptrs]
  split
  · exact ⟨rfl, hlen1⟩
  · exact ⟨rfl, hlen1⟩

/-- It is what the ring holds first. -/
theorem load_holds (h : cbuf.Holds size contents) :
    cbuf.load (cbuf_readptrs cbuf).p1 (cbuf_readptrs cbuf).len1 =
      .ok (contents.take (cbuf_readptrs cbuf).len1) := by
  have hread := h.readpos_lt
  obtain ⟨hp1, hlen1⟩ := readptrs_holds h
  rw [hp1, hlen1]
  cases hdata : cbuf.data with
  | none =>
    rw [h.unallocated hdata, Circbuffer.load, hdata]
    simp [pure, Except.pure]
  | some cells =>
    have hlen := h.length_cells cells hdata
    have hbound : cbuf.readpos + min contents.length (size - cbuf.readpos) ≤ cells.length := by
      omega
    have htake := take_window (u := contents.length) (Nat.min_le_left _ _) hbound
    rw [h.window_cells cells hdata] at htake
    rw [htake, Circbuffer.load, hdata]
    exact if_pos hbound

/-- **Reading** takes off what is held first, also round the end of the block. -/
theorem Circbuffer.Holds.read (h : cbuf.Holds size contents) (hlen : len ≤ contents.length) :
    Circbuffer.Holds { cbuf with
      used := cbuf.used - len
      readpos := (cbuf.readpos + len) % size } size (contents.drop len) := by
  have hused := h.used_le
  have hdrop : (contents.drop len).length = contents.length - len := List.length_drop
  refine ⟨h.size_eq, h.size_pos, h.size_le, Nat.mod_lt _ h.size_pos, ?_, by omega, ?_, ?_,
    h.length_cells, ?_⟩
  · rw [hdrop, h.used_eq]
  · show cbuf.writepos = _
    rw [hdrop, endPos_read hlen, h.writepos_eq]
  · intro hnone
    rw [h.unallocated hnone, List.drop_nil]
  · intro cells hcells
    have hwindow := window_read_round (h.length_cells cells hcells).symm h.readpos_lt hused hlen
    rw [h.window_cells cells hcells] at hwindow
    rw [hdrop]
    exact hwindow

theorem cbuf_incrread_holds (h : cbuf.Holds size contents)
    (hlen : len ≤ (cbuf_readptrs cbuf).len1) :
    ∃ cbuf', cbuf_incrread cbuf len = .ok cbuf' ∧ cbuf'.Holds size (contents.drop len) := by
  rw [(readptrs_holds h).2] at hlen
  have hheld : len ≤ contents.length := hlen.trans (Nat.min_le_left _ _)
  exact ⟨_, cbuf_incrread_placed h.placed (h.used_eq ▸ hheld), h.read hheld⟩

end SimpleSshd.Dropbear
