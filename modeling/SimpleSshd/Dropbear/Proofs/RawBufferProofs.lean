import SimpleSshd.Dropbear.RawBuffer
import SimpleSshd.Dropbear.Proofs.BufferBoundsProofs
import SimpleSshd.Lib.Runs
import SimpleSshd.Lib.Word

/-!
# Proofs: 32-bit arithmetic does not wrap in `buffer.c`

`buf.Represents b`: the structure of the source has the block and the numbers of `b`, which is within
bounds. Each function of the source then does what the function of `Buffer` with the same name does:
it exits with the same message, or returns the same, and the buffers represent each other again. The
bounds on increments and sizes are what keeps the sums from wrapping around.
-/

namespace SimpleSshd.Dropbear

open Fallible Framing Overwrite Runs

variable {buf buf' : RawBuffer} {b b' : Buffer}

/-- The invariant of the structure. -/
structure RawBuffer.Valid (buf : RawBuffer) : Prop where
  size_eq : buf.size.toNat = buf.data.length
  pos_le : buf.pos.toNat ≤ buf.len.toNat
  len_le : buf.len.toNat ≤ buf.size.toNat
  size_le : buf.size.toNat ≤ BUF_MAX_SIZE

structure RawBuffer.Represents (buf : RawBuffer) (b : Buffer) : Prop where
  data_eq : buf.data = b.data
  size_eq : buf.size.toNat = b.data.length
  len_eq : buf.len.toNat = b.len
  pos_eq : buf.pos.toNat = b.pos

/-- The buffer that a valid structure represents. -/
theorem RawBuffer.Valid.represents (h : buf.Valid) : ∃ b : Buffer, buf.Represents b := by
  have hlen : buf.len.toNat ≤ buf.data.length := h.size_eq ▸ h.len_le
  have hsize : buf.data.length ≤ BUF_MAX_SIZE := h.size_eq ▸ h.size_le
  exact ⟨⟨buf.data, buf.len.toNat, buf.pos.toNat, h.pos_le, hlen, hsize⟩, rfl, h.size_eq, rfl, rfl⟩

theorem RawBuffer.Represents.valid (h : buf.Represents b) : buf.Valid where
  size_eq := by rw [h.size_eq, h.data_eq]
  pos_le := by rw [h.pos_eq, h.len_eq]; exact b.pos_le
  len_le := by rw [h.len_eq, h.size_eq]; exact b.len_le
  size_le := by rw [h.size_eq]; exact b.size_le

theorem RawBuffer.Represents.len_small (h : buf.Represents b) : buf.len.toNat ≤ 1000000000 :=
  h.valid.len_le.trans h.valid.size_le

theorem RawBuffer.Represents.pos_small (h : buf.Represents b) : buf.pos.toNat ≤ 1000000000 :=
  h.valid.pos_le.trans h.len_small

theorem RawBuffer.Represents.toNat_pos_succ (h : buf.Represents b) :
    (buf.pos + 1).toNat = b.pos + 1 := by
  have hsmall := h.pos_small
  rw [Word.toNat_add_of_lt, h.pos_eq]
  · rfl
  · show buf.pos.toNat + 1 < 2 ^ 32
    omega

theorem RawBuffer.Represents.ended_iff (h : buf.Represents b) :
    buf.pos ≥ buf.len ↔ b.pos ≥ b.len := by
  rw [ge_iff_le, UInt32.le_iff_toNat_le, h.len_eq, h.pos_eq]

/-! ## Checks -/

theorem toNat_max_incr : Raw.BUF_MAX_INCR.toUInt32.toNat = BUF_MAX_INCR := rfl

/-- **The check of an increment** does not depend on whether the sum wraps around. -/
theorem exceeds_iff {base incr limit : UInt32} (hbase : base.toNat ≤ 1000000000) :
    (incr > Raw.BUF_MAX_INCR.toUInt32 ∨ base + incr > limit) ↔
      (incr.toNat > BUF_MAX_INCR ∨ base.toNat + incr.toNat > limit.toNat) := by
  rw [gt_iff_lt, gt_iff_lt, UInt32.lt_iff_toNat_lt, UInt32.lt_iff_toNat_lt, toNat_max_incr]
  by_cases hincr : BUF_MAX_INCR < incr.toNat
  · simp [hincr]
  · have hsum : (base + incr).toNat = base.toNat + incr.toNat := by
      apply Word.toNat_add_of_lt
      simp only [BUF_MAX_INCR] at hincr
      omega
    rw [hsum]

theorem toNat_add_of_not_exceeds {base incr limit : UInt32} (hbase : base.toNat ≤ 1000000000)
    (h : ¬ (incr.toNat > BUF_MAX_INCR ∨ base.toNat + incr.toNat > limit.toNat)) :
    (base + incr).toNat = base.toNat + incr.toNat := by
  apply Word.toNat_add_of_lt
  simp only [BUF_MAX_INCR] at h
  omega

/-- **The check of a signed increment.** -/
theorem incrpos_check {pos len : UInt32} {incr : Int32} (hpos : pos.toNat ≤ 1000000000) :
    (incr > Raw.BUF_MAX_INCR ∨ incr < -Raw.BUF_MAX_INCR ∨
        (pos.toInt32 + incr).toUInt32 > len ∨ pos.toInt32 + incr < 0) ↔
      (incr.toInt > BUF_MAX_INCR ∨ incr.toInt < -BUF_MAX_INCR ∨
        (pos.toNat : Int) + incr.toInt > len.toNat ∨ (pos.toNat : Int) + incr.toInt < 0) := by
  have hmax : Raw.BUF_MAX_INCR.toInt = BUF_MAX_INCR := rfl
  have hmin : (-Raw.BUF_MAX_INCR).toInt = -BUF_MAX_INCR := rfl
  have hzero : (0 : Int32).toInt = 0 := rfl
  rw [gt_iff_lt, gt_iff_lt, Int32.lt_iff_toInt_lt, Int32.lt_iff_toInt_lt, Int32.lt_iff_toInt_lt,
    UInt32.lt_iff_toNat_lt, hmax, hmin, hzero]
  by_cases hrange : incr.toInt > BUF_MAX_INCR ∨ incr.toInt < -BUF_MAX_INCR
  · omega
  · -- the increment is small, so that the signed sum is right
    have hsigned : pos.toInt32.toInt = pos.toNat := by
      rw [Word.toInt_toInt32, if_pos (by omega)]
    have hsum : (pos.toInt32 + incr).toInt = pos.toNat + incr.toInt := by
      simp only [BUF_MAX_INCR] at hrange
      rw [Word.toInt_add_of_mem, hsigned]
      · omega
      · omega
    have hword := Word.toNat_toUInt32 (pos.toInt32 + incr)
    have hlen := len.toNat_lt
    rw [hsum] at hword ⊢
    split_ifs at hword with hneg
    · omega
    · omega

/-! ## Functions -/

theorem toNat_gt {a b : UInt32} : a > b ↔ a.toNat > b.toNat := UInt32.lt_iff_toNat_lt

theorem buf_new_related (size : UInt32) :
    Related RawBuffer.Represents (Raw.buf_new size) (buf_new size.toNat) := by
  refine Related.ite_dite_throw toNat_gt fun _ _ => Related.pure ?_
  exact ⟨rfl, List.length_replicate.symm, rfl, rfl⟩

theorem buf_resize_related (h : buf.Represents b) (newsize : UInt32) :
    Related RawBuffer.Represents (Raw.buf_resize buf newsize) (buf_resize b newsize.toNat) := by
  refine Related.ite_dite_throw toNat_gt fun _ _ => Related.pure ⟨?_, ?_, ?_, ?_⟩
  · show buf.data.take newsize.toNat ++ _ = b.data.take newsize.toNat ++ _
    rw [h.data_eq]
  · show newsize.toNat = (b.data.take newsize.toNat ++ _).length
    rw [List.length_append, List.length_take, List.length_replicate]
    omega
  · show (min newsize buf.len).toNat = min newsize.toNat b.len
    rw [Word.toNat_min, h.len_eq]
  · show (min newsize buf.pos).toNat = min newsize.toNat b.pos
    rw [Word.toNat_min, h.pos_eq]

theorem buf_setlen_related (h : buf.Represents b) (len : UInt32) :
    Related RawBuffer.Represents (Raw.buf_setlen buf len) (buf_setlen b len.toNat) := by
  have hsize : buf.size.toNat = b.size := h.size_eq
  refine Related.ite_dite_throw (by rw [toNat_gt, hsize]) fun _ _ => Related.pure ?_
  refine ⟨h.data_eq, h.size_eq, rfl, ?_⟩
  show (min buf.pos len).toNat = min b.pos len.toNat
  rw [Word.toNat_min, h.pos_eq]

theorem buf_incrlen_related (h : buf.Represents b) (incr : UInt32) :
    Related RawBuffer.Represents (Raw.buf_incrlen buf incr) (buf_incrlen b incr.toNat) := by
  have hsize : buf.size.toNat = b.size := h.size_eq
  have hcheck := @exceeds_iff _ incr buf.size h.len_small
  rw [h.len_eq, hsize] at hcheck
  refine Related.ite_dite_throw hcheck fun _ hnot => Related.pure ?_
  refine ⟨h.data_eq, h.size_eq, ?_, h.pos_eq⟩
  show (buf.len + incr).toNat = b.len + incr.toNat
  rw [← h.len_eq, ← hsize] at hnot
  rw [toNat_add_of_not_exceeds h.len_small hnot, h.len_eq]

theorem buf_setpos_related (h : buf.Represents b) (pos : UInt32) :
    Related RawBuffer.Represents (Raw.buf_setpos buf pos) (buf_setpos b pos.toNat) := by
  refine Related.ite_dite_throw (by rw [toNat_gt, h.len_eq]) fun _ _ => Related.pure ?_
  exact ⟨h.data_eq, h.size_eq, h.len_eq, rfl⟩

theorem buf_incrwritepos_related (h : buf.Represents b) (incr : UInt32) :
    Related RawBuffer.Represents (Raw.buf_incrwritepos buf incr) (buf_incrwritepos b incr.toNat) := by
  have hsize : buf.size.toNat = b.size := h.size_eq
  have hcheck := @exceeds_iff _ incr buf.size h.pos_small
  rw [h.pos_eq, hsize] at hcheck
  refine Related.ite_dite_throw hcheck fun _ hnot => Related.pure ?_
  rw [← h.pos_eq, ← hsize] at hnot
  have hsum := toNat_add_of_not_exceeds h.pos_small hnot
  refine ⟨h.data_eq, h.size_eq, ?_, ?_⟩
  · show (if buf.pos + incr > buf.len then buf.pos + incr else buf.len).toNat =
      max b.len (b.pos + incr.toNat)
    rw [← h.len_eq, ← h.pos_eq, ← hsum]
    split_ifs with hlonger
    · rw [toNat_gt] at hlonger
      omega
    · rw [toNat_gt] at hlonger
      omega
  · show (buf.pos + incr).toNat = b.pos + incr.toNat
    rw [hsum, h.pos_eq]

theorem buf_incrpos_related (h : buf.Represents b) (incr : Int32) :
    Related RawBuffer.Represents (Raw.buf_incrpos buf incr) (buf_incrpos b incr.toInt) := by
  have hcheck := @incrpos_check _ buf.len incr h.pos_small
  rw [h.pos_eq, h.len_eq] at hcheck
  refine Related.ite_dite_throw hcheck fun _ hnot => Related.pure ?_
  refine ⟨h.data_eq, h.size_eq, h.len_eq, ?_⟩
  show (buf.pos + incr.toUInt32).toNat = ((b.pos : Int) + incr.toInt).toNat
  have hword := Word.toNat_toUInt32 incr
  have hlen := buf.len.toNat_lt
  rw [← h.pos_eq, ← h.len_eq] at hnot
  rw [← h.pos_eq, UInt32.toNat_add]
  split_ifs at hword with hneg
  · -- the sum wraps around once, and comes out smaller by what the increment is below zero
    omega
  · omega

/-! ## Pointers -/

theorem buf_getptr_related (h : buf.Represents b) (len : UInt32) :
    Related (fun p bytes => p = ⟨b.pos, len.toNat⟩ ∧ b.pos + len.toNat ≤ b.len ∧
        bytes = b.rest.take len.toNat) (Raw.buf_getptr buf len) (buf_getptr b len.toNat) := by
  have hcheck := @exceeds_iff _ len buf.len h.pos_small
  rw [h.pos_eq, h.len_eq] at hcheck
  refine Related.ite_throw hcheck fun _ hnot => Related.pure ?_
  exact ⟨by rw [h.pos_eq], by omega, rfl⟩

theorem buf_getwriteptr_related (h : buf.Represents b) (len : UInt32) :
    Related (fun p _ => p = ⟨b.pos, len.toNat⟩ ∧ b.pos + len.toNat ≤ b.size)
      (Raw.buf_getwriteptr buf len) (buf_getwriteptr b len.toNat) := by
  have hsize : buf.size.toNat = b.size := h.size_eq
  have hcheck := @exceeds_iff _ len buf.size h.pos_small
  rw [h.pos_eq, hsize] at hcheck
  refine Related.ite_throw hcheck fun _ hnot => Related.pure ?_
  exact ⟨by rw [h.pos_eq], by omega⟩

/-- Reading where `buf_getptr` points. -/
theorem load_represents (h : buf.Represents b) {n : Nat} (hn : b.pos + n ≤ b.len) :
    buf.load ⟨b.pos, n⟩ = .ok (b.rest.take n) := by
  have hlen := b.len_le
  have hbound : b.pos + n ≤ buf.data.length := by
    rw [h.data_eq]
    omega
  have hrest : b.rest.take n = (buf.data.drop b.pos).take n := by
    rw [h.data_eq, Buffer.rest, List.drop_take, List.take_take, Nat.min_eq_left (by omega)]
  rw [hrest]
  exact if_pos hbound

/-- Writing where `buf_getwriteptr` points. -/
theorem store_related (h : buf.Represents b) {p : Range} (hp : p.start = b.pos) (bytes : Bytes) :
    Related RawBuffer.Represents (buf.store p bytes) (b.store bytes) := by
  unfold RawBuffer.store Buffer.store
  rw [hp, h.data_eq]
  by_cases hbound : b.pos + bytes.length ≤ b.data.length
  · rw [if_pos hbound, dif_pos hbound]
    refine ⟨rfl, ?_, h.len_eq, h.pos_eq⟩
    show buf.size.toNat = (overwrite b.data b.pos bytes).length
    rw [length_overwrite hbound, h.size_eq]
  · rw [if_neg hbound, dif_neg hbound]
    exact rfl

/-! ## Reading and writing -/

theorem buf_getbyte_related (h : buf.Represents b) :
    Related (fun x y => x.1 = y.1 ∧ x.2.Represents y.2) (Raw.buf_getbyte buf) (buf_getbyte b) := by
  refine Related.ite_dite_throw h.ended_iff fun _ hnot => ?_
  have hlt : b.pos < b.len := Nat.lt_of_not_le hnot
  have hlen := b.len_le
  have hfirst : (b.rest.take 1).headD 0 = b.data.getD b.pos 0 := by
    rw [headD_take (by decide), Buffer.rest, List.headD_eq_head?_getD, List.head?_drop,
      List.getElem?_take_of_lt hlt, List.getD_eq_getElem?_getD]
  rw [h.pos_eq, load_represents h hlt, ok_bind]
  exact ⟨hfirst, h.data_eq, h.size_eq, h.len_eq, h.toNat_pos_succ⟩

/-- `buf_putbytes` as the source writes it. -/
theorem buf_putbytes_eq (b : Buffer) (bytes : Bytes) :
    buf_putbytes b bytes = (do
      buf_getwriteptr b bytes.length
      let b ← b.store bytes
      buf_incrwritepos b bytes.length) := by
  unfold buf_putbytes buf_getwriteptr Buffer.store
  by_cases hcheck : bytes.length > BUF_MAX_INCR ∨ b.pos + bytes.length > b.size
  · rw [dif_pos hcheck, if_pos hcheck]
    rfl
  · have hbound : b.pos + bytes.length ≤ b.data.length := by
      unfold Buffer.size at hcheck
      omega
    rw [dif_neg hcheck, if_neg hcheck, dif_pos hbound]
    rfl

theorem buf_putbytes_related (h : buf.Represents b) {bytes : Bytes} {len : UInt32}
    (hlen : bytes.length = len.toNat) :
    Related RawBuffer.Represents (Raw.buf_putbytes buf bytes len) (buf_putbytes b bytes) := by
  rw [buf_putbytes_eq, hlen]
  refine (buf_getwriteptr_related h len).bind fun p _ hp => ?_
  have hstart : p.start = b.pos := by rw [hp.1]
  refine (store_related h hstart bytes).bind fun buf₁ b₁ h₁ => ?_
  exact buf_incrwritepos_related h₁ len

theorem buf_putint_related (h : buf.Represents b) (val : UInt32) :
    Related RawBuffer.Represents (Raw.buf_putint buf val) (buf_putint b val.toNat) :=
  @buf_putbytes_related buf b h (be32 val.toNat) 4 rfl

/-- `buf_putbyte` writes where there is a used byte. -/
theorem putbyte_store_related (h : buf.Represents b) (hlt : b.pos < b.len) (val : UInt8) :
    Related RawBuffer.Represents
      (do
        let buf ← buf.store ⟨buf.pos.toNat, 1⟩ [val]
        pure { buf with pos := buf.pos + 1 })
      (if h : b.pos < b.len then
        pure ((b.write [val] (Nat.le_trans h b.len_le)).moveTo (b.pos + 1) h)
      else throw .fault) := by
  have hbound : b.pos + [val].length ≤ b.data.length := Nat.le_trans hlt b.len_le
  have hstored : buf.store ⟨buf.pos.toNat, 1⟩ [val] =
      .ok { buf with data := overwrite b.data b.pos [val] } := by
    unfold RawBuffer.store
    rw [h.pos_eq, h.data_eq]
    exact if_pos hbound
  rw [hstored, ok_bind, dif_pos hlt]
  refine ⟨rfl, ?_, h.len_eq, h.toNat_pos_succ⟩
  show buf.size.toNat = (overwrite b.data b.pos [val]).length
  rw [length_overwrite hbound, h.size_eq]

theorem buf_putbyte_related (h : buf.Represents b) (val : UInt8) :
    Related RawBuffer.Represents (Raw.buf_putbyte buf val) (buf_putbyte b val) := by
  unfold Raw.buf_putbyte buf_putbyte
  by_cases hend : b.pos ≥ b.len
  · -- a used byte is added first
    have hpos := b.pos_le
    have hroom : Meets (buf_incrlen b 1) (fun _ => True) fun b₁ => b₁.pos < b₁.len := by
      unfold buf_incrlen
      split_ifs
      · trivial
      · show b.pos < b.len + 1
        omega
    rw [if_pos (h.ended_iff.mpr hend), if_pos hend]
    refine ((buf_incrlen_related h 1).and_post hroom).bind fun buf₁ b₁ hpost => ?_
    obtain ⟨h₁, hlt⟩ := hpost
    exact putbyte_store_related h₁ hlt val
  · rw [if_neg fun hge => hend (h.ended_iff.mp hge), if_neg hend]
    exact putbyte_store_related h (Nat.lt_of_not_le hend) val

/-! ## Integers and strings -/

theorem buf_getint_related (h : buf.Represents b) :
    Related (fun x y => x.1.toNat = y.1 ∧ x.2.Represents y.2) (Raw.buf_getint buf)
      (buf_getint b) := by
  refine (buf_getptr_related h 4).bind fun p bytes ⟨hp, hfour, hbytes⟩ => ?_
  rw [hp, load_represents h hfour, ok_bind]
  refine (buf_incrpos_related h 4).bind fun buf₁ b₁ h₁ => Related.pure ⟨?_, h₁⟩
  show ofBytes (b.rest.take 4) % 2 ^ 32 = ofBytes bytes
  rw [hbytes, Nat.mod_eq_of_lt (ofBytes_take_four_lt _)]
  rfl

theorem toInt32_toNat (len : UInt32) : toInt32 len.toNat = len.toInt32.toInt := by
  have hmod : len.toNat % 2 ^ 32 = len.toNat := Nat.mod_eq_of_lt len.toNat_lt
  rw [Word.toInt_toInt32, toInt32, hmod]
  split_ifs
  · omega
  · omega

theorem buf_getstring_related (h : buf.Represents b) :
    Related (fun x y => x.1 = y.1 ∧ x.2.Represents y.2) (Raw.buf_getstring buf)
      (buf_getstring b) := by
  refine (buf_getint_related h).bind fun x y ⟨hlen, h₁⟩ => ?_
  obtain ⟨len, buf₁⟩ := x
  obtain ⟨n, b₁⟩ := y
  obtain rfl : len.toNat = n := hlen
  refine Related.ite_throw toNat_gt fun _ _ => ?_
  refine (buf_getptr_related h₁ len).bind fun p bytes ⟨hp, hbound, hbytes⟩ => ?_
  rw [hp, load_represents h₁ hbound, ok_bind, toInt32_toNat]
  exact (buf_incrpos_related h₁ len.toInt32).bind fun buf₂ b₂ h₂ => ⟨hbytes.symm, h₂⟩

theorem buf_eatstring_related (h : buf.Represents b) :
    Related RawBuffer.Represents (Raw.buf_eatstring buf) (buf_eatstring b) := by
  refine (buf_getint_related h).bind fun x y ⟨hlen, h₁⟩ => ?_
  obtain ⟨len, buf₁⟩ := x
  obtain ⟨n, b₁⟩ := y
  obtain rfl : len.toNat = n := hlen
  show Related _ _ (buf_incrpos b₁ (toInt32 len.toNat))
  rw [toInt32_toNat]
  exact buf_incrpos_related h₁ len.toInt32

/-! ## Calls -/

/-- The call, in numbers without bounds. -/
def BufferCall.onBuffer (b : Buffer) : BufferCall → Except Exit Buffer
  | .new size => buf_new size.toNat
  | .resize newsize => buf_resize b newsize.toNat
  | .setlen len => buf_setlen b len.toNat
  | .incrlen incr => buf_incrlen b incr.toNat
  | .setpos pos => buf_setpos b pos.toNat
  | .incrwritepos incr => buf_incrwritepos b incr.toNat
  | .incrpos incr => buf_incrpos b incr.toInt
  | .getbyte => do pure (← buf_getbyte b).2
  | .putbyte val => buf_putbyte b val
  | .getptr len => do
    let _ ← buf_getptr b len.toNat
    pure b
  | .getwriteptr len => do
    buf_getwriteptr b len.toNat
    pure b
  | .getint => do pure (← buf_getint b).2
  | .putint val => buf_putint b val.toNat
  | .putbytes bytes _ _ => buf_putbytes b bytes
  | .getstring => do pure (← buf_getstring b).2

/-- The buffers after the calls, and the range that was handed out. -/
structure Returned (out : RawBuffer × Option Range) (b : Buffer) : Prop where
  represents : out.1.Represents b
  inside : ∀ p, out.2 = some p → p.start + p.length ≤ b.size

theorem RawBuffer.Represents.returned (h : buf.Represents b) : Returned (buf, none) b :=
  ⟨h, fun p hp => by cases hp⟩

/-- **A call does what it does in numbers without bounds.** -/
theorem BufferCall.run_related (h : buf.Represents b) (call : BufferCall) :
    Related Returned (call.run buf) (call.onBuffer b) := by
  cases call with
  | new size => exact (buf_new_related size).map fun _ _ h' => h'.returned
  | resize newsize => exact (buf_resize_related h newsize).map fun _ _ h' => h'.returned
  | setlen len => exact (buf_setlen_related h len).map fun _ _ h' => h'.returned
  | incrlen incr => exact (buf_incrlen_related h incr).map fun _ _ h' => h'.returned
  | setpos pos => exact (buf_setpos_related h pos).map fun _ _ h' => h'.returned
  | incrwritepos incr => exact (buf_incrwritepos_related h incr).map fun _ _ h' => h'.returned
  | incrpos incr => exact (buf_incrpos_related h incr).map fun _ _ h' => h'.returned
  | getbyte => exact (buf_getbyte_related h).bind fun _ _ h' => h'.2.returned
  | putbyte val => exact (buf_putbyte_related h val).map fun _ _ h' => h'.returned
  | getptr len =>
    refine (buf_getptr_related h len).bind fun p _ ⟨hp, hbound, _⟩ => ⟨h, ?_⟩
    rintro _ ⟨⟩
    rw [hp]
    exact hbound.trans b.len_le
  | getwriteptr len =>
    refine (buf_getwriteptr_related h len).bind fun p _ ⟨hp, hbound⟩ => ⟨h, ?_⟩
    rintro _ ⟨⟩
    rw [hp]
    exact hbound
  | getint => exact (buf_getint_related h).bind fun _ _ h' => h'.2.returned
  | putint val => exact (buf_putint_related h val).map fun _ _ h' => h'.returned
  | putbytes bytes len hlen => exact (buf_putbytes_related h hlen).map fun _ _ h' => h'.returned
  | getstring => exact (buf_getstring_related h).bind fun _ _ h' => h'.2.returned

/-! ## Verdicts -/

/-- The length in front of a string at `pos`. -/
def stringLength (data : Bytes) (pos : Nat) : Nat := ofBytes ((data.drop pos).take 4)

/-- The conditions that the functions check, in numbers without bounds, for a block of `data.length`
bytes. -/
def BufferCall.Accepted (data : Bytes) (len pos : Nat) : BufferCall → Prop
  | .new size => size.toNat ≤ BUF_MAX_SIZE
  | .resize newsize => newsize.toNat ≤ BUF_MAX_SIZE
  | .setlen len' => len'.toNat ≤ data.length
  | .incrlen incr => incr.toNat ≤ BUF_MAX_INCR ∧ len + incr.toNat ≤ data.length
  | .setpos pos' => pos'.toNat ≤ len
  | .incrwritepos incr => incr.toNat ≤ BUF_MAX_INCR ∧ pos + incr.toNat ≤ data.length
  | .incrpos incr => incr.toInt ≤ BUF_MAX_INCR ∧ -BUF_MAX_INCR ≤ incr.toInt ∧
      (pos : Int) + incr.toInt ≤ len ∧ 0 ≤ (pos : Int) + incr.toInt
  | .getbyte => pos < len
  | .putbyte _ => pos < len ∨ len + 1 ≤ data.length
  | .getptr n => n.toNat ≤ BUF_MAX_INCR ∧ pos + n.toNat ≤ len
  | .getwriteptr n => n.toNat ≤ BUF_MAX_INCR ∧ pos + n.toNat ≤ data.length
  | .getint => pos + 4 ≤ len
  | .putint _ => pos + 4 ≤ data.length
  | .putbytes bytes _ _ => bytes.length ≤ BUF_MAX_INCR ∧ pos + bytes.length ≤ data.length
  | .getstring => pos + 4 ≤ len ∧ stringLength data pos ≤ MAX_STRING_LEN ∧
      pos + 4 + stringLength data pos ≤ len

/-- The computation returns if `p` holds, and calls `dropbear_exit` if not. -/
def Verdict {α : Type} (p : Prop) (x : Except Exit α) : Prop :=
  Meets x (fun e => ¬ p ∧ ∃ msg, e = .dropbear_exit msg) fun _ => p

section

variable {α β : Type} {p q : Prop} [Decidable q] {msg : String}

theorem Verdict.ite {x : Except Exit α} (hexit : q → ¬ p) (hx : ¬ q → Verdict p x) :
    Verdict p (if q then dropbear_exit msg else x) := by
  by_cases hq : q
  · rw [if_pos hq]
    exact ⟨hexit hq, msg, rfl⟩
  · rw [if_neg hq]
    exact hx hq

theorem Verdict.dite {x : ¬ q → Except Exit α} (hexit : q → ¬ p) (hx : ∀ hq, Verdict p (x hq)) :
    Verdict p (if hq : q then dropbear_exit msg else x hq) := by
  by_cases hq : q
  · rw [dif_pos hq]
    exact ⟨hexit hq, msg, rfl⟩
  · rw [dif_neg hq]
    exact hx hq

/-- A computation with a verdict of its own, which the verdict on the whole implies. -/
theorem Verdict.bind {r : Prop} {x : Except Exit α} {f : α → Except Exit β} (hx : Verdict r x)
    (hpr : p → r) (hf : ∀ a, r → x = .ok a → Verdict p (f a)) : Verdict p (x >>= f) := by
  cases x with
  | error e => exact ⟨fun hp => hx.1 (hpr hp), hx.2⟩
  | ok a => exact hf a hx rfl

theorem Verdict.congr {r : Prop} {x : Except Exit α} (hx : Verdict r x) (hpr : p ↔ r) :
    Verdict p x := by
  rw [propext hpr]
  exact hx

theorem Verdict.map {x : Except Exit α} {f : α → β} (hx : Verdict p x) :
    Verdict p (x >>= fun a => pure (f a)) := hx.bind id fun _ hp _ => hp

end

theorem Verdict.exists_ok {α : Type} {p : Prop} {x : Except Exit α} (hx : Verdict p x) (hp : p) :
    ∃ a, x = .ok a := by
  cases x with
  | error e => exact absurd hp hx.1
  | ok a => exact ⟨a, rfl⟩

theorem buf_getptr_verdict (b : Buffer) (n : Nat) :
    Verdict (n ≤ BUF_MAX_INCR ∧ b.pos + n ≤ b.len) (buf_getptr b n) := by
  refine Verdict.ite ?_ fun hnot => ?_
  · omega
  · exact ⟨by omega, by omega⟩

theorem buf_getwriteptr_verdict (b : Buffer) (n : Nat) :
    Verdict (n ≤ BUF_MAX_INCR ∧ b.pos + n ≤ b.data.length) (buf_getwriteptr b n) := by
  have hsize : b.size = b.data.length := rfl
  refine Verdict.ite ?_ fun hnot => ?_
  · omega
  · exact ⟨by omega, by omega⟩

theorem buf_incrlen_verdict (b : Buffer) (n : Nat) :
    Verdict (n ≤ BUF_MAX_INCR ∧ b.len + n ≤ b.data.length) (buf_incrlen b n) := by
  have hsize : b.size = b.data.length := rfl
  refine Verdict.dite ?_ fun hnot => ?_
  · omega
  · exact ⟨by omega, by omega⟩

theorem buf_incrwritepos_verdict (b : Buffer) (n : Nat) :
    Verdict (n ≤ BUF_MAX_INCR ∧ b.pos + n ≤ b.data.length) (buf_incrwritepos b n) := by
  have hsize : b.size = b.data.length := rfl
  refine Verdict.dite ?_ fun hnot => ?_
  · omega
  · exact ⟨by omega, by omega⟩

theorem buf_incrpos_verdict (b : Buffer) (incr : Int) :
    Verdict (incr ≤ BUF_MAX_INCR ∧ -BUF_MAX_INCR ≤ incr ∧ (b.pos : Int) + incr ≤ b.len ∧
      0 ≤ (b.pos : Int) + incr) (buf_incrpos b incr) := by
  refine Verdict.dite ?_ fun hnot => ?_
  · omega
  · exact ⟨by omega, by omega, by omega, by omega⟩

theorem buf_putbyte_verdict (b : Buffer) (val : UInt8) :
    Verdict (b.pos < b.len ∨ b.len + 1 ≤ b.data.length) (buf_putbyte b val) := by
  have hpos := b.pos_le
  unfold buf_putbyte
  by_cases hend : b.pos ≥ b.len
  · rw [if_pos hend]
    refine (buf_incrlen_verdict b 1).bind ?_ fun b₁ hroom hincr => ?_
    · rintro (hlt | hroom)
      · omega
      · exact ⟨by decide, hroom⟩
    · obtain ⟨hcheck, hb₁⟩ := dite_exit_eq_ok.mp hincr
      obtain rfl := (pure_eq_ok _ _).mp hb₁
      have hlt : b.pos < b.len + 1 := by omega
      beta_reduce
      rw [dif_pos hlt]
      exact .inr hroom.2
  · have hlt : b.pos < b.len := Nat.lt_of_not_le hend
    rw [if_neg hend, pure_bind]
    beta_reduce
    rw [dif_pos hlt]
    exact .inl hlt

theorem buf_putbytes_verdict (b : Buffer) (bytes : Bytes) :
    Verdict (bytes.length ≤ BUF_MAX_INCR ∧ b.pos + bytes.length ≤ b.data.length)
      (buf_putbytes b bytes) := by
  have hsize : b.size = b.data.length := rfl
  refine Verdict.dite ?_ fun hnot => ?_
  · omega
  · have hfits : b.pos + bytes.length ≤ b.data.length := by omega
    have hlen : (b.write bytes hfits).data.length = b.data.length := length_overwrite hfits
    have hverdict := buf_incrwritepos_verdict (b.write bytes hfits) bytes.length
    rw [hlen] at hverdict
    exact hverdict

theorem buf_getint_verdict (b : Buffer) : Verdict (b.pos + 4 ≤ b.len) (buf_getint b) := by
  refine (buf_getptr_verdict b 4).bind (fun hfour => ⟨by decide, hfour⟩) fun _ hfour _ => ?_
  refine (buf_incrpos_verdict b 4).bind ?_ fun _ _ _ => hfour.2
  intro hfour
  have hmax : BUF_MAX_INCR = 1000000000 := rfl
  exact ⟨by omega, by omega, by omega, by omega⟩

/-- The length that `buf_getstring` reads. -/
theorem stringLength_eq (hfour : b.pos + 4 ≤ b.len) :
    stringLength b.data b.pos = ofBytes (b.rest.take 4) := by
  rw [stringLength, Buffer.rest, List.drop_take, List.take_take, Nat.min_eq_left (by omega)]

theorem buf_getstring_verdict (b : Buffer) :
    Verdict (b.pos + 4 ≤ b.len ∧ stringLength b.data b.pos ≤ MAX_STRING_LEN ∧
      b.pos + 4 + stringLength b.data b.pos ≤ b.len) (buf_getstring b) := by
  have hmax : MAX_STRING_LEN = 9000 := rfl
  have hincr : BUF_MAX_INCR = 1000000000 := rfl
  refine (buf_getint_verdict b).bind And.left fun r hfour hint => ?_
  obtain ⟨n, b₁⟩ := r
  obtain ⟨-, hn, hadv⟩ := buf_getint_ok.mp hint
  rw [stringLength_eq hfour, ← hn]
  have hpos := hadv.pos
  have hlen := hadv.len
  refine Verdict.ite (by omega) fun hshort => ?_
  refine (buf_getptr_verdict b₁ n).bind ?_ fun _ hfits _ => ?_
  · rintro ⟨-, -, hbound⟩
    exact ⟨by omega, by omega⟩
  · rw [toInt32_of_lt (by omega)]
    refine (buf_incrpos_verdict b₁ n).bind ?_ fun _ _ _ => ?_
    · rintro ⟨-, -, hbound⟩
      exact ⟨by omega, by omega, by omega, by omega⟩
    · exact ⟨hfour, by omega, by omega⟩

theorem BufferCall.onBuffer_verdict (b : Buffer) (call : BufferCall) :
    Verdict (call.Accepted b.data b.len b.pos) (call.onBuffer b) := by
  cases call with
  | new size => exact Verdict.dite Nat.not_le_of_lt Nat.le_of_not_lt
  | resize newsize => exact Verdict.dite Nat.not_le_of_lt Nat.le_of_not_lt
  | setlen len => exact Verdict.dite Nat.not_le_of_lt Nat.le_of_not_lt
  | incrlen incr => exact buf_incrlen_verdict b incr.toNat
  | setpos pos => exact Verdict.dite Nat.not_le_of_lt Nat.le_of_not_lt
  | incrwritepos incr => exact buf_incrwritepos_verdict b incr.toNat
  | incrpos incr => exact buf_incrpos_verdict b incr.toInt
  | getbyte =>
    refine Verdict.map (Verdict.dite Nat.not_lt_of_le fun hnot => ?_)
    exact Nat.lt_of_not_le hnot
  | putbyte val => exact buf_putbyte_verdict b val
  | getptr len => exact (buf_getptr_verdict b len.toNat).map
  | getwriteptr len => exact (buf_getwriteptr_verdict b len.toNat).map
  | getint => exact (buf_getint_verdict b).map
  | putint val =>
    have hverdict : Verdict (4 ≤ BUF_MAX_INCR ∧ b.pos + 4 ≤ b.data.length)
        (buf_putint b val.toNat) := buf_putbytes_verdict b (be32 val.toNat)
    exact hverdict.congr ⟨fun hfour => ⟨by decide, hfour⟩, And.right⟩
  | putbytes bytes len hlen => exact buf_putbytes_verdict b bytes
  | getstring => exact (buf_getstring_verdict b).map

/-! ## Runs -/

/-- What a call does to a valid structure. -/
theorem BufferCall.run_verdict (h : buf.Valid) (call : BufferCall) :
    Meets (call.run buf)
      (fun e => ¬ call.Accepted buf.data buf.len.toNat buf.pos.toNat ∧
        ∃ msg, e = .dropbear_exit msg)
      fun out => call.Accepted buf.data buf.len.toNat buf.pos.toNat ∧ out.1.Valid ∧
        ∀ p, out.2 = some p → p.start + p.length ≤ out.1.size.toNat := by
  obtain ⟨b, hb⟩ := h.represents
  have hverdict := call.onBuffer_verdict b
  rw [← hb.data_eq, ← hb.len_eq, ← hb.pos_eq] at hverdict
  refine ((call.run_related hb).meets hverdict).imp (fun _ he => he) ?_
  rintro out ⟨b', hout, haccepted⟩
  refine ⟨haccepted, hout.represents.valid, fun p hp => ?_⟩
  rw [hout.represents.size_eq]
  exact hout.inside p hp

/-- The invariant is kept, whatever is written into the block. -/
theorem BufferStep.valid {call : BufferCall} (h : buf.Valid) (hstep : BufferStep buf call buf') :
    buf'.Valid := by
  obtain ⟨buf₁, range, data, hrun, hlen, rfl⟩ := hstep
  have hvalid := ((call.run_verdict h).of_ok hrun).2.1
  exact ⟨hvalid.size_eq.trans hlen.symm, hvalid.pos_le, hvalid.len_le, hvalid.size_le⟩

theorem buf_new_valid {size : UInt32} (h : Raw.buf_new size = .ok buf) : buf.Valid := by
  obtain ⟨b, -, hb⟩ := (buf_new_related size).of_ok_left h
  exact hb.valid

/-- **The representation invariant of buffers.** After any sequence of calls, and whatever is in the
block, the position, the length and the size are in order and the block is as large as `size` says. A
call returns exactly if its request is within the bounds in numbers that do not wrap around, and exits
through `dropbear_exit` if not; so it never reads or writes outside the block. What it leaves is in order
again, and the range it hands out is inside. -/
theorem buffer_invariant (size : UInt32) (buf₀ buf : RawBuffer) (calls : List BufferCall)
    (hnew : Raw.buf_new size = .ok buf₀) (hrun : Run BufferStep buf₀ calls buf) :
    buf.Valid ∧ ∀ call : BufferCall,
      ((∃ out, call.run buf = .ok out) ↔ call.Accepted buf.data buf.len.toNat buf.pos.toNat) ∧
      (¬ call.Accepted buf.data buf.len.toNat buf.pos.toNat →
        ∃ msg, call.run buf = .error (.dropbear_exit msg)) ∧
      ∀ buf' range, call.run buf = .ok (buf', range) → buf'.Valid ∧
        ∀ p, range = some p → p.start + p.length ≤ buf'.size.toNat := by
  have hvalid : buf.Valid :=
    hrun.invariant (fun _ _ _ hvalid hstep => hstep.valid hvalid) (buf_new_valid hnew)
  refine ⟨hvalid, fun call => ?_⟩
  have hverdict := call.run_verdict hvalid
  cases hcall : call.run buf with
  | error e =>
    obtain ⟨hnot, msg, rfl⟩ := hverdict.of_error hcall
    refine ⟨⟨?_, fun haccepted => absurd haccepted hnot⟩, fun _ => ⟨msg, rfl⟩, ?_⟩
    · rintro ⟨out, hout⟩
      cases hout
    · intro buf' range hout
      cases hout
  | ok out =>
    obtain ⟨haccepted, hvalid', hinside⟩ := hverdict.of_ok hcall
    refine ⟨⟨fun _ => haccepted, fun _ => ⟨out, rfl⟩⟩, fun hnot => absurd haccepted hnot, ?_⟩
    rintro buf' range ⟨⟩
    exact ⟨hvalid', hinside⟩

/-- Four bytes have been written into a buffer of eight. An increment whose sum with the position wraps
around to 3 is refused. -/
theorem buffer_invariant_wrap :
    ∃ buf₀ buf, Raw.buf_new 8 = .ok buf₀ ∧ Run BufferStep buf₀ [.putint 5] buf ∧ buf.Valid ∧
      buf.pos + 4294967295 = 3 ∧
      ∃ msg, (BufferCall.incrwritepos 4294967295).run buf = .error (.dropbear_exit msg) := by
  have hput : (BufferCall.putint 5).run ⟨List.replicate 8 0, 8, 0, 0⟩ =
      .ok (⟨[0, 0, 0, 5, 0, 0, 0, 0], 8, 4, 4⟩, none) := by decide
  have hrun : Run BufferStep ⟨List.replicate 8 0, 8, 0, 0⟩ [.putint 5]
      ⟨[0, 0, 0, 5, 0, 0, 0, 0], 8, 4, 4⟩ := Run.single ⟨_, _, _, hput, rfl, rfl⟩
  obtain ⟨hvalid, hcalls⟩ := buffer_invariant 8 _ _ _ rfl hrun
  refine ⟨_, _, rfl, hrun, hvalid, rfl, (hcalls (.incrwritepos 4294967295)).2.1 ?_⟩
  rintro ⟨hincr, -⟩
  exact absurd hincr (by decide)

/-! ## A length given for an increment

`buf_eatstring` gives the length it reads to `buf_incrpos`, which takes an `int`. A length of 2^31 or
more is a negative increment there, and negative increments are allowed. -/

theorem buf_eatstring_of_getstring {s : Bytes} (h : buf_getstring b = .ok (s, b')) :
    buf_eatstring b = .ok b' := by
  simp only [buf_getstring, bind_eq_ok, Prod.exists, ite_exit_eq_ok, pure_eq_ok, Prod.mk.injEq] at h
  obtain ⟨n, b₁, hint, -, src, -, b₂, hincr, -, rfl⟩ := h
  rw [buf_eatstring, hint, ok_bind]
  exact hincr

/-- Where `buf_eatstring` moves the position to. -/
theorem buf_eatstring_pos (h : buf_eatstring b = .ok b') :
    (b'.pos : Int) = b.pos + 4 + toInt32 (stringLength b.data b.pos) ∧
      -BUF_MAX_INCR ≤ toInt32 (stringLength b.data b.pos) := by
  simp only [buf_eatstring, bind_eq_ok, Prod.exists] at h
  obtain ⟨n, b₁, hint, hincr⟩ := h
  have hfour : b.pos + 4 ≤ b.len := (buf_getint_verdict b).of_ok hint
  obtain ⟨-, hn, hadv⟩ := buf_getint_ok.mp hint
  obtain ⟨hcheck, hb'⟩ := dite_exit_eq_ok.mp hincr
  obtain rfl := (pure_eq_ok _ _).mp hb'
  have hpos := hadv.pos
  rw [stringLength_eq hfour, ← hn]
  refine ⟨?_, by omega⟩
  show ((((b₁.pos : Int) + toInt32 n).toNat : Nat) : Int) = b.pos + 4 + toInt32 n
  omega

theorem toInt32_of_ge {n : Nat} (h : 2 ^ 31 ≤ n) (hlt : n < 2 ^ 32) :
    toInt32 n = n - 2 ^ 32 := by
  have hmod : n % 2 ^ 32 = n := Nat.mod_eq_of_lt hlt
  unfold toInt32
  omega

theorem stringLength_lt (data : Bytes) (pos : Nat) : stringLength data pos < 2 ^ 32 :=
  ofBytes_take_four_lt _

/-- **Skipping a string** moves behind it, if its length is not one that counts as a small step back. -/
theorem buf_eatstring_advances (h : buf_eatstring b = .ok b')
    (hlen : stringLength b.data b.pos + BUF_MAX_INCR < 2 ^ 32 ∨
      b.pos + 4 + stringLength b.data b.pos < 2 ^ 32) :
    b'.pos = b.pos + 4 + stringLength b.data b.pos := by
  obtain ⟨hpos, hincr⟩ := buf_eatstring_pos h
  have hlt := stringLength_lt b.data b.pos
  by_cases hsmall : stringLength b.data b.pos < 2 ^ 31
  · rw [toInt32_of_lt hsmall] at hpos
    omega
  · rw [toInt32_of_ge (Nat.le_of_not_lt hsmall) hlt] at hpos hincr
    omega

/-- For every other length it returns with the position 2^32 below the end of the string. -/
theorem buf_eatstring_back (hfour : b.pos + 4 ≤ b.len)
    (hlen : 2 ^ 32 ≤ stringLength b.data b.pos + BUF_MAX_INCR)
    (hback : 2 ^ 32 ≤ b.pos + 4 + stringLength b.data b.pos) :
    ∃ b', buf_eatstring b = .ok b' ∧ b'.pos + 2 ^ 32 = b.pos + 4 + stringLength b.data b.pos := by
  have hlt := stringLength_lt b.data b.pos
  have hmax : BUF_MAX_INCR = 1000000000 := rfl
  have hword := toInt32_of_ge (show 2 ^ 31 ≤ stringLength b.data b.pos by omega) hlt
  have hadv := Buffer.advanced_moveTo hfour
  have hrest : 4 ≤ b.rest.length := by
    rw [b.length_rest]
    omega
  have hint := buf_getint_ok.mpr ⟨hrest, rfl, hadv⟩
  rw [← stringLength_eq hfour] at hint
  have hmoved := buf_incrpos_verdict (b.moveTo (b.pos + 4) hfour)
    (toInt32 (stringLength b.data b.pos))
  obtain ⟨b', hincr⟩ := hmoved.exists_ok (by simp only [Buffer.moveTo]; omega)
  have heat : buf_eatstring b = .ok b' := by
    rw [buf_eatstring, hint, ok_bind]
    exact hincr
  obtain ⟨hpos, -⟩ := buf_eatstring_pos heat
  exact ⟨b', heat, by omega⟩

/-- **`buf_eatstring` ends where `buf_getstring` does**, whenever that returns. It moves by the length of
the string and the four bytes in front of it, never backwards, unless the length counts as a negative
number that the checks of `buf_incrpos` let pass. -/
theorem eatstring_skips (buf : RawBuffer) (h : buf.Valid) :
    (∀ s buf', Raw.buf_getstring buf = .ok (s, buf') →
      ∃ buf₁, Raw.buf_eatstring buf = .ok buf₁ ∧ buf₁.pos = buf'.pos) ∧
    (stringLength buf.data buf.pos.toNat + BUF_MAX_INCR < 2 ^ 32 ∨
        buf.pos.toNat + 4 + stringLength buf.data buf.pos.toNat < 2 ^ 32 →
      ∀ buf', Raw.buf_eatstring buf = .ok buf' →
        buf'.pos.toNat = buf.pos.toNat + 4 + stringLength buf.data buf.pos.toNat ∧
        buf.pos.toNat ≤ buf'.pos.toNat) := by
  obtain ⟨b, hb⟩ := h.represents
  have heat := buf_eatstring_related hb
  constructor
  · intro s buf' hget
    obtain ⟨⟨_, b'⟩, hspec, -, hb'⟩ := (buf_getstring_related hb).of_ok_left hget
    obtain ⟨buf₁, heaten, hb₁⟩ := heat.of_ok_right (buf_eatstring_of_getstring hspec)
    refine ⟨buf₁, heaten, UInt32.toNat_inj.mp ?_⟩
    rw [hb₁.pos_eq, hb'.pos_eq]
  · intro hlen buf' heaten
    obtain ⟨b', hspec, hb'⟩ := heat.of_ok_left heaten
    rw [hb.data_eq, hb.pos_eq] at hlen ⊢
    rw [hb'.pos_eq, buf_eatstring_advances hspec hlen]
    exact ⟨rfl, by omega⟩

theorem eatstring_skips_word :
    ∃ buf buf', buf.Valid ∧ Raw.buf_getstring buf = .ok ([7], buf') ∧ buf'.pos = 5 ∧
      ∃ buf₁, Raw.buf_eatstring buf = .ok buf₁ ∧ buf₁.pos.toNat = 0 + 4 + 1 := by
  have hvalid : RawBuffer.Valid ⟨[0, 0, 0, 1, 7, 9], 6, 6, 0⟩ :=
    ⟨rfl, by decide, by decide, by decide⟩
  have hget : Raw.buf_getstring ⟨[0, 0, 0, 1, 7, 9], 6, 6, 0⟩ =
      .ok ([7], ⟨[0, 0, 0, 1, 7, 9], 6, 6, 5⟩) := by decide
  obtain ⟨hsame, hmoves⟩ := eatstring_skips _ hvalid
  obtain ⟨buf₁, heat, -⟩ := hsame _ _ hget
  exact ⟨_, _, hvalid, hget, rfl, buf₁, heat, (hmoves (.inr (by decide)) buf₁ heat).1⟩

/-- The length `0xfffffff8` counts as -8: the position moves from 4 to 0. -/
theorem eatstring_moves_back :
    ∃ buf buf', buf.Valid ∧ stringLength buf.data buf.pos.toNat = 4294967288 ∧ buf.pos = 4 ∧
      Raw.buf_eatstring buf = .ok buf' ∧ buf'.pos = 0 := by
  have hvalid : RawBuffer.Valid ⟨[0, 0, 0, 0, 255, 255, 255, 248], 8, 8, 4⟩ :=
    ⟨rfl, by decide, by decide, by decide⟩
  have heat : Raw.buf_eatstring ⟨[0, 0, 0, 0, 255, 255, 255, 248], 8, 8, 4⟩ =
      .ok ⟨[0, 0, 0, 0, 255, 255, 255, 248], 8, 8, 0⟩ := by decide
  exact ⟨_, _, hvalid, by decide, rfl, heat, rfl⟩

end SimpleSshd.Dropbear
