import SimpleSshd.Dropbear.Proofs.BufferProofs
import SimpleSshd.Lib.Overwrite

/-!
# Proofs: what the buffer functions do within their bounds

`b.Is data len pos` says what a buffer consists of. Each function succeeds within its bounds, and the
buffer it leaves is described in the same way, so a sequence of calls is followed by applying these
lemmas one after the other.
-/

namespace SimpleSshd.Dropbear

open Fallible Framing Overwrite

structure Buffer.Is (b : Buffer) (data : Bytes) (len pos : Nat) : Prop where
  data_eq : b.data = data
  len_eq : b.len = len
  pos_eq : b.pos = pos

variable {b : Buffer} {d : Bytes} {l p n : Nat}

namespace Buffer.Is

theorem self (b : Buffer) : b.Is b.data b.len b.pos := ⟨rfl, rfl, rfl⟩

theorem pos_le (h : b.Is d l p) : p ≤ l := h.pos_eq ▸ h.len_eq ▸ b.pos_le

theorem len_le (h : b.Is d l p) : l ≤ d.length := h.len_eq ▸ h.data_eq ▸ b.len_le

theorem size_le (h : b.Is d l p) : d.length ≤ BUF_MAX_SIZE := h.data_eq ▸ b.size_le

theorem size_eq (h : b.Is d l p) : b.size = d.length := congrArg List.length h.data_eq

theorem rest_eq (h : b.Is d l p) : b.rest = (d.take l).drop p := by
  rw [Buffer.rest, h.data_eq, h.len_eq, h.pos_eq]

end Buffer.Is

theorem max_incr_eq : BUF_MAX_INCR = BUF_MAX_SIZE := rfl

theorem buf_new_is (h : n ≤ BUF_MAX_SIZE) :
    ∃ b, buf_new n = .ok b ∧ b.Is (List.replicate n 0) 0 0 := by
  unfold buf_new
  rw [dif_neg (by omega)]
  exact ⟨_, rfl, rfl, rfl, rfl⟩

theorem buf_resize_is (hb : b.Is d l p) (hgrow : d.length ≤ n) (h : n ≤ BUF_MAX_SIZE) :
    ∃ b', buf_resize b n = .ok b' ∧ b'.Is (d ++ List.replicate (n - d.length) 0) l p := by
  have hlen := hb.len_le
  have hpos := hb.pos_le
  unfold buf_resize
  rw [dif_neg (by omega)]
  refine ⟨_, rfl, ?_, ?_, ?_⟩
  · show b.data.take n ++ _ = _
    rw [hb.data_eq, List.take_of_length_le hgrow]
  · show min n b.len = l
    rw [hb.len_eq]
    omega
  · show min n b.pos = p
    rw [hb.pos_eq]
    omega

theorem buf_setlen_is (hb : b.Is d l p) (h : n ≤ d.length) :
    ∃ b', buf_setlen b n = .ok b' ∧ b'.Is d n (min p n) := by
  unfold buf_setlen
  rw [dif_neg (by rw [hb.size_eq]; omega)]
  exact ⟨_, rfl, hb.data_eq, rfl, congrArg (min · n) hb.pos_eq⟩

theorem buf_incrlen_is (hb : b.Is d l p) (h : l + n ≤ d.length) :
    ∃ b', buf_incrlen b n = .ok b' ∧ b'.Is d (l + n) p := by
  have hsize := hb.size_le
  have hmax := max_incr_eq
  unfold buf_incrlen
  rw [dif_neg (by rw [hb.size_eq, hb.len_eq]; omega)]
  exact ⟨_, rfl, hb.data_eq, congrArg (· + n) hb.len_eq, hb.pos_eq⟩

theorem buf_setpos_is (hb : b.Is d l p) (h : n ≤ l) :
    ∃ b', buf_setpos b n = .ok b' ∧ b'.Is d l n := by
  unfold buf_setpos
  rw [dif_neg (by rw [hb.len_eq]; omega)]
  exact ⟨_, rfl, hb.data_eq, hb.len_eq, rfl⟩

theorem buf_incrwritepos_is (hb : b.Is d l p) (h : p + n ≤ d.length) :
    ∃ b', buf_incrwritepos b n = .ok b' ∧ b'.Is d (max l (p + n)) (p + n) := by
  have hsize := hb.size_le
  have hmax := max_incr_eq
  unfold buf_incrwritepos
  rw [dif_neg (by rw [hb.size_eq, hb.pos_eq]; omega)]
  refine ⟨_, rfl, hb.data_eq, ?_, congrArg (· + n) hb.pos_eq⟩
  show max b.len (b.pos + n) = _
  rw [hb.len_eq, hb.pos_eq]

theorem buf_incrpos_is (hb : b.Is d l p) (h : p + n ≤ l) :
    ∃ b', buf_incrpos b n = .ok b' ∧ b'.Is d l (p + n) := by
  have hrest : n ≤ b.rest.length := by
    rw [b.length_rest, hb.len_eq, hb.pos_eq]
    omega
  have hbound : b.pos + n ≤ b.len := by rw [hb.pos_eq, hb.len_eq]; exact h
  refine ⟨_, buf_incrpos_ok.mpr ⟨hrest, Buffer.advanced_moveTo hbound⟩, hb.data_eq, hb.len_eq, ?_⟩
  exact congrArg (· + n) hb.pos_eq

theorem buf_getptr_is (hb : b.Is d l p) (h : p + n ≤ l) :
    buf_getptr b n = .ok ((d.drop p).take n) := by
  have hrest : n ≤ b.rest.length := by
    rw [b.length_rest, hb.len_eq, hb.pos_eq]
    omega
  refine buf_getptr_ok.mpr ⟨hrest, ?_⟩
  rw [hb.rest_eq, List.drop_take, List.take_take, Nat.min_eq_left (by omega)]

theorem buf_getwriteptr_is (hb : b.Is d l p) (h : p + n ≤ d.length) :
    buf_getwriteptr b n = .ok () := by
  have hsize := hb.size_le
  have hmax := max_incr_eq
  unfold buf_getwriteptr
  rw [if_neg (by rw [hb.size_eq, hb.pos_eq]; omega)]
  rfl

theorem store_is (bs : Bytes) (hb : b.Is d l p) (h : p + bs.length ≤ d.length) :
    ∃ b', b.store bs = .ok b' ∧ b'.Is (overwrite d p bs) l p := by
  unfold Buffer.store
  rw [dif_pos (by rw [hb.data_eq, hb.pos_eq]; exact h)]
  refine ⟨_, rfl, ?_, hb.len_eq, hb.pos_eq⟩
  show b.data.take b.pos ++ bs ++ b.data.drop (b.pos + bs.length) = _
  rw [hb.data_eq, hb.pos_eq, overwrite]

theorem buf_putbytes_is (bs : Bytes) (hb : b.Is d l p) (h : p + bs.length ≤ d.length) :
    ∃ b', buf_putbytes b bs = .ok b' ∧
      b'.Is (overwrite d p bs) (max l (p + bs.length)) (p + bs.length) := by
  have hsize := hb.size_le
  have hmax := max_incr_eq
  have hwrite : b.pos + bs.length ≤ b.data.length := by rw [hb.data_eq, hb.pos_eq]; exact h
  have hstored : (b.write bs hwrite).Is (overwrite d p bs) l p := by
    refine ⟨?_, hb.len_eq, hb.pos_eq⟩
    show b.data.take b.pos ++ bs ++ b.data.drop (b.pos + bs.length) = _
    rw [hb.data_eq, hb.pos_eq, overwrite]
  unfold buf_putbytes
  rw [dif_neg (by rw [hb.size_eq, hb.pos_eq]; omega)]
  exact buf_incrwritepos_is hstored (by rw [length_overwrite h]; exact h)

/-- Within the used part `buf_putbyte` overwrites. -/
theorem buf_putbyte_is (hb : b.Is d l p) (h : p < l) (val : UInt8) :
    ∃ b', buf_putbyte b val = .ok b' ∧ b'.Is (overwrite d p [val]) l (p + 1) := by
  have hlt : b.pos < b.len := by rw [hb.pos_eq, hb.len_eq]; exact h
  unfold buf_putbyte
  rw [if_neg (by omega), pure_bind]
  refine ⟨_, dif_pos hlt, ?_, hb.len_eq, congrArg (· + 1) hb.pos_eq⟩
  show b.data.take b.pos ++ [val] ++ b.data.drop (b.pos + 1) = _
  rw [hb.data_eq, hb.pos_eq]
  rfl

/-- Behind the used part it appends. -/
theorem buf_putbyte_append_is (hb : b.Is d l l) (h : l < d.length) (val : UInt8) :
    ∃ b', buf_putbyte b val = .ok b' ∧ b'.Is (overwrite d l [val]) (l + 1) (l + 1) := by
  obtain ⟨b₁, hincr, hb₁⟩ := buf_incrlen_is hb (n := 1) h
  have hlt : b₁.pos < b₁.len := by rw [hb₁.pos_eq, hb₁.len_eq]; omega
  have hfull : b.pos ≥ b.len := by rw [hb.pos_eq, hb.len_eq]
  unfold buf_putbyte
  rw [if_pos hfull, hincr, ok_bind]
  refine ⟨_, dif_pos hlt, ?_, hb₁.len_eq, congrArg (· + 1) hb₁.pos_eq⟩
  show b₁.data.take b₁.pos ++ [val] ++ b₁.data.drop (b₁.pos + 1) = _
  rw [hb₁.data_eq, hb₁.pos_eq]
  rfl

theorem buf_getint_is (hb : b.Is d l p) (h : p + 4 ≤ l) :
    ∃ b', buf_getint b = .ok (ofBytes ((d.drop p).take 4), b') ∧ b'.Is d l (p + 4) := by
  obtain ⟨b', hincr, hb'⟩ := buf_incrpos_is hb h
  have hincr' : buf_incrpos b 4 = .ok b' := hincr
  refine ⟨b', ?_, hb'⟩
  rw [buf_getint, buf_getptr_is hb h, ok_bind, hincr', ok_bind]
  rfl

theorem buf_getbyte_is (hb : b.Is d l p) (h : p < l) :
    ∃ b', buf_getbyte b = .ok (d.getD p 0, b') ∧ b'.Is d l (p + 1) := by
  have hlt : b.pos < b.len := by rw [hb.pos_eq, hb.len_eq]; exact h
  have hval : b.data.getD b.pos 0 = d.getD p 0 := by rw [hb.data_eq, hb.pos_eq]
  rw [← hval]
  exact ⟨_, dif_neg (Nat.not_le_of_lt hlt), hb.data_eq, hb.len_eq, congrArg (· + 1) hb.pos_eq⟩

end SimpleSshd.Dropbear
