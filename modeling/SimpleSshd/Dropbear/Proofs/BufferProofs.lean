import SimpleSshd.Dropbear.Buffer

/-!
# Proofs: what the buffer functions read

Each reader is characterised by what it takes off the unread bytes, `Buffer.rest`, and by how far it
moves the position. Strings and bignums are length-prefixed fields.
-/

namespace SimpleSshd.Dropbear

open Fallible Framing

variable {b b' b'' : Buffer} {n m : Nat} {s : Bytes}

@[simp] theorem dropbear_exit_ne_ok {α : Type} (msg : String) (a : α) :
    (dropbear_exit msg : Except Exit α) ≠ .ok a := nofun

theorem ite_exit_eq_ok {α : Type} {p : Prop} [Decidable p] {msg : String} {x : Except Exit α}
    {a : α} : (if p then dropbear_exit msg else x) = .ok a ↔ ¬ p ∧ x = .ok a :=
  ite_throw_eq_ok

theorem dite_exit_eq_ok {α : Type} {p : Prop} [Decidable p] {msg : String}
    {x : ¬ p → Except Exit α} {a : α} :
    (if h : p then dropbear_exit msg else x h) = .ok a ↔ ∃ h : ¬ p, x h = .ok a :=
  dite_throw_eq_ok

namespace Buffer

theorem length_rest (b : Buffer) : b.rest.length = b.len - b.pos := by
  have := b.len_le
  rw [rest, List.length_drop, List.length_take]
  omega

theorem length_rest_le (b : Buffer) : b.rest.length ≤ BUF_MAX_INCR := by
  have h₁ := b.len_le
  have h₂ := b.size_le
  rw [length_rest]
  simp only [BUF_MAX_SIZE, BUF_MAX_INCR] at *
  omega

/-- `b'` is `b` with the position moved `n` bytes on. -/
structure Advanced (b : Buffer) (n : Nat) (b' : Buffer) : Prop where
  data : b'.data = b.data
  len : b'.len = b.len
  pos : b'.pos = b.pos + n

theorem Advanced.rest (h : Advanced b n b') : b'.rest = b.rest.drop n := by
  rw [Buffer.rest, h.data, h.len, h.pos, Buffer.rest, List.drop_drop]

theorem Advanced.trans (h : Advanced b n b') (h' : Advanced b' m b'') : Advanced b (n + m) b'' :=
  ⟨h'.data.trans h.data, h'.len.trans h.len, by rw [h'.pos, h.pos, Nat.add_assoc]⟩

theorem Advanced.unique (h : Advanced b n b') (h' : Advanced b n b'') : b' = b'' :=
  Buffer.ext (h.data.trans h'.data.symm) (h.len.trans h'.len.symm) (h.pos.trans h'.pos.symm)

theorem advanced_moveTo (h : b.pos + n ≤ b.len) : Advanced b n (b.moveTo (b.pos + n) h) :=
  ⟨rfl, rfl, rfl⟩

end Buffer

open Buffer (Advanced)

/-! ## Positions -/

theorem buf_getptr_ok : buf_getptr b n = .ok s ↔ n ≤ b.rest.length ∧ s = b.rest.take n := by
  have hmax := b.length_rest_le
  have hlen := b.length_rest
  have hpos := b.pos_le
  simp only [buf_getptr, ite_exit_eq_ok, pure_eq_ok]
  constructor
  · rintro ⟨h, rfl⟩
    exact ⟨by omega, rfl⟩
  · rintro ⟨hn, rfl⟩
    exact ⟨by omega, rfl⟩

theorem buf_incrpos_ok : buf_incrpos b n = .ok b' ↔ n ≤ b.rest.length ∧ Advanced b n b' := by
  have hmax := b.length_rest_le
  have hlen := b.length_rest
  have hpos := b.pos_le
  simp only [buf_incrpos, dite_exit_eq_ok, pure_eq_ok]
  constructor
  · rintro ⟨h, rfl⟩
    exact ⟨by omega, rfl, rfl, by simp only [Buffer.moveTo]; omega⟩
  · rintro ⟨hn, hadv⟩
    refine ⟨by omega, Buffer.ext hadv.data.symm hadv.len.symm ?_⟩
    rw [hadv.pos]
    simp only [Buffer.moveTo]
    omega

theorem toInt32_of_lt (h : n < 2 ^ 31) : toInt32 n = n := by
  have hmod : n % 2 ^ 32 = n := Nat.mod_eq_of_lt (by omega)
  simp only [toInt32]
  omega

/-- Moving back over what was read. -/
theorem buf_incrpos_neg (h : Advanced b n b') (hn : n ≤ BUF_MAX_INCR) :
    buf_incrpos b' (-(n : Int)) = .ok b := by
  have hpos := b.pos_le
  have hpos' := h.pos
  have hlen' := h.len
  simp only [buf_incrpos, dite_exit_eq_ok, pure_eq_ok]
  refine ⟨by omega, Buffer.ext h.data h.len ?_⟩
  simp only [Buffer.moveTo]
  omega

/-! ## Integers, strings and bignums -/

theorem ofBytes_take_four_lt (bs : Bytes) : ofBytes (bs.take 4) < 2 ^ 32 := by
  have hlen : (bs.take 4).length ≤ 4 := List.length_take_le _ _
  calc ofBytes (bs.take 4) < 256 ^ (bs.take 4).length := ofBytes_lt _
    _ ≤ 256 ^ 4 := Nat.pow_le_pow_right (by decide) hlen

theorem buf_getint_ok : buf_getint b = .ok (m, b') ↔
    4 ≤ b.rest.length ∧ m = ofBytes (b.rest.take 4) ∧ Advanced b 4 b' := by
  simp only [buf_getint, bind_eq_ok, buf_getptr_ok, pure_eq_ok, Prod.mk.injEq]
  constructor
  · rintro ⟨bytes, ⟨h4, rfl⟩, b₁, hincr, rfl, rfl⟩
    exact ⟨h4, rfl, (buf_incrpos_ok.mp hincr).2⟩
  · rintro ⟨h4, rfl, hadv⟩
    exact ⟨_, ⟨h4, rfl⟩, b', buf_incrpos_ok.mpr ⟨h4, hadv⟩, rfl, rfl⟩

/-- Every reader of a string or a bignum takes a length, then that many bytes: a field. -/
theorem takeField_rest : (takeField b.rest = some (s, b'.rest) ∧ n = s.length ∧
      Advanced b (4 + s.length) b') ↔
    ∃ b₁, buf_getint b = .ok (n, b₁) ∧ n ≤ b₁.rest.length ∧ s = b₁.rest.take n ∧
      Advanced b₁ n b' := by
  constructor
  · rintro ⟨hfield, rfl, hadv⟩
    obtain ⟨h4, hlen, hsplit⟩ := takeField_eq_some.mp hfield
    have hle : b.pos + 4 ≤ b.len := by
      rw [Buffer.length_rest] at h4
      omega
    have hadv₁ : Advanced b 4 (b.moveTo (b.pos + 4) hle) := Buffer.advanced_moveTo hle
    refine ⟨_, buf_getint_ok.mpr ⟨h4, hlen, hadv₁⟩, ?_, ?_, hadv.data, hadv.len, ?_⟩
    · rw [hadv₁.rest, hsplit, List.length_append]
      omega
    · rw [hadv₁.rest, hsplit, List.take_left]
    · rw [hadv.pos, hadv₁.pos]
      omega
  · rintro ⟨b₁, hint, hn, rfl, hadv⟩
    obtain ⟨h4, hlen, hadv₁⟩ := buf_getint_ok.mp hint
    have hs : (b₁.rest.take n).length = n := by rw [List.length_take, Nat.min_eq_left hn]
    refine ⟨takeField_eq_some.mpr ⟨h4, hs.trans hlen, ?_⟩, hs.symm, ?_⟩
    · rw [hadv.rest, List.take_append_drop, hadv₁.rest]
    · rw [hs]
      exact hadv₁.trans hadv

theorem buf_getstring_ok : buf_getstring b = .ok (s, b') ↔
    s.length ≤ MAX_STRING_LEN ∧ takeField b.rest = some (s, b'.rest) ∧
      Advanced b (4 + s.length) b' := by
  have hiff := @takeField_rest b b' s.length s
  constructor
  · intro h
    simp only [buf_getstring, bind_eq_ok, Prod.exists, ite_exit_eq_ok, buf_getptr_ok, pure_eq_ok,
      Prod.mk.injEq] at h
    obtain ⟨n, b₁, hint, hmax, src, ⟨hn, rfl⟩, b₂, hincr, rfl, rfl⟩ := h
    rw [toInt32_of_lt (by simp only [MAX_STRING_LEN] at hmax; omega)] at hincr
    have hadv := (buf_incrpos_ok.mp hincr).2
    obtain ⟨hfield, hlen, hall⟩ := takeField_rest.mpr ⟨b₁, hint, hn, rfl, hadv⟩
    exact ⟨by omega, hfield, hall⟩
  · rintro ⟨hmax, hfield, hadv⟩
    obtain ⟨b₁, hint, hn, hs, hadv₁⟩ := hiff.mp ⟨hfield, rfl, hadv⟩
    simp only [buf_getstring, bind_eq_ok, Prod.exists, ite_exit_eq_ok, buf_getptr_ok, pure_eq_ok,
      Prod.mk.injEq]
    refine ⟨s.length, b₁, hint, by omega, s, ⟨hn, hs⟩, b', ?_, rfl, rfl⟩
    rw [toInt32_of_lt (by simp only [MAX_STRING_LEN] at hmax; omega)]
    exact buf_incrpos_ok.mpr ⟨hn, hadv₁⟩

theorem holding_ok : Buffer.holding s = .ok b ↔
    s.length ≤ BUF_MAX_SIZE ∧ b.data = s ∧ b.len = s.length ∧ b.pos = 0 := by
  simp only [Buffer.holding, dite_exit_eq_ok, pure_eq_ok]
  constructor
  · rintro ⟨h, rfl⟩
    exact ⟨by omega, rfl, rfl, rfl⟩
  · rintro ⟨hn, hd, hl, hp⟩
    exact ⟨by omega, Buffer.ext hd.symm hl.symm hp.symm⟩

theorem Buffer.rest_full (bytes : Bytes) (h : bytes.length ≤ BUF_MAX_SIZE) :
    (Buffer.full bytes h).rest = bytes := List.take_length

/-- **A string that was written is read again.** -/
theorem buf_getstring_full (hs : s.length ≤ MAX_STRING_LEN)
    (h : (be32 s.length ++ s).length ≤ BUF_MAX_SIZE) :
    ∃ b', buf_getstring (Buffer.full (be32 s.length ++ s) h) = .ok (s, b') := by
  have hlen : s.length < 2 ^ 32 := Nat.lt_of_le_of_lt hs (by decide)
  have hall : 4 + s.length ≤ (be32 s.length ++ s).length := by
    rw [List.length_append, length_be32]
  have hend : (Buffer.full (be32 s.length ++ s) h).pos + (4 + s.length) ≤
      (Buffer.full (be32 s.length ++ s) h).len := by
    rw [← Nat.zero_add (4 + s.length)] at hall
    exact hall
  have hadv := Buffer.advanced_moveTo hend
  refine ⟨_, buf_getstring_ok.mpr ⟨hs, ?_, hadv⟩⟩
  have hfield := takeField_be32 hlen
  have hnil := takeField_drop hfield
  rw [hadv.rest, Buffer.rest_full, ← hnil]
  exact hfield

theorem Buffer.rest_holding (h : Buffer.holding s = .ok b) : b.rest = s := by
  obtain ⟨-, hd, hl, hp⟩ := holding_ok.mp h
  rw [Buffer.rest, hd, hl, hp, List.take_length, List.drop_zero]

theorem buf_getstringbuf_ok {ret : Buffer} : buf_getstringbuf b = .ok (ret, b') ↔
    ∃ s, buf_getstring b = .ok (s, b') ∧ Buffer.holding s = .ok ret := by
  simp only [buf_getstringbuf, buf_getstring, bind_eq_ok, Prod.exists, ite_exit_eq_ok, pure_eq_ok,
    Prod.mk.injEq]
  constructor
  · rintro ⟨n, b₁, hint, hmax, src, hsrc, r, hr, b₂, hincr, rfl, rfl⟩
    exact ⟨src, ⟨n, b₁, hint, hmax, src, hsrc, b₂, hincr, rfl, rfl⟩, hr⟩
  · rintro ⟨s, ⟨n, b₁, hint, hmax, src, hsrc, b₂, hincr, rfl, rfl⟩, hr⟩
    exact ⟨n, b₁, hint, hmax, src, hsrc, ret, hr, b₂, hincr, rfl, rfl⟩

/-- The content of a bignum that is not refused: not too long, and without the sign bit. -/
def IsMpint (s : Bytes) : Prop := s.length ≤ BUF_MAX_MPINT ∧ s.headD 0 &&& 0x80 = 0

theorem headD_take {l : Bytes} (h : n ≠ 0) : (l.take n).headD 0 = l.headD 0 := by
  cases l with
  | nil => rw [List.take_nil]
  | cons c cs =>
    cases n with
    | zero => exact absurd rfl h
    | succ n => rfl

theorem buf_getmpint_ok {v : Nat} : buf_getmpint b = .ok (some v, b') ↔
    ∃ s, IsMpint s ∧ v = ofBytes s ∧ takeField b.rest = some (s, b'.rest) ∧
      Advanced b (4 + s.length) b' := by
  have hmax : BUF_MAX_MPINT < 2 ^ 31 := by decide
  constructor
  · intro h
    simp only [buf_getmpint, bind_eq_ok, Prod.exists] at h
    obtain ⟨n, b₁, hint, h⟩ := h
    split_ifs at h with hzero hlong
    · simp only [pure_eq_ok, Prod.mk.injEq, Option.some.injEq] at h
      obtain ⟨rfl, rfl⟩ := h
      subst hzero
      obtain ⟨hfield, -, hadv⟩ := takeField_rest.mpr
        ⟨b₁, hint, Nat.zero_le _, (List.take_zero).symm, ⟨rfl, rfl, rfl⟩⟩
      exact ⟨[], ⟨Nat.zero_le _, by decide⟩, rfl, hfield, hadv⟩
    · simp only [pure_eq_ok, Prod.mk.injEq, reduceCtorEq, false_and] at h
    · simp only [bind_eq_ok, buf_getptr_ok] at h
      obtain ⟨first, ⟨hone, rfl⟩, h⟩ := h
      split_ifs at h with hsign
      · simp only [pure_eq_ok, Prod.mk.injEq, reduceCtorEq, false_and] at h
      · simp only [bind_eq_ok, buf_getptr_ok, pure_eq_ok, Prod.mk.injEq, Option.some.injEq] at h
        obtain ⟨bytes, ⟨hn, rfl⟩, b₂, hincr, rfl, rfl⟩ := h
        rw [toInt32_of_lt (by omega)] at hincr
        have hadv := (buf_incrpos_ok.mp hincr).2
        obtain ⟨hfield, hlen, hall⟩ := takeField_rest.mpr ⟨b₁, hint, hn, rfl, hadv⟩
        refine ⟨_, ⟨by omega, ?_⟩, rfl, hfield, hall⟩
        rw [headD_take (by omega)] at hsign ⊢
        exact Decidable.not_not.mp hsign
  · rintro ⟨s, ⟨hlong, hsign⟩, rfl, hfield, hadv⟩
    obtain ⟨b₁, hint, hn, hs, hadv₁⟩ := (@takeField_rest b b' s.length s).mp ⟨hfield, rfl, hadv⟩
    simp only [buf_getmpint, bind_eq_ok, Prod.exists]
    refine ⟨s.length, b₁, hint, ?_⟩
    by_cases hzero : s.length = 0
    · rw [if_pos hzero, pure_eq_ok, Prod.mk.injEq]
      rw [hzero] at hadv₁
      rw [List.length_eq_zero_iff.mp hzero]
      exact ⟨rfl, Buffer.ext hadv₁.data.symm hadv₁.len.symm hadv₁.pos.symm⟩
    · have hfirst : (b₁.rest.take 1).headD 0 = s.headD 0 := by
        rw [hs, headD_take (by omega), headD_take (by omega)]
      rw [if_neg hzero, if_neg (by omega)]
      simp only [bind_eq_ok, buf_getptr_ok]
      refine ⟨_, ⟨by omega, rfl⟩, ?_⟩
      rw [hfirst, if_neg (not_not_intro hsign)]
      simp only [bind_eq_ok, buf_getptr_ok, pure_eq_ok, Prod.mk.injEq, Option.some.injEq]
      refine ⟨s, ⟨hn, hs⟩, b', ?_, rfl, rfl⟩
      rw [toInt32_of_lt (by omega)]
      exact buf_incrpos_ok.mpr ⟨hn, hadv₁⟩

end SimpleSshd.Dropbear
