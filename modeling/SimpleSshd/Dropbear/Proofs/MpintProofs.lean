import SimpleSshd.Dropbear.Proofs.RawBufferProofs
import SimpleSshd.Dropbear.Session
import SimpleSshd.Lib.BigEndian
import Mathlib.Data.Nat.Digits.Lemmas

/-!
# Proofs: bignums in buffers

`buf_putmpint` takes a bignum for zero if it has one digit and this digit is 0. A zero of `libtommath` has
no digits, so zero is written like any other number: with the padding byte in front of no bytes. All
other numbers are written in the canonical form, and `buf_getmpint` reads all of them back.
-/

namespace SimpleSshd.Dropbear

open Fallible Framing Overwrite BigEndian

variable {b b' : Buffer} {n : Nat} {bs : Bytes}

/-! ## Writing one thing behind the other -/

/-- A computation that writes `bs` at the position, or exits if there is no room for it. -/
def Puts (b : Buffer) (bs : Bytes) (x : Except Exit Buffer) : Prop :=
  Meets x (fun e => ¬ b.pos + bs.length ≤ b.data.length ∧ ∃ msg, e = .dropbear_exit msg)
    fun b' => b.pos + bs.length ≤ b.data.length ∧
      b'.Is (overwrite b.data b.pos bs) (max b.len (b.pos + bs.length)) (b.pos + bs.length)

namespace Puts

variable {x : Except Exit Buffer}

theorem of_verdict {p : Prop} (hx : Verdict p x) (hp : p ↔ b.pos + bs.length ≤ b.data.length)
    (his : b.pos + bs.length ≤ b.data.length → ∃ b', x = .ok b' ∧
      b'.Is (overwrite b.data b.pos bs) (max b.len (b.pos + bs.length)) (b.pos + bs.length)) :
    Puts b bs x := by
  cases x with
  | error e => exact ⟨fun hroom => hx.1 (hp.mpr hroom), hx.2⟩
  | ok b₁ =>
    have hroom := hp.mp hx
    obtain ⟨b', hb', hthis⟩ := his hroom
    cases hb'
    exact ⟨hroom, hthis⟩

theorem bind {cs : Bytes} {f : Buffer → Except Exit Buffer} (hx : Puts b bs x)
    (hf : ∀ b', Puts b' cs (f b')) : Puts b (bs ++ cs) (x >>= f) := by
  cases x with
  | error e =>
    obtain ⟨hnot, msg, rfl⟩ := hx
    refine ⟨fun hroom => hnot ?_, msg, rfl⟩
    rw [List.length_append] at hroom
    omega
  | ok b₁ =>
    obtain ⟨hroom, hb₁⟩ := hx
    have hlen : b₁.data.length = b.data.length := by rw [hb₁.data_eq, length_overwrite hroom]
    have hiff : b₁.pos + cs.length ≤ b₁.data.length ↔
        b.pos + (bs ++ cs).length ≤ b.data.length := by
      rw [hb₁.pos_eq, hlen, List.length_append, Nat.add_assoc]
    refine (hf b₁).imp (fun e => ?_) fun b' => ?_
    · rintro ⟨hnot, hexit⟩
      exact ⟨fun hall => hnot (hiff.mpr hall), hexit⟩
    · rintro ⟨hrest, hb'⟩
      rw [hb₁.data_eq, hb₁.len_eq, hb₁.pos_eq, overwrite_append hroom] at hb'
      refine ⟨hiff.mp hrest, hb'.data_eq, ?_, ?_⟩
      · rw [hb'.len_eq, List.length_append]
        omega
      · rw [hb'.pos_eq, List.length_append, Nat.add_assoc]

end Puts

theorem le_max_incr (b : Buffer) {k : Nat} (h : b.pos + k ≤ b.data.length) : k ≤ BUF_MAX_INCR := by
  have hsize := b.size_le
  have hmax := max_incr_eq
  have hdef : b.size = b.data.length := rfl
  omega

theorem buf_putbytes_puts (b : Buffer) (bs : Bytes) : Puts b bs (buf_putbytes b bs) := by
  refine Puts.of_verdict (buf_putbytes_verdict b bs) ?_ fun hroom => ?_
  · exact ⟨And.right, fun hroom => ⟨le_max_incr b hroom, hroom⟩⟩
  · exact buf_putbytes_is bs (Buffer.Is.self b) hroom

theorem buf_putbyte_puts (b : Buffer) (val : UInt8) : Puts b [val] (buf_putbyte b val) := by
  have hpos := b.pos_le
  have hlen := b.len_le
  have hdef : b.size = b.data.length := rfl
  refine Puts.of_verdict (buf_putbyte_verdict b val) ?_ fun hroom => ?_
  · rw [List.length_singleton]
    omega
  · rw [List.length_singleton] at hroom ⊢
    by_cases hlt : b.pos < b.len
    · rw [Nat.max_eq_left hlt]
      exact buf_putbyte_is (Buffer.Is.self b) hlt val
    · have hend : b.pos = b.len := by omega
      rw [hend, Nat.max_eq_right (Nat.le_succ _)]
      refine buf_putbyte_append_is ⟨rfl, rfl, hend⟩ ?_ val
      omega

/-- Bytes that a library function puts at the write pointer. -/
theorem buf_getwriteptr_puts (b : Buffer) (bs : Bytes) :
    Puts b bs (do
      buf_getwriteptr b bs.length
      let b ← b.store bs
      buf_incrwritepos b bs.length) := by
  by_cases hroom : b.pos + bs.length ≤ b.data.length
  · obtain ⟨b₁, hstore, hb₁⟩ := store_is bs (Buffer.Is.self b) hroom
    have hroom₁ : b.pos + bs.length ≤ (overwrite b.data b.pos bs).length := by
      rw [length_overwrite hroom]
      exact hroom
    obtain ⟨b₂, hincr, hb₂⟩ := buf_incrwritepos_is hb₁ hroom₁
    rw [buf_getwriteptr_is (Buffer.Is.self b) hroom, ok_bind, hstore, ok_bind, hincr]
    exact ⟨hroom, hb₂⟩
  · have hverdict := buf_getwriteptr_verdict b bs.length
    cases hptr : buf_getwriteptr b bs.length with
    | error e => exact ⟨hroom, (hverdict.of_error hptr).2⟩
    | ok u => exact absurd (hverdict.of_ok hptr).2 hroom

/-! ## The bytes of a bignum -/

theorem lt_two_pow_count_bits (n : Nat) : n < 2 ^ mp_count_bits n := by
  unfold mp_count_bits
  by_cases hzero : n = 0
  · rw [if_pos hzero, hzero]
    decide
  · rw [if_neg hzero]
    exact Nat.lt_log2_self

theorem two_pow_count_bits_le (h : n ≠ 0) : 2 ^ (mp_count_bits n - 1) ≤ n := by
  unfold mp_count_bits
  rw [if_neg h]
  exact Nat.log2_self_le h

theorem count_bits_le {k : Nat} (h : n < 2 ^ k) : mp_count_bits n ≤ k := by
  by_cases hzero : n = 0
  · rw [mp_count_bits, if_pos hzero]
    exact Nat.zero_le k
  · have hlt := Nat.lt_of_le_of_lt (two_pow_count_bits_le hzero) h
    have hexp := (Nat.pow_lt_pow_iff_right (by decide)).mp hlt
    omega

theorem length_mp_to_unsigned_bin (n : Nat) :
    (mp_to_unsigned_bin n).length = mp_unsigned_bin_size n := by
  rw [mp_to_unsigned_bin, List.length_map, List.length_reverse, List.length_range]

theorem ofBytes_mp_to_unsigned_bin (n : Nat) : ofBytes (mp_to_unsigned_bin n) = n := by
  rw [mp_to_unsigned_bin, ofBytes_lowest]
  refine Nat.mod_eq_of_lt (Nat.lt_of_lt_of_le (lt_two_pow_count_bits n) ?_)
  rw [show 256 = 2 ^ 8 from rfl, ← Nat.pow_mul]
  refine Nat.pow_le_pow_right (by decide) ?_
  rw [mp_unsigned_bin_size]
  omega

/-- The string that `buf_putmpint` writes behind the length. -/
def mpintString (n : Nat) : Bytes :=
  if mp_count_bits n % 8 = 0 then 0 :: mp_to_unsigned_bin n else mp_to_unsigned_bin n

theorem putmpint_eq (n : Nat) : putmpint n = putstring (mpintString n) := by
  unfold putmpint mpintString
  split_ifs
  · rfl
  · rfl

theorem length_mpintString (n : Nat) : (mpintString n).length = mp_count_bits n / 8 + 1 := by
  have hlen := length_mp_to_unsigned_bin n
  rw [mp_unsigned_bin_size] at hlen
  unfold mpintString
  split_ifs with hpad
  · rw [List.length_cons]
    omega
  · omega

theorem ofBytes_mpintString (n : Nat) : ofBytes (mpintString n) = n := by
  unfold mpintString
  split_ifs
  · rw [ofBytes_cons, ofBytes_mp_to_unsigned_bin]
    exact (congrArg (· + n) (Nat.zero_mul _)).trans (Nat.zero_add n)
  · exact ofBytes_mp_to_unsigned_bin n

theorem mpintString_clear (n : Nat) : (mpintString n).headD 0 &&& 0x80 = 0 := by
  have hlen := length_mpintString n
  have hne : mpintString n ≠ [] := by
    intro hnil
    rw [hnil, List.length_nil] at hlen
    omega
  rw [clear_iff_lt hne, ofBytes_mpintString]
  refine Nat.lt_of_lt_of_le (lt_two_pow_count_bits n) (Nat.pow_le_pow_right (by decide) ?_)
  omega

theorem mpintString_canonical (h : n ≠ 0) : Canonical n (mpintString n) := by
  refine canonical_of_le (ofBytes_mpintString n) (mpintString_clear n) (two_pow_count_bits_le h) ?_
  rw [length_mpintString]
  omega

theorem mpintString_isMpint (h : n < 2 ^ 8239) : IsMpint (mpintString n) := by
  have hbits := count_bits_le h
  refine ⟨?_, mpintString_clear n⟩
  rw [length_mpintString, show BUF_MAX_MPINT = 1030 from rfl]
  omega

/-! ## Writing and reading -/

/-- The check for zero never holds: the highest digit is not 0. -/
theorem not_zero_check (DIGIT_BIT : Nat) (mp : Int) :
    ¬ (USED DIGIT_BIT mp = 1 ∧ DIGIT DIGIT_BIT mp 0 = 0) := by
  rintro ⟨hused, hdigit⟩
  obtain ⟨d, hd⟩ := List.length_eq_one_iff.mp hused
  have hne : mp.natAbs ≠ 0 := by
    intro hzero
    rw [mp_digits, hzero, Nat.digits_zero] at hd
    cases hd
  have hlast := Nat.getLast_digit_ne_zero (2 ^ DIGIT_BIT) hne
  rw [DIGIT, hd] at hdigit
  apply hlast
  have hdigits : Nat.digits (2 ^ DIGIT_BIT) mp.natAbs = [d] := hd
  simp only [hdigits, List.getLast_singleton]
  exact hdigit

theorem buf_putmpint_puts (DIGIT_BIT : Nat) (b : Buffer) (n : Nat) :
    Puts b (putmpint n) (buf_putmpint DIGIT_BIT b n) := by
  have hlen := length_mp_to_unsigned_bin n
  rw [mp_unsigned_bin_size] at hlen
  have hint := buf_putbytes_puts b (be32 (mpintString n).length)
  have hstring := length_mpintString n
  unfold buf_putmpint
  rw [if_neg (by omega)]
  simp only [if_neg (not_zero_check DIGIT_BIT n), Int.natAbs_natCast]
  rw [putmpint_eq, putstring]
  rw [hstring] at hint ⊢
  refine hint.bind fun b₁ => ?_
  rw [if_pos (Nat.succ_pos _)]
  unfold mpintString
  -- the padding byte, if there is one, is a write of its own
  by_cases hpad : mp_count_bits n % 8 = 0
  · rw [if_pos hpad, if_pos hpad, if_pos (by decide)]
    rw [show mp_count_bits n / 8 + 1 - 1 = (mp_to_unsigned_bin n).length by omega]
    exact (buf_putbyte_puts b₁ 0).bind fun b₂ => buf_getwriteptr_puts b₂ _
  · rw [if_neg hpad, if_neg hpad, if_neg (by decide)]
    rw [show mp_count_bits n / 8 + 1 - 0 = (mp_to_unsigned_bin n).length by omega]
    exact buf_getwriteptr_puts b₁ _

theorem putmpint_zero : putmpint 0 = [0, 0, 0, 1, 0] := rfl

/-- Zero is one byte behind its length, wherever there is room for it. -/
theorem buf_putmpint_zero (DIGIT_BIT : Nat) (h : b.pos + 5 ≤ b.data.length) :
    ∃ b', buf_putmpint DIGIT_BIT b 0 = .ok b' ∧
      b'.Is (overwrite b.data b.pos [0, 0, 0, 1, 0]) (max b.len (b.pos + 5)) (b.pos + 5) := by
  have hputs := buf_putmpint_puts DIGIT_BIT b 0
  rw [putmpint_zero] at hputs
  cases hput : buf_putmpint DIGIT_BIT b 0 with
  | error e => exact absurd h (hputs.of_error hput).1
  | ok b' => exact ⟨b', rfl, (hputs.of_ok hput).2⟩

/-- A string that was written is there when the position is set back, with the end of what was written
behind it. -/
theorem rest_of_written {s : Bytes} {b₀ : Buffer} (hs : s.length < 2 ^ 32)
    (hroom : b.pos + (putstring s).length ≤ b.data.length)
    (hb' : b'.Is (overwrite b.data b.pos (putstring s)) (max b.len (b.pos + (putstring s).length))
      (b.pos + (putstring s).length))
    (hb₀ : b₀.Is b'.data b'.len b.pos) :
    takeField b₀.rest = some (s, b'.rest) ∧ Buffer.Advanced b₀ (4 + s.length) b' := by
  have hlen : (putstring s).length = 4 + s.length := by
    rw [putstring, List.length_append, length_be32]
  have hadv : Buffer.Advanced b₀ (4 + s.length) b' := by
    refine ⟨hb₀.data_eq.symm, hb₀.len_eq.symm, ?_⟩
    rw [hb'.pos_eq, hb₀.pos_eq, hlen]
  have hpos : b.pos ≤ b.data.length := Nat.le_of_add_right_le hroom
  have htake : (b.data.take b.pos).length = b.pos := by rw [List.length_take, Nat.min_eq_left hpos]
  have hrest : ∃ tail, b₀.rest = be32 s.length ++ s ++ tail := by
    rw [hb₀.rest_eq, hb'.data_eq, hb'.len_eq, take_overwrite_behind (Nat.le_max_right _ _) hpos,
      List.append_assoc, List.drop_left' htake]
    exact ⟨_, rfl⟩
  obtain ⟨tail, htail⟩ := hrest
  have hfield : takeField (be32 s.length ++ s ++ tail) = some (s, [] ++ tail) :=
    takeField_append (takeField_be32 hs)
  rw [← htail] at hfield
  rw [hadv.rest, ← takeField_drop hfield]
  exact ⟨hfield, hadv⟩

/-- **The codec of bignums.** `buf_putmpint` writes a number as a string, wherever there is room for it,
and `buf_getmpint` reads the number back and ends behind the string. The string is the canonical one
unless the number is zero, which takes one byte. What `buf_getmpint` returns is always the value of the
string that it reads. -/
theorem mpint_codec (DIGIT_BIT n : Nat) (b : Buffer) (hn : n < 2 ^ 8239) :
    (∃ s, (n ≠ 0 → Canonical n s) ∧ (n = 0 → s = [0]) ∧
      Verdict (b.pos + (putstring s).length ≤ b.data.length) (buf_putmpint DIGIT_BIT b n) ∧
      ∀ b', buf_putmpint DIGIT_BIT b n = .ok b' →
        b'.Is (overwrite b.data b.pos (putstring s)) (max b.len (b.pos + (putstring s).length))
          (b.pos + (putstring s).length) ∧
        ∃ b₀, buf_setpos b' b.pos = .ok b₀ ∧ buf_getmpint b₀ = .ok (some n, b')) ∧
    ∀ (c c' : Buffer) (v : Nat), buf_getmpint c = .ok (some v, c') →
      ∃ s, takeField c.rest = some (s, c'.rest) ∧ v = ofBytes s := by
  constructor
  · have hputs := buf_putmpint_puts DIGIT_BIT b n
    rw [putmpint_eq] at hputs
    have hmpint := mpintString_isMpint hn
    have hshort : (mpintString n).length < 2 ^ 32 := Nat.lt_of_le_of_lt hmpint.1 (by decide)
    refine ⟨mpintString n, mpintString_canonical, ?_, hputs.imp (fun _ => id) fun _ => And.left, ?_⟩
    · rintro rfl
      rfl
    · intro b' hput
      obtain ⟨hroom, hb'⟩ := hputs.of_ok hput
      have hback : b.pos ≤ b'.len := by
        rw [hb'.len_eq]
        omega
      obtain ⟨b₀, hset, hb₀⟩ := buf_setpos_is (Buffer.Is.self b') hback
      obtain ⟨hfield, hadv⟩ := rest_of_written hshort hroom hb' hb₀
      refine ⟨hb', b₀, hset, buf_getmpint_ok.mpr ⟨_, hmpint, ?_, hfield, hadv⟩⟩
      exact (ofBytes_mpintString n).symm
  · intro c c' v hget
    obtain ⟨s, -, hv, hfield, -⟩ := buf_getmpint_ok.mp hget
    exact ⟨s, hfield, hv⟩

/-- The top bit of 128 is set in one byte, so it takes two. -/
theorem mpint_codec_padded :
    ∃ b b' b₀ s, buf_new 8 = .ok b ∧ buf_putmpint 28 b 128 = .ok b' ∧ Canonical 128 s ∧
      b'.contents = putstring s ∧ buf_setpos b' 0 = .ok b₀ ∧ buf_getmpint b₀ = .ok (some 128, b') := by
  have hbound : 128 < 2 ^ 8239 := by
    rw [show 128 = 2 ^ 7 from rfl, Nat.pow_lt_pow_iff_right (by decide)]
    decide
  obtain ⟨b, hnew, hb⟩ := buf_new_is (n := 8) (by decide)
  obtain ⟨s, hcanonical, -, -, hcodec⟩ := (mpint_codec 28 128 b hbound).1
  have hputs := buf_putmpint_puts 28 b 128
  cases hput : buf_putmpint 28 b ((128 : Nat) : Int) with
  | error e =>
    refine absurd ?_ (hputs.of_error hput).1
    rw [hb.pos_eq, hb.data_eq]
    decide
  | ok b' =>
    obtain ⟨hb', b₀, hset, hget⟩ := hcodec b' hput
    rw [hb.pos_eq] at hset
    refine ⟨b, b', b₀, s, hnew, hput, hcanonical (by decide), ?_, hset, hget⟩
    rw [Buffer.contents, hb'.data_eq, hb'.len_eq, hb.len_eq, hb.pos_eq,
      Nat.max_eq_right (Nat.zero_le _), take_overwrite_end _ (Nat.zero_le _)]
    rfl

/-- Zero is written as the byte 0, where the canonical form is the empty string. -/
theorem mpint_zero_not_canonical :
    ∃ b b', buf_new 8 = .ok b ∧ buf_putmpint 28 b 0 = .ok b' ∧ b'.contents = putstring [0] ∧
      ¬ Canonical 0 [0] ∧ Canonical 0 [] := by
  obtain ⟨b, hnew, hb⟩ := buf_new_is (n := 8) (by decide)
  obtain ⟨b', hput, hb'⟩ := buf_putmpint_zero (b := b) 28 (by rw [hb.pos_eq, hb.data_eq]; decide)
  refine ⟨b, b', hnew, hput, ?_, fun hzero => ?_, canonical_zero.mpr rfl⟩
  · rw [Buffer.contents, hb'.data_eq, hb'.len_eq, hb.data_eq, hb.len_eq, hb.pos_eq]
    rfl
  · cases canonical_zero.mp hzero

end SimpleSshd.Dropbear
