import SimpleSshd.Dropbear.Proofs.PacketProofs

/-!
# Proofs: decompression

`buf_decompress` calls `inflate` until the input is used up. The buffer grows whenever it is full, so
the rounds the loop is given are enough, and it ends with the inflated input or with one of two exits.
-/

namespace SimpleSshd.Dropbear.Wire

open Fallible Framing Overwrite

variable {κ ζ : Type} {zlib : Zlib ζ} {rx : Receiver κ ζ} {b : Buffer} {d : Bytes} {l p : Nat}

/-- Calls of `inflate` that use up the input, and what they put out. -/
inductive Inflates (zlib : Zlib ζ) : ζ → Bytes → Bytes → ζ → Prop
  | last {z : ζ} {input : Bytes} {room : Nat} {r : Inflation ζ}
      (hr : zlib.inflate z input room = r) (hok : r.result ≠ .failed)
      (hused : input.drop r.used = []) : Inflates zlib z input r.out r.state
  | more {z z' : ζ} {input out : Bytes} {room : Nat} {r : Inflation ζ}
      (hr : zlib.inflate z input room = r) (hok : r.result ≠ .failed)
      (hrest : Inflates zlib r.state (input.drop r.used) out z') :
      Inflates zlib z input (r.out ++ out) z'

/-- What decompression comes to, behind `before`: it fails in one of two ways, or the input is
inflated. -/
inductive Decompressed (zlib : Zlib ζ) (z : ζ) (before input : Bytes) :
    Except Exit (Buffer × ζ) → Prop
  | failed : Decompressed zlib z before input (.error (.dropbear_exit "zlib error"))
  | oversized : Decompressed zlib z before input
      (.error (.dropbear_exit "bad packet, oversized decompressed"))
  | inflated {ret : Buffer} {d out : Bytes} {l : Nat} {z' : ζ} (hin : Inflates zlib z input out z')
      (hret : ret.Is d l l) (hd : d.take l = before ++ out) :
      Decompressed zlib z before input (.ok (ret, z'))

/-- A round that does not end the loop. -/
theorem Decompressed.after_round {z : ζ} {before input : Bytes} {room : Nat} {r : Inflation ζ}
    {x : Except Exit (Buffer × ζ)} (hr : zlib.inflate z input room = r) (hok : r.result ≠ .failed)
    (h : Decompressed zlib r.state (before ++ r.out) (input.drop r.used) x) :
    Decompressed zlib z before input x := by
  cases h with
  | failed => exact .failed
  | oversized => exact .oversized
  | inflated hin hret hd => exact .inflated (.more hr hok hin) hret (by rw [hd, List.append_assoc])

/-- With room left, `inflate` has used up the input. -/
theorem Zlib.full_of_input_left {z : ζ} {input : Bytes} {room : Nat} {r : Inflation ζ}
    (hr : zlib.inflate z input room = r) (hok : r.result ≠ .failed)
    (hleft : ¬ (input.drop r.used = [] ∧ (room - r.out.length ≠ 0 ∨ r.result = .Z_BUF_ERROR))) :
    room - r.out.length = 0 := by
  subst hr
  rcases zlib.stops z input room hok with hused | hroom
  · by_contra hne
    exact hleft ⟨List.drop_eq_nil_of_le (Nat.le_of_eq hused.symm), .inl hne⟩
  · omega

/-- A round of the loop with `l` bytes in a buffer of the size of `d`, and the call `r` of `inflate` in
it. It is the last one, or the buffer is full and grows. -/
inductive Round (zlib : Zlib ζ) (rounds : Nat) (input d : Bytes) (l : Nat) (r : Inflation ζ) :
    Except Exit (Buffer × ζ) → Prop
  | failed (hfail : r.result = .failed) :
      Round zlib rounds input d l r (.error (.dropbear_exit "zlib error"))
  | done {ret : Buffer} {d' : Bytes} (hok : r.result ≠ .failed) (hused : input.drop r.used = [])
      (hend : r.out.length < d.length - l ∨ r.result = .Z_BUF_ERROR)
      (hret : ret.Is d' (l + r.out.length) (l + r.out.length)) (hlen : d'.length = d.length)
      (hd : d'.take (l + r.out.length) = d.take l ++ r.out) :
      Round zlib rounds input d l r (.ok (ret, r.state))
  | oversized (hok : r.result ≠ .failed) (hfull : l + r.out.length = d.length)
      (hbig : RECV_MAX_PAYLOAD_LEN ≤ d.length) :
      Round zlib rounds input d l r (.error (.dropbear_exit "bad packet, oversized decompressed"))
  | grown {ret : Buffer} {d' : Bytes} (hok : r.result ≠ .failed)
      (hfull : l + r.out.length = d.length) (hsmall : d.length < RECV_MAX_PAYLOAD_LEN)
      (hret : ret.Is d' d.length d.length)
      (hlen : d'.length = min RECV_MAX_PAYLOAD_LEN (d.length + ZLIB_DECOMPRESS_INCR))
      (hd : d'.take d.length = d.take l ++ r.out) :
      Round zlib rounds input d l r
        (buf_decompress.loop zlib rounds r.state (input.drop r.used) ret)

theorem loop_round (zlib : Zlib ζ) (z : ζ) (input : Bytes) (rounds : Nat) (hb : b.Is d l l)
    (hsize : d.length ≤ RECV_MAX_PAYLOAD_LEN + ZLIB_COMPRESS_EXPANSION) :
    Round zlib rounds input d l (zlib.inflate z input (d.length - l))
      (buf_decompress.loop zlib (rounds + 1) z input b) := by
  have hbound : RECV_MAX_PAYLOAD_LEN + ZLIB_COMPRESS_EXPANSION = 32789 := rfl
  have hmax : RECV_MAX_PAYLOAD_LEN = 32768 := rfl
  have hincr : ZLIB_DECOMPRESS_INCR = 1024 := rfl
  have hbuf : 32789 ≤ BUF_MAX_SIZE := by decide
  have hl := hb.len_le
  have hroom : sub32 b.size b.pos = d.length - l := by
    rw [hb.size_eq, hb.pos_eq, sub32_of_le hl (by omega)]
  have hout := zlib.out_le z input (d.length - l)
  unfold buf_decompress.loop
  simp only [hroom]
  rw [buf_getwriteptr_is hb (by omega), ok_bind]
  generalize hr : zlib.inflate z input (d.length - l) = r at hout
  obtain ⟨b₁, h₁, hb₁⟩ := store_is r.out hb (by omega)
  have hover : (overwrite d l r.out).length = d.length := length_overwrite (by omega)
  have hsub : sub32 b₁.size (d.length - l - r.out.length) = l + r.out.length := by
    rw [hb₁.size_eq, hover, sub32_of_le (by omega) (by omega)]
    omega
  obtain ⟨b₂, h₂, hb₂⟩ := buf_setlen_is (n := l + r.out.length) hb₁ (by omega)
  obtain ⟨b₃, h₃, hb₃⟩ := buf_setpos_is (n := l + r.out.length) hb₂ (by omega)
  have htake := take_overwrite_end r.out hl
  simp only [h₁, ok_bind, hsub, h₂, hb₂.len_eq, h₃]
  by_cases hfail : r.result = .failed
  · rw [if_pos hfail]
    exact .failed hfail
  rw [if_neg hfail]
  by_cases hdone : input.drop r.used = [] ∧
      (d.length - l - r.out.length ≠ 0 ∨ r.result = .Z_BUF_ERROR)
  · rw [if_pos hdone]
    refine .done hfail hdone.1 ?_ hb₃ hover htake
    exact hdone.2.imp_left fun hleft => by omega
  have hzero := Zlib.full_of_input_left hr hfail hdone
  have hfull : l + r.out.length = d.length := by omega
  rw [if_neg hdone, if_pos hzero, hb₃.size_eq, hover]
  by_cases hbig : d.length ≥ RECV_MAX_PAYLOAD_LEN
  · rw [if_pos hbig]
    exact .oversized hfail hfull hbig
  rw [if_neg hbig]
  obtain ⟨b₄, h₄, hb₄⟩ := buf_resize_is
    (n := min RECV_MAX_PAYLOAD_LEN (d.length + ZLIB_DECOMPRESS_INCR)) hb₃ (by omega) (by omega)
  rw [h₄, ok_bind]
  rw [hfull] at hb₄ htake
  refine .grown hfail hfull (by omega) hb₄ ?_ ?_
  · rw [List.length_append, List.length_replicate]
    omega
  · rw [List.take_append_of_le_length (by omega), htake]

/-- Enough rounds are left: the buffer is as large as it gets, or it grows to that in time. -/
def EnoughRounds (size rounds : Nat) : Prop :=
  32768 ≤ size ∧ 1 ≤ rounds ∨ 32768 + 1024 ≤ size + 1024 * rounds

theorem EnoughRounds.pos {size rounds : Nat} (h : EnoughRounds size rounds)
    (hsize : size ≤ RECV_MAX_PAYLOAD_LEN + ZLIB_COMPRESS_EXPANSION) : 0 < rounds := by
  have hbound : RECV_MAX_PAYLOAD_LEN + ZLIB_COMPRESS_EXPANSION = 32789 := rfl
  unfold EnoughRounds at h
  omega

theorem EnoughRounds.grow {size rounds : Nat} (h : EnoughRounds size (rounds + 1))
    (hsize : size < RECV_MAX_PAYLOAD_LEN) :
    EnoughRounds (min RECV_MAX_PAYLOAD_LEN (size + ZLIB_DECOMPRESS_INCR)) rounds := by
  have hmax : RECV_MAX_PAYLOAD_LEN = 32768 := rfl
  have hincr : ZLIB_DECOMPRESS_INCR = 1024 := rfl
  unfold EnoughRounds at h ⊢
  omega

/-- The rounds that `buf_decompress` gives the loop. -/
theorem EnoughRounds.initial (size : Nat) :
    EnoughRounds size (RECV_MAX_PAYLOAD_LEN / ZLIB_DECOMPRESS_INCR + 2) := by
  refine .inr ?_
  show 32768 + 1024 ≤ size + 1024 * 34
  omega

/-- A buffer that has grown is still within the bound. -/
theorem grown_le {size : Nat}
    (hsize : size = min RECV_MAX_PAYLOAD_LEN (d.length + ZLIB_DECOMPRESS_INCR)) :
    size ≤ RECV_MAX_PAYLOAD_LEN + ZLIB_COMPRESS_EXPANSION := by
  rw [hsize]
  exact Nat.le_trans (Nat.min_le_left _ _) (Nat.le_add_right _ _)

/-- A buffer that was below the largest size has grown. -/
theorem grown_lt {size : Nat}
    (hsize : size = min RECV_MAX_PAYLOAD_LEN (d.length + ZLIB_DECOMPRESS_INCR))
    (hsmall : d.length < RECV_MAX_PAYLOAD_LEN) : d.length < size := by
  have hincr : d.length < d.length + ZLIB_DECOMPRESS_INCR := Nat.lt_add_of_pos_right (by decide)
  rw [hsize]
  exact Nat.lt_min.mpr ⟨hsmall, hincr⟩

theorem loop_decompressed {rounds : Nat} {z : ζ} {input : Bytes} (hb : b.Is d l l)
    (hsize : d.length ≤ RECV_MAX_PAYLOAD_LEN + ZLIB_COMPRESS_EXPANSION)
    (hrounds : EnoughRounds d.length rounds) :
    Decompressed zlib z (d.take l) input (buf_decompress.loop zlib rounds z input b) := by
  -- over the rounds: every round but the last fills the buffer and makes it larger
  induction rounds generalizing z input b d l with
  | zero => exact absurd (hrounds.pos hsize) (Nat.lt_irrefl 0)
  | succ rounds ih =>
    have hround := loop_round zlib z input rounds hb hsize
    generalize buf_decompress.loop zlib (rounds + 1) z input b = x at hround
    cases hround with
    | failed hfail => exact .failed
    | done hok hused hend hret hlen hd => exact .inflated (.last rfl hok hused) hret hd
    | oversized hok hfull hbig => exact .oversized
    | grown hok hfull hsmall hret hlen hd =>
      have hgrow := hrounds.grow hsmall
      rw [← hlen] at hgrow
      refine Decompressed.after_round rfl hok ?_
      rw [← hd]
      exact ih hret (grown_le hlen) hgrow

/-- The loop starts with an empty buffer of the size of the input. -/
theorem buf_decompress_eq_loop (zlib : Zlib ζ) (z : ζ) {inner : Bytes}
    (hinner : buf_getptr b inner.length = .ok inner)
    (hsize : inner.length ≤ RECV_MAX_PAYLOAD_LEN + ZLIB_COMPRESS_EXPANSION) :
    ∃ ret : Buffer, ret.Is (List.replicate inner.length 0) 0 0 ∧
      buf_decompress zlib z b inner.length =
        buf_decompress.loop zlib (RECV_MAX_PAYLOAD_LEN / ZLIB_DECOMPRESS_INCR + 2) z inner ret := by
  have hbuf : RECV_MAX_PAYLOAD_LEN + ZLIB_COMPRESS_EXPANSION ≤ BUF_MAX_SIZE := by decide
  obtain ⟨ret, hnew, hret⟩ := buf_new_is (n := inner.length) (Nat.le_trans hsize hbuf)
  refine ⟨ret, hret, ?_⟩
  unfold buf_decompress
  rw [hnew, ok_bind, hinner, ok_bind]

theorem buf_decompress_decompressed (zlib : Zlib ζ) (z : ζ) {inner : Bytes}
    (hinner : buf_getptr b inner.length = .ok inner)
    (hsize : inner.length ≤ RECV_MAX_PAYLOAD_LEN + ZLIB_COMPRESS_EXPANSION) :
    Decompressed zlib z [] inner (buf_decompress zlib z b inner.length) := by
  obtain ⟨ret, hret, heq⟩ := buf_decompress_eq_loop zlib z hinner hsize
  rw [heq]
  refine loop_decompressed hret ?_ (EnoughRounds.initial _)
  rwa [List.length_replicate]

/-- What becomes of the bytes between the padding length and the padding: without compression they
are the payload, with compression they are inflated, which may fail. -/
inductive Opened (zlib : Zlib ζ) (compress : Bool) (z : ζ) (inner : Bytes) :
    Except Exit (Buffer × ζ) → Prop
  | plain {payload : Buffer} (hplain : compress = false) (hrest : payload.rest = inner) :
      Opened zlib compress z inner (.ok (payload, z))
  | inflated {payload : Buffer} {z' : ζ} (hcompress : compress = true)
      (hin : Inflates zlib z inner payload.rest z') :
      Opened zlib compress z inner (.ok (payload, z'))
  | failed (hcompress : compress = true) :
      Opened zlib compress z inner (.error (.dropbear_exit "zlib error"))
  | oversized (hcompress : compress = true) :
      Opened zlib compress z inner (.error (.dropbear_exit "bad packet, oversized decompressed"))

theorem openPayload_opened {inner : Bytes} (hb : b.Is d l p)
    (hinner : (d.drop p).take inner.length = inner) (hle : p + inner.length ≤ l)
    (hsize : inner.length ≤ RECV_MAX_PAYLOAD_LEN + ZLIB_COMPRESS_EXPANSION)
    (hl : l ≤ RECV_MAX_PACKET_LEN) :
    Opened zlib rx.is_compress_recv rx.zstream inner (openPayload zlib rx b inner.length) := by
  have hmax : RECV_MAX_PACKET_LEN = 35000 := rfl
  unfold openPayload
  by_cases hcompress : rx.is_compress_recv = true
  · rw [if_pos hcompress]
    have hptr : buf_getptr b inner.length = .ok inner := by rw [buf_getptr_is hb hle, hinner]
    have hdec := buf_decompress_decompressed zlib rx.zstream hptr hsize
    generalize buf_decompress zlib rx.zstream b inner.length = x at hdec
    cases hdec with
    | failed => exact .failed hcompress
    | oversized => exact .oversized hcompress
    | inflated hin hret hd =>
      obtain ⟨b', hset, hb'⟩ := buf_setpos_is (n := 0) hret (Nat.zero_le _)
      simp only [ok_bind, hset]
      refine .inflated hcompress ?_
      rwa [hb'.rest_eq, List.drop_zero, hd, List.nil_append]
  · rw [if_neg hcompress, hb.pos_eq, add32_of_lt (by omega)]
    obtain ⟨b', hset, hb'⟩ := buf_setlen_is (n := p + inner.length) hb
      (Nat.le_trans hle hb.len_le)
    rw [hset, ok_bind]
    refine .plain (Bool.eq_false_iff.mpr hcompress) ?_
    rw [hb'.rest_eq, Nat.min_eq_left (by omega), List.drop_take, Nat.add_sub_cancel_left, hinner]

end SimpleSshd.Dropbear.Wire
