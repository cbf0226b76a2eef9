import SimpleSshd.Dropbear.Channel
import SimpleSshd.Dropbear.Proofs.DecompressProofs

/-!
# Proofs: compression is transparent, up to the largest payload

The peer's compressor is known by what `inflate` makes of its output: whatever room the calls are
given, they put out the payload piece by piece. `buf_decompress` then returns the payload, except one
that fills the largest buffer: a full buffer is taken for one that does not suffice, so a payload of
`RECV_MAX_PAYLOAD_LEN` bytes is refused unless the input was larger still.
-/

namespace SimpleSshd.Dropbear.Wire

open Fallible Framing

variable {ζ : Type} {zlib : Zlib ζ} {z : ζ} {b : Buffer} {d input inner out : Bytes} {l room rounds : Nat}

/-! ## Streams of the peer -/

/-- A call of `inflate` with `Z_SYNC_FLUSH` on a stream that stands for `out`. It returns `Z_OK` if it
made progress, `Z_BUF_ERROR` if it could not, and it leaves room only behind all of `out`. -/
structure Inflation.Delivers (r : Inflation ζ) (out : Bytes) (room : Nat) : Prop where
  puts : r.out <+: out
  progress : 0 < r.used ∨ r.out ≠ [] → r.result = .Z_OK
  stuck : r.used = 0 → r.out = [] → r.result = .Z_BUF_ERROR
  flushed : r.out.length < room → r.out = out

/-- **What the peer compressed**: to the state `z`, `input` stands for `out`. Every call of `inflate`
delivers a part of it, and what is left of the input then stands for what is left of it. -/
def Zlib.Encodes (zlib : Zlib ζ) (z : ζ) (input out : Bytes) : Prop :=
  ∃ Stands : ζ → Bytes → Bytes → Prop, Stands z input out ∧
    ∀ z input out room, Stands z input out →
      (zlib.inflate z input room).Delivers out room ∧
        Stands (zlib.inflate z input room).state (input.drop (zlib.inflate z input room).used)
          (out.drop (zlib.inflate z input room).out.length)

theorem Zlib.Encodes.call (h : zlib.Encodes z input out) (room : Nat) :
    (zlib.inflate z input room).Delivers out room ∧
      zlib.Encodes (zlib.inflate z input room).state (input.drop (zlib.inflate z input room).used)
        (out.drop (zlib.inflate z input room).out.length) := by
  obtain ⟨Stands, hstands, hcalls⟩ := h
  obtain ⟨hdelivers, hnext⟩ := hcalls z input out room hstands
  exact ⟨hdelivers, Stands, hnext, hcalls⟩

namespace Inflation.Delivers

variable {r : Inflation ζ}

theorem ok (h : r.Delivers out room) : r.result ≠ .failed := by
  intro hfail
  by_cases hprogress : 0 < r.used ∨ r.out ≠ []
  · have hok := h.progress hprogress
    rw [hfail] at hok
    cases hok
  · push Not at hprogress
    have hstuck := h.stuck (by omega) hprogress.2
    rw [hfail] at hstuck
    cases hstuck

/-- The last call of the loop has put out everything: with an error there was no progress, so there is
still room. -/
theorem all_out (h : r.Delivers out room) (hroom : 0 < room)
    (hend : r.out.length < room ∨ r.result = .Z_BUF_ERROR) : r.out = out := by
  rcases hend with hleft | herror
  · exact h.flushed hleft
  · by_cases hnone : r.out = []
    · refine h.flushed ?_
      rw [hnone]
      exact hroom
    · have hok := h.progress (.inr hnone)
      rw [herror] at hok
      cases hok

theorem length_le (h : r.Delivers out room) : r.out.length ≤ out.length := h.puts.length_le

/-- What was put out, and what is left. -/
theorem append_drop (h : r.Delivers out room) : r.out ++ out.drop r.out.length = out := by
  obtain ⟨rest, rfl⟩ := h.puts
  rw [List.drop_left]

end Inflation.Delivers

/-! ## The loop -/

/-- A payload that does not fill the largest buffer is put out behind what there is already. -/
theorem loop_delivers (henc : zlib.Encodes z input out) (hb : b.Is d l l) (hroom : l < d.length)
    (hsize : d.length ≤ RECV_MAX_PAYLOAD_LEN + ZLIB_COMPRESS_EXPANSION)
    (hrounds : EnoughRounds d.length rounds)
    (hfit : l + out.length < RECV_MAX_PAYLOAD_LEN ∨
      l + out.length ≤ RECV_MAX_PAYLOAD_LEN ∧ RECV_MAX_PAYLOAD_LEN < d.length) :
    ∃ ret z' d' l', buf_decompress.loop zlib rounds z input b = .ok (ret, z') ∧ ret.Is d' l' l' ∧
      d'.take l' = d.take l ++ out ∧ zlib.Encodes z' [] [] := by
  -- over the rounds: what is in the buffer and what the rest of the input stands for is the payload
  induction rounds generalizing z input out b d l with
  | zero => exact absurd (hrounds.pos hsize) (Nat.lt_irrefl 0)
  | succ rounds ih =>
    obtain ⟨hdelivers, hnext⟩ := henc.call (d.length - l)
    have hround := loop_round zlib z input rounds hb hsize
    generalize buf_decompress.loop zlib (rounds + 1) z input b = x at hround
    generalize zlib.inflate z input (d.length - l) = r at hdelivers hnext hround
    have hle := hdelivers.length_le
    cases hround with
    | failed hfail => exact absurd hfail hdelivers.ok
    | @done ret d' hok hused hend hret hlen hd =>
      have hall : r.out = out := hdelivers.all_out (by omega) hend
      rw [hused, hall, List.drop_length] at hnext
      rw [hall] at hret hd
      exact ⟨ret, r.state, d', _, rfl, hret, hd, hnext⟩
    | oversized hok hfull hbig => omega
    | @grown ret d' hok hfull hsmall hret hlen hd =>
      have hgrow := hrounds.grow hsmall
      rw [← hlen] at hgrow
      have hlonger := grown_lt hlen hsmall
      have hleft : (out.drop r.out.length).length = out.length - r.out.length := List.length_drop
      obtain ⟨ret', z', d₁, l₁, hloop, hret', hd', hend⟩ :=
        ih hnext hret hlonger (grown_le hlen) hgrow (.inl (by omega))
      refine ⟨ret', z', d₁, l₁, hloop, hret', ?_, hend⟩
      rw [hd', hd, List.append_assoc, hdelivers.append_drop]

/-- A payload that fills the largest buffer is taken for an oversized one. -/
theorem loop_full_oversized (henc : zlib.Encodes z input out) (hb : b.Is d l l)
    (hroom : l < d.length) (hsize : d.length ≤ RECV_MAX_PAYLOAD_LEN)
    (hrounds : EnoughRounds d.length rounds) (hfull : l + out.length = RECV_MAX_PAYLOAD_LEN) :
    buf_decompress.loop zlib rounds z input b =
      .error (.dropbear_exit "bad packet, oversized decompressed") := by
  have hbound : RECV_MAX_PAYLOAD_LEN ≤ RECV_MAX_PAYLOAD_LEN + ZLIB_COMPRESS_EXPANSION :=
    Nat.le_add_right _ _
  induction rounds generalizing z input out b d l with
  | zero => exact absurd (hrounds.pos (Nat.le_trans hsize hbound)) (Nat.lt_irrefl 0)
  | succ rounds ih =>
    obtain ⟨hdelivers, hnext⟩ := henc.call (d.length - l)
    have hout := zlib.out_le z input (d.length - l)
    have hround := loop_round zlib z input rounds hb (Nat.le_trans hsize hbound)
    generalize buf_decompress.loop zlib (rounds + 1) z input b = x at hround
    generalize zlib.inflate z input (d.length - l) = r at hdelivers hnext hround hout
    have hle := hdelivers.length_le
    cases hround with
    | failed hfail => exact absurd hfail hdelivers.ok
    | done hok hused hend hret hlen hd =>
      -- the whole payload would have left room in a buffer that it fills
      have hall : r.out = out := hdelivers.all_out (by omega) hend
      rcases hend with hleft | herror
      · rw [hall] at hleft
        omega
      · have hzero : r.out = [] := by
          by_contra hne
          rw [hdelivers.progress (.inr hne)] at herror
          cases herror
        rw [← hall, hzero, List.length_nil] at hfull
        omega
    | oversized hok hfull hbig => rfl
    | @grown ret d' hok hfill hsmall hret hlen hd =>
      have hgrow := hrounds.grow hsmall
      rw [← hlen] at hgrow
      have hlonger := grown_lt hlen hsmall
      have hleft : (out.drop r.out.length).length = out.length - r.out.length := List.length_drop
      refine ih hnext hret hlonger ?_ hgrow (by omega)
      rw [hlen]
      exact Nat.min_le_left _ _

/-- Whatever `inflate` does, the buffer does not outgrow the bound. -/
theorem loop_len_le {ret : Buffer} {z' : ζ} (hb : b.Is d l l)
    (hsize : d.length ≤ RECV_MAX_PAYLOAD_LEN + ZLIB_COMPRESS_EXPANSION)
    (h : buf_decompress.loop zlib rounds z input b = .ok (ret, z')) :
    ret.len ≤ RECV_MAX_PAYLOAD_LEN + ZLIB_COMPRESS_EXPANSION := by
  induction rounds generalizing z input b d l with
  | zero => cases h
  | succ rounds ih =>
    have hround := loop_round zlib z input rounds hb hsize
    rw [h] at hround
    generalize hx : (Except.ok (ret, z') : Except Exit (Buffer × ζ)) = x at hround
    cases hround with
    | failed hfail => cases hx
    | done hok hused hend hret hlen hd =>
      cases hx
      rw [hret.len_eq]
      exact Nat.le_trans hret.len_le (Nat.le_trans (Nat.le_of_eq hlen) hsize)
    | oversized hok hfull hbig => cases hx
    | grown hok hfull hsmall hret hlen hd => exact ih hret (grown_le hlen) hx.symm

/-! ## `buf_decompress` -/

/-- **A payload of the largest size is refused**, by every `zlib`, if its compressed form is no larger
than it. -/
theorem buf_decompress_full_oversized (henc : zlib.Encodes z inner out)
    (hinner : buf_getptr b inner.length = .ok inner) (hpos : 1 ≤ inner.length)
    (hsize : inner.length ≤ RECV_MAX_PAYLOAD_LEN) (hfull : out.length = RECV_MAX_PAYLOAD_LEN) :
    buf_decompress zlib z b inner.length =
      .error (.dropbear_exit "bad packet, oversized decompressed") := by
  obtain ⟨ret, hret, heq⟩ :=
    buf_decompress_eq_loop zlib z hinner (Nat.le_trans hsize (Nat.le_add_right _ _))
  have hlen : (List.replicate inner.length (0 : UInt8)).length = inner.length :=
    List.length_replicate
  rw [heq]
  exact loop_full_oversized henc hret (by omega) (by omega) (EnoughRounds.initial _) (by omega)

/-- **Compression is transparent**: what the peer has compressed is returned exactly, unless it fills
the largest buffer; and nothing longer than the bound is ever returned. -/
theorem buf_decompress_transparent (zlib : Zlib ζ) (z : ζ) (b : Buffer) (inner : Bytes)
    (hinner : buf_getptr b inner.length = .ok inner) (hpos : 1 ≤ inner.length)
    (hsize : inner.length ≤ RECV_MAX_PAYLOAD_LEN + ZLIB_COMPRESS_EXPANSION) :
    (∀ payload, zlib.Encodes z inner payload → payload.length ≤ RECV_MAX_PAYLOAD_LEN →
        payload.length < RECV_MAX_PAYLOAD_LEN ∨ RECV_MAX_PAYLOAD_LEN < inner.length →
        ∃ ret z', buf_decompress zlib z b inner.length = .ok (ret, z') ∧ ret.contents = payload ∧
          zlib.Encodes z' [] []) ∧
      ∀ ret z', buf_decompress zlib z b inner.length = .ok (ret, z') →
        ret.len ≤ RECV_MAX_PAYLOAD_LEN + ZLIB_COMPRESS_EXPANSION := by
  obtain ⟨ret, hret, heq⟩ := buf_decompress_eq_loop zlib z hinner hsize
  have hlen : (List.replicate inner.length (0 : UInt8)).length = inner.length :=
    List.length_replicate
  rw [heq]
  constructor
  · intro payload henc hmax hfit
    obtain ⟨ret', z', d', l', hloop, hret', hd', hend⟩ :=
      loop_delivers henc hret (by omega) (by omega) (EnoughRounds.initial _) (by omega)
    refine ⟨ret', z', hloop, ?_, hend⟩
    rw [Buffer.contents, hret'.data_eq, hret'.len_eq, hd', List.take_zero, List.nil_append]
  · intro ret' z' hloop
    exact loop_len_le hret (by omega) hloop

/-! ### Runs of equal bytes -/

/-- What a list of lengths and bytes stands for. -/
def expandRuns : Bytes → Bytes
  | n :: c :: runs => List.replicate n.toNat c ++ expandRuns runs
  | _ => []

/-- Run-length compression. All the input is read at once; the state is what there was no room for. -/
def runLengthZlib : Zlib Bytes where
  inflate pending input room :=
    let out := pending ++ expandRuns input
    { result := if input = [] ∧ out.take room = [] then .Z_BUF_ERROR else .Z_OK
      used := input.length
      out := out.take room
      state := out.drop room }
  used_le _ _ _ := Nat.le_refl _
  out_le _ _ room := List.length_take_le room _
  stops _ _ _ _ := .inl rfl

theorem runLengthZlib_encodes (input : Bytes) :
    runLengthZlib.Encodes [] input (expandRuns input) := by
  refine ⟨fun pending input out => out = pending ++ expandRuns input, rfl, ?_⟩
  rintro pending input out room rfl
  generalize hout : pending ++ expandRuns input = out
  have hcall : runLengthZlib.inflate pending input room =
      { result := if input = [] ∧ out.take room = [] then .Z_BUF_ERROR else .Z_OK
        used := input.length
        out := out.take room
        state := out.drop room } := by
    rw [← hout]
    rfl
  rw [hcall]
  refine ⟨⟨List.take_prefix _ _, ?_, ?_, ?_⟩, ?_⟩
  · intro hprogress
    refine if_neg ?_
    rintro ⟨rfl, hnone⟩
    rcases hprogress with hused | hput
    · exact absurd hused (Nat.lt_irrefl 0)
    · exact hput hnone
  · intro hused hnone
    exact if_pos ⟨List.eq_nil_of_length_eq_zero hused, hnone⟩
  · intro hleft
    rw [List.length_take] at hleft
    exact List.take_of_length_le (by omega)
  · show out.drop (out.take room).length = out.drop room ++ expandRuns (input.drop input.length)
    rw [List.drop_length, List.length_take]
    rcases Nat.le_total room out.length with hle | hle
    · rw [Nat.min_eq_left hle]
      exact (List.append_nil _).symm
    · rw [Nat.min_eq_right hle, List.drop_length, List.drop_eq_nil_of_le hle]
      rfl

theorem buf_decompress_transparent_run :
    ∃ ret z', buf_decompress runLengthZlib [] (Buffer.full [3, 97] (by decide)) 2 = .ok (ret, z') ∧
      ret.contents = [97, 97, 97] ∧ runLengthZlib.Encodes z' [] [] := by
  have hinner : buf_getptr (Buffer.full [3, 97] (by decide)) 2 = .ok [3, 97] := rfl
  exact (buf_decompress_transparent runLengthZlib [] _ [3, 97] hinner (by decide) (by decide)).1
    [97, 97, 97] (runLengthZlib_encodes _) (by decide) (.inl (by decide))

theorem expandRuns_repeat (k : Nat) (c : UInt8) (runs : Bytes) :
    expandRuns ((List.replicate k [255, c]).flatten ++ runs) =
      List.replicate (255 * k) c ++ expandRuns runs := by
  induction k with
  | zero => rfl
  | succ k ih =>
    rw [List.replicate_succ, List.flatten_cons, List.append_assoc]
    show List.replicate 255 c ++ expandRuns ((List.replicate k [255, c]).flatten ++ runs) = _
    rw [ih, ← List.append_assoc, List.replicate_append_replicate, Nat.mul_succ, Nat.add_comm 255]

/-- `CHANNEL_DATA` with as much data as the server has announced that it takes. -/
def fullData : Bytes :=
  SSH_MSG_CHANNEL_DATA :: (be32 0 ++ (be32 RECV_MAX_CHANNEL_DATA_LEN ++
    List.replicate RECV_MAX_CHANNEL_DATA_LEN 97))

def fullDataRuns : Bytes :=
  [1, 94, 6, 0, 1, 127, 1, 247] ++ ((List.replicate 128 [255, 97]).flatten ++ [119, 97])

theorem length_fullData : fullData.length = RECV_MAX_PAYLOAD_LEN := by
  rw [fullData, List.length_cons, List.length_append, List.length_append, List.length_replicate]
  rfl

theorem length_fullDataRuns : fullDataRuns.length = 266 := by decide +kernel

theorem expandRuns_fullDataRuns : expandRuns fullDataRuns = fullData := by
  have hhead : ∀ runs, expandRuns ([1, 94, 6, 0, 1, 127, 1, 247] ++ runs) =
      SSH_MSG_CHANNEL_DATA :: (be32 0 ++ (be32 RECV_MAX_CHANNEL_DATA_LEN ++ expandRuns runs)) :=
    fun runs => rfl
  have htail : expandRuns [119, 97] = List.replicate 119 97 := List.append_nil _
  rw [fullDataRuns, hhead, expandRuns_repeat, htail, List.replicate_append_replicate]
  rfl

/-- The largest message that the server invites is refused, although it is no larger than what it takes
without compression. -/
theorem fullData_oversized :
    runLengthZlib.Encodes [] fullDataRuns fullData ∧ fullData.length = RECV_MAX_PAYLOAD_LEN ∧
      ∃ b : Buffer, b.rest = fullDataRuns ∧
        buf_decompress runLengthZlib [] b fullDataRuns.length =
          .error (.dropbear_exit "bad packet, oversized decompressed") := by
  have hsmall : fullDataRuns.length ≤ BUF_MAX_SIZE := by
    rw [length_fullDataRuns]
    decide
  have hrest := Buffer.rest_full fullDataRuns hsmall
  have hinner : buf_getptr (Buffer.full fullDataRuns hsmall) fullDataRuns.length =
      .ok fullDataRuns := by
    rw [buf_getptr_ok, hrest]
    exact ⟨Nat.le_refl _, List.take_length.symm⟩
  have henc : runLengthZlib.Encodes [] fullDataRuns fullData :=
    expandRuns_fullDataRuns ▸ runLengthZlib_encodes fullDataRuns
  refine ⟨henc, length_fullData, _, hrest, ?_⟩
  refine buf_decompress_full_oversized henc hinner ?_ ?_ length_fullData
  · rw [length_fullDataRuns]
    decide
  · rw [length_fullDataRuns]
    decide

end SimpleSshd.Dropbear.Wire
