import SimpleSshd.Dropbear.Proofs.PrivKeyProofs

/-!
# Proofs: reading what was written

The readers, applied to a buffer whose unread bytes start with what a writer has written. Each returns
what was written and leaves the bytes behind it.
-/

namespace SimpleSshd.Dropbear

open Fallible Framing BigEndian
open Buffer (Advanced)

variable {b : Buffer} {n : Nat} {s more : Bytes}

/-- As many bytes as the buffer has can be passed over. -/
theorem advanced_of_rest (hrest : b.rest = s ++ more) : ∃ b', Advanced b s.length b' ∧ b'.rest = more := by
  have hlen := b.length_rest
  rw [hrest, List.length_append] at hlen
  have hpos := b.pos_le
  have hadv : Advanced b s.length (b.moveTo (b.pos + s.length) (by omega)) := Buffer.advanced_moveTo _
  refine ⟨_, hadv, ?_⟩
  rw [hadv.rest, hrest, List.drop_left]

theorem buf_getint_of_rest (hn : n < 2 ^ 32) (hrest : b.rest = be32 n ++ more) :
    ∃ b', buf_getint b = .ok (n, b') ∧ b'.rest = more := by
  obtain ⟨b', hadv, hmore⟩ := advanced_of_rest hrest
  rw [length_be32] at hadv
  refine ⟨b', buf_getint_ok.mpr ⟨?_, ?_, hadv⟩, hmore⟩
  · rw [hrest, List.length_append, length_be32]
    omega
  · rw [hrest, List.take_left' (length_be32 _), ofBytes_be32 hn]

theorem reads_of_rest (hs : s.length < 2 ^ 32) (hrest : b.rest = putstring s ++ more) :
    ∃ b', Reads b [s] b' ∧ b'.rest = more := by
  rw [← frame_singleton] at hrest
  refine reads_of_frame hrest fun f hf => ?_
  rwa [List.mem_singleton.mp hf]

theorem buf_getstring_of_rest (hs : s.length ≤ MAX_STRING_LEN) (hrest : b.rest = putstring s ++ more) :
    ∃ b', buf_getstring b = .ok (s, b') ∧ b'.rest = more := by
  obtain ⟨b', hreads, hmore⟩ := reads_of_rest (Nat.lt_of_le_of_lt hs (by decide)) hrest
  exact ⟨b', buf_getstring_reads.mpr ⟨hs, hreads⟩, hmore⟩

theorem Buffer.contents_holding (h : Buffer.holding s = .ok b) : b.contents = s := by
  obtain ⟨-, hd, hl, -⟩ := holding_ok.mp h
  rw [Buffer.contents, hd, hl, List.take_length]

theorem buf_getstringbuf_of_rest (hs : s.length ≤ MAX_STRING_LEN)
    (hrest : b.rest = putstring s ++ more) :
    ∃ ret b', buf_getstringbuf b = .ok (ret, b') ∧ ret.contents = s ∧ b'.rest = more := by
  obtain ⟨b', hstring, hmore⟩ := buf_getstring_of_rest hs hrest
  obtain ⟨ret, hret⟩ : ∃ ret, Buffer.holding s = .ok ret :=
    ⟨_, dif_neg (Nat.not_lt.mpr (hs.trans (by decide)))⟩
  exact ⟨ret, b', buf_getstringbuf_ok.mpr ⟨s, hstring, hret⟩, Buffer.contents_holding hret, hmore⟩

theorem buf_getmpint_of_rest (hn : mp_count_bits n ≤ MPINT_BITS) (hrest : b.rest = putmpint n ++ more) :
    ∃ b', buf_getmpint b = .ok (some n, b') ∧ b'.rest = more := by
  rw [putmpint_eq] at hrest
  have hlen : (mpintString n).length < 2 ^ 32 := by
    rw [length_mpintString]
    rw [show MPINT_BITS = 8239 from rfl] at hn
    omega
  obtain ⟨b', hreads, hmore⟩ := reads_of_rest hlen hrest
  exact ⟨b', buf_getmpint_of_reads hn hreads, hmore⟩

end SimpleSshd.Dropbear
