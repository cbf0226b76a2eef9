import SimpleSshd.Dropbear.Proofs.ReceiveProofs
import SimpleSshd.Lib.BlockMode

/-!
# Proofs: what the sending side makes of a payload

A payload is laid out with its lengths and its padding, the MAC is taken, the packet is encrypted and
goes to the write queue, from which `write_packet` hands it to the socket in pieces. The packet is one
that the receiving side accepts.
-/

namespace SimpleSshd.Dropbear.Wire

open BlockMode Fallible Framing Overwrite

variable {κ : Type} {keys : Keys κ} {tx : Sender κ} {b : Buffer} {d : Bytes} {l p n : Nat}

/-! ### The packet in the clear -/

/-- The padding fills the last block; it has at least 4 bytes, and fits the buffer. -/
theorem paddingLength_spec {blocksize : Nat} (h : blocksize = 8 ∨ blocksize = 16) (n : Nat) :
    4 ≤ paddingLength blocksize (5 + n) ∧ paddingLength blocksize (5 + n) ≤ 19 ∧
      (5 + n + paddingLength blocksize (5 + n)) % blocksize = 0 ∧
      16 ≤ 5 + n + paddingLength blocksize (5 + n) := by
  have hmin : MIN_PACKET_LEN = 16 := rfl
  unfold paddingLength
  rw [hmin]
  rcases h with rfl | rfl
  · simp only
    split_ifs <;> omega
  · simp only
    split_ifs <;> omega

/-- A packet before it is encrypted. -/
def clearPacket (blocksize : Nat) (random : Nat → UInt8) (payload : Bytes) : Bytes :=
  let padlen := paddingLength blocksize (5 + payload.length)
  be32 (1 + payload.length + padlen) ++ [UInt8.ofNat padlen] ++ payload ++
    (List.range padlen).map random

theorem length_clearPacket (blocksize : Nat) (random : Nat → UInt8) (payload : Bytes) :
    (clearPacket blocksize random payload).length =
      5 + payload.length + paddingLength blocksize (5 + payload.length) := by
  simp only [clearPacket, List.length_append, length_be32, List.length_singleton, List.length_map,
    List.length_range]

/-- The session, which does not look at the bytes, counts as many for a packet. -/
theorem length_clearPacket_wireLength (trans : Direction) (random : Nat → UInt8) (payload : Bytes) :
    (clearPacket trans.algo_crypt.blocksize random payload).length + trans.algo_mac.hashsize =
      wireLength trans payload.length := by
  rw [length_clearPacket]
  rfl

/-- The lengths written over the first five bytes. -/
theorem take_lengths {payload : Bytes} (hd : (d.take (5 + payload.length)).drop 5 = payload)
    (hlen : 5 + payload.length ≤ d.length) (n : Nat) (padlen : UInt8) :
    (overwrite (overwrite d 0 (be32 n)) 4 [padlen]).take (5 + payload.length) =
      be32 n ++ [padlen] ++ payload := by
  have hlen₁ : (overwrite d 0 (be32 n)).length = d.length :=
    length_overwrite (by rw [length_be32]; omega)
  have h4 : (overwrite d 0 (be32 n)).take 4 = be32 n := take_overwrite_end (be32 n) (Nat.zero_le _)
  have hrest : ((overwrite d 0 (be32 n)).take (5 + payload.length)).drop 5 = payload := by
    rw [take_overwrite_behind (by rw [length_be32]; omega) (Nat.zero_le _), length_be32,
      List.take_zero, List.nil_append, List.drop_append, length_be32,
      List.drop_eq_nil_of_le (by rw [length_be32]; omega), List.nil_append, List.drop_drop]
    exact hd
  rw [take_overwrite_behind (by rw [List.length_singleton]; omega) (by omega), h4,
    List.length_singleton, hrest]

theorem layOut_is (hs : keys.Sizes) {payload : Bytes} (random : Nat → UInt8)
    (hb : b.Is d payload.length 0) (hd : d.take payload.length = payload)
    (hmax : payload.length ≤ TRANS_MAX_PAYLOAD_LEN) :
    ∃ b' d', layOut keys none random b = .ok b' ∧
      b'.Is d' (clearPacket keys.blocksize random payload).length (5 + payload.length) ∧
      d'.take (clearPacket keys.blocksize random payload).length =
        clearPacket keys.blocksize random payload ∧
      (clearPacket keys.blocksize random payload).length + keys.hashsize ≤ d'.length := by
  have hbound : TRANS_MAX_PAYLOAD_LEN = 16384 := rfl
  have hbuf : 20000 ≤ BUF_MAX_SIZE := by decide
  have hmac := hs.mac
  have hblock := hs.block_le
  obtain ⟨hpad4, hpad19, hmod, hmin⟩ := paddingLength_spec hs.block payload.length
  rw [length_clearPacket]
  unfold layOut
  obtain ⟨size, hsize⟩ : ∃ size, size = b.len + 4 + 1 + max MIN_PACKET_LEN keys.blocksize + 3 +
    keys.hashsize + ZLIB_COMPRESS_EXPANSION + 1 := ⟨_, rfl⟩
  have hroom : payload.length + 45 + keys.hashsize ≤ size ∧ size ≤ 20000 := by
    have h16 : MIN_PACKET_LEN = 16 := rfl
    have h21 : ZLIB_COMPRESS_EXPANSION = 21 := rfl
    rw [hb.len_eq] at hsize
    omega
  simp only [← hsize]
  obtain ⟨b₁, h₁, hb₁⟩ := buf_new_is (n := size) (by omega)
  have hz : (List.replicate size (0 : UInt8)).length = size := List.length_replicate
  generalize List.replicate size (0 : UInt8) = z at hb₁ hz
  obtain ⟨b₂, h₂, hb₂⟩ := buf_setlen_is (n := 5) hb₁ (by omega)
  obtain ⟨b₃, h₃, hb₃⟩ := buf_setpos_is (n := 5) hb₂ (by omega)
  have hget := buf_getptr_is (n := payload.length) hb (by omega)
  rw [List.drop_zero, hd] at hget
  obtain ⟨b₄, h₄, hb₄⟩ := buf_putbytes_is payload hb₃ (by omega)
  rw [Nat.max_eq_right (by omega)] at hb₄
  have hd₄ : ((overwrite z 5 payload).take (5 + payload.length)).drop 5 = payload := by
    rw [take_overwrite_end payload (by omega), List.drop_left' (by rw [List.length_take]; omega)]
  have hlen₄ : (overwrite z 5 payload).length = size := (length_overwrite (by omega)).trans hz
  generalize overwrite z 5 payload = d₄ at hb₄ hd₄ hlen₄
  obtain ⟨padlen, hpadlen⟩ : ∃ padlen, padlen = paddingLength keys.blocksize (5 + payload.length) :=
    ⟨_, rfl⟩
  have hlength : sub32 (add32 (5 + payload.length) padlen) 4 = 1 + payload.length + padlen := by
    rw [add32_of_lt (by omega), sub32_of_le (by omega) (by omega)]
    omega
  obtain ⟨b₅, h₅, hb₅⟩ := buf_setpos_is (n := 0) hb₄ (by omega)
  obtain ⟨b₆, h₆, hb₆⟩ := buf_putbytes_is (be32 (1 + payload.length + padlen)) hb₅ (by
    rw [length_be32]
    omega)
  rw [length_be32, Nat.zero_add, Nat.max_eq_left (by omega)] at hb₆
  have hlen₆ : (overwrite d₄ 0 (be32 (1 + payload.length + padlen))).length = size :=
    (length_overwrite (by rw [length_be32]; omega)).trans hlen₄
  obtain ⟨b₇, h₇, hb₇⟩ := buf_putbyte_is hb₆ (by omega) (UInt8.ofNat padlen)
  have hd₇ := take_lengths hd₄ (by omega) (1 + payload.length + padlen) (UInt8.ofNat padlen)
  have hlen₇ : (overwrite (overwrite d₄ 0 (be32 (1 + payload.length + padlen))) 4
      [UInt8.ofNat padlen]).length = size :=
    (length_overwrite (by rw [List.length_singleton]; omega)).trans hlen₆
  generalize overwrite (overwrite d₄ 0 (be32 (1 + payload.length + padlen))) 4
    [UInt8.ofNat padlen] = d₇ at hb₇ hd₇ hlen₇
  obtain ⟨b₈, h₈, hb₈⟩ := buf_setpos_is (n := 5 + payload.length) hb₇ (by omega)
  obtain ⟨b₉, h₉, hb₉⟩ := buf_incrlen_is (n := padlen) hb₈ (by omega)
  have hrandom : ((List.range padlen).map random).length = padlen := by
    rw [List.length_map, List.length_range]
  obtain ⟨b₁₀, h₁₀, hb₁₀⟩ := store_is ((List.range padlen).map random) hb₉ (by omega)
  rw [← hpadlen]
  refine ⟨b₁₀, _, ?_, hb₁₀, ?_, ?_⟩
  · simp only [h₁, ok_bind, PACKET_PAYLOAD_OFF, h₂, h₃, hb.len_eq, hget, putPayload, h₄, hb₄.len_eq,
      ← hpadlen, h₅, hb₅.len_eq, hlength, buf_putint, h₆, h₇, hb₇.len_eq, h₈, h₉]
    rw [buf_getptr_is hb₉ (by omega), ok_bind, h₁₀]
  · have htake := take_overwrite_end ((List.range padlen).map random)
      (l := d₇) (p := 5 + payload.length) (by omega)
    rw [hrandom, hd₇] at htake
    rw [htake, clearPacket, ← hpadlen]
  · rw [length_overwrite (by omega)]
    omega

/-! ### The packet on the write queue -/

theorem encrypt_packet_is (hs : tx.keys.Sizes) {payload clear : Bytes} (random : Nat → UInt8)
    (hb : b.Is d payload.length p) (hd : d.take payload.length = payload)
    (hpos : 1 ≤ payload.length) (hmax : payload.length ≤ TRANS_MAX_PAYLOAD_LEN)
    (hclear : clear = clearPacket tx.keys.blocksize random payload) :
    (tx.keys.crypt clear tx.cipher_state = none ∧
        encrypt_packet tx none random b = dropbear_exit "Error encrypting") ∨
      ∃ c k₁ wb d', tx.keys.crypt clear tx.cipher_state = some (c, k₁) ∧
        wb.Is d' (clear.length + tx.keys.hashsize) 0 ∧
        d'.take (clear.length + tx.keys.hashsize) = c ++ tx.keys.mac tx.transseq clear ∧
        encrypt_packet tx none random b = .ok { tx with
          cipher_state := k₁
          datatrans := add32 tx.datatrans (clear.length + tx.keys.hashsize)
          transseq := add32 tx.transseq 1
          writequeue := tx.writequeue ++ [wb]
          writequeue_len := add32 tx.writequeue_len (clear.length + tx.keys.hashsize) } := by
  have hbound : TRANS_MAX_PAYLOAD_LEN = 16384 := rfl
  have hlen : clear.length = _ := hclear ▸ length_clearPacket tx.keys.blocksize random payload
  obtain ⟨-, hpad19, -, -⟩ := paddingLength_spec hs.block payload.length
  obtain ⟨b₁, h₁, hb₁⟩ := buf_setpos_is (n := 0) hb (by omega)
  obtain ⟨b₂, h₂, -⟩ := buf_getbyte_is hb₁ (by omega)
  obtain ⟨b₃, d₃, h₃, hb₃, hd₃, hroom⟩ := layOut_is hs random hb₁ hd hmax
  rw [← hclear] at hb₃ hd₃ hroom
  obtain ⟨m, b₄, p₄, h₄, hb₄, hm⟩ :=
    make_mac_is (n := clear.length) tx.keys tx.transseq hb₃ (Nat.le_refl _)
  rw [hd₃] at hm
  obtain ⟨b₅, h₅, hb₅⟩ := buf_setpos_is (n := 0) hb₄ (Nat.zero_le _)
  unfold encrypt_packet
  simp only [h₁, h₂, h₃, h₄, h₅, ok_bind, hb₃.len_eq, hb₅.len_eq]
  have hcrypt := cryptInPlace_is tx.keys tx.cipher_state (n := clear.length) hb₅ (by omega)
    "Error encrypting"
  rw [List.drop_zero, hd₃] at hcrypt
  rcases hcrypt with ⟨hnone, hexit⟩ | ⟨c, k₁, b₆, hsome, hc, hok, hb₆⟩
  · rw [hexit]
    exact .inl ⟨hnone, rfl⟩
  have hlen₆ : (overwrite d₃ 0 c).length = d₃.length := length_overwrite (by omega)
  have hd₆ : (overwrite d₃ 0 c).take clear.length = c := by
    have := take_overwrite_end c (Nat.zero_le d₃.length)
    rwa [hc, Nat.zero_add, List.take_zero, List.nil_append] at this
  obtain ⟨b₇, h₇, hb₇⟩ := buf_incrpos_is (n := clear.length) hb₆ (by omega)
  rw [Nat.zero_add] at hb₇
  have hmac : (m.take tx.keys.hashsize).length = tx.keys.hashsize := by
    rw [hm, Keys.length_mac]
  obtain ⟨b₈, h₈, hb₈⟩ := buf_putbytes_is (m.take tx.keys.hashsize) hb₇ (by omega)
  rw [hmac, Nat.max_eq_right (by omega)] at hb₈
  obtain ⟨b₉, h₉, hb₉⟩ := buf_setpos_is (n := 0) hb₈ (Nat.zero_le _)
  refine .inr ⟨c, k₁, b₉, _, hsome, hb₉, ?_, ?_⟩
  · have htake := take_overwrite_end (m.take tx.keys.hashsize)
      (l := overwrite d₃ 0 c) (p := clear.length) (by omega)
    rw [hmac, hd₆] at htake
    rw [htake, hm]
  · simp only [hok, ok_bind, toInt32_of_lt (n := clear.length) (by omega), h₇, h₈, hb₈.len_eq,
      writebuf_enqueue, h₉, hb₉.len_eq]
    rfl

/-! ### The receiving side accepts it -/

/-- `raw` is a packet with this payload that the receiving side accepts. -/
structure Sealed (keys : Keys κ) (k : κ) (seqno : Nat) (raw payload : Bytes) (k' : κ) : Prop where
  authentic : ∃ clear, Authentic keys k seqno raw clear k' ∧ IsBody clear payload ∧
    ¬ BadLength keys (ofBytes (clear.take 4)) ∧ ¬ BadPayload clear

theorem clearPacket_isBody {blocksize : Nat} (h : blocksize = 8 ∨ blocksize = 16)
    (random : Nat → UInt8) {payload : Bytes} (hpos : 1 ≤ payload.length) :
    IsBody (clearPacket blocksize random payload) payload := by
  obtain ⟨-, hpad19, -, -⟩ := paddingLength_spec h payload.length
  refine ⟨List.ne_nil_of_length_pos hpos, _, _, _, rfl, length_be32 _, ?_⟩
  rw [List.length_map, List.length_range, UInt8.toNat_ofNat']
  omega

theorem take_clearPacket (blocksize : Nat) (random : Nat → UInt8) (payload : Bytes) :
    (clearPacket blocksize random payload).take 4 =
      be32 (1 + payload.length + paddingLength blocksize (5 + payload.length)) := by
  rw [clearPacket, List.append_assoc, List.append_assoc, List.take_left' (length_be32 _)]

theorem getD_clearPacket {blocksize : Nat} (h : blocksize = 8 ∨ blocksize = 16)
    (random : Nat → UInt8) (payload : Bytes) :
    ((clearPacket blocksize random payload).getD 4 0).toNat =
      paddingLength blocksize (5 + payload.length) := by
  obtain ⟨-, hpad19, -, -⟩ := paddingLength_spec h payload.length
  have hget : (clearPacket blocksize random payload).getD 4 0 =
      UInt8.ofNat (paddingLength blocksize (5 + payload.length)) := rfl
  rw [hget, UInt8.toNat_ofNat']
  omega

/-- The two ends of a direction have matching keys: the cipher of one end undoes that of the other block
by block while `R` relates their states, and the MAC is the same function. -/
structure Matching {κ' : Type} (tx : Keys κ) (rx : Keys κ') (R : κ → κ' → Prop) : Prop where
  sizes : tx.Sizes
  blocksize_eq : rx.blocksize = tx.blocksize
  hashsize_eq : rx.hashsize = tx.hashsize
  hmac_eq : rx.hmac = tx.hmac
  encrypts : Blockwise tx.blocksize tx.crypt
  decrypts : Blockwise tx.blocksize rx.crypt
  inverse : Inverse tx.blocksize tx.crypt rx.crypt R

variable {κ' : Type} {rxkeys : Keys κ'} {R : κ → κ' → Prop}

theorem Matching.rx_sizes (h : Matching keys rxkeys R) : rxkeys.Sizes :=
  ⟨h.blocksize_eq ▸ h.sizes.block, h.hashsize_eq ▸ h.sizes.mac⟩

theorem Matching.mac_eq (h : Matching keys rxkeys R) (seqno : Nat) (clear : Bytes) :
    rxkeys.mac seqno clear = keys.mac seqno clear := by
  rw [Keys.mac, Keys.mac, h.hmac_eq, h.hashsize_eq]

/-- **What the sending side seals, the receiving side accepts.** -/
theorem Matching.sealed (hm : Matching keys rxkeys R) {k : κ} {k' : κ'} (hR : R k k')
    {payload clear : Bytes} (random : Nat → UInt8) (hpos : 1 ≤ payload.length)
    (hmax : payload.length ≤ TRANS_MAX_PAYLOAD_LEN) (seqno : Nat)
    (hclear : clear = clearPacket keys.blocksize random payload) :
    ∃ c k₁ k₁', keys.crypt clear k = some (c, k₁) ∧ R k₁ k₁' ∧
      Sealed rxkeys k' seqno (c ++ keys.mac seqno clear) payload k₁' := by
  have hbound : TRANS_MAX_PAYLOAD_LEN = 16384 := rfl
  have hrecv : RECV_MAX_PACKET_LEN = 35000 := rfl
  have hmac := hm.sizes.mac
  have hblock := hm.sizes.block_le
  have h16 : MIN_PACKET_LEN = 16 := rfl
  have hexp : RECV_MAX_PAYLOAD_LEN + ZLIB_COMPRESS_EXPANSION = 32789 := rfl
  obtain ⟨hpad4, hpad19, hmod, hmin⟩ := paddingLength_spec hm.sizes.block payload.length
  have hlen : clear.length = _ := hclear ▸ length_clearPacket keys.blocksize random payload
  have hblocks : keys.blocksize ∣ clear.length := by
    rw [hlen]
    exact Nat.dvd_of_mod_eq_zero hmod
  obtain ⟨c, k₁, k₀', k₁', henc, hc, hfirst, hrest, hR₁⟩ :=
    hm.inverse.first hm.encrypts hm.decrypts hblocks (by omega) hR
  have htag := keys.length_mac seqno clear
  have hraw : (c ++ keys.mac seqno clear).length = clear.length + keys.hashsize := by
    rw [List.length_append, hc, htag]
  have hlength : ofBytes (clear.take 4) =
      1 + payload.length + paddingLength keys.blocksize (5 + payload.length) := by
    rw [hclear, take_clearPacket, ofBytes_be32 (by omega)]
  have hpadlen : (clear.getD 4 0).toNat = paddingLength keys.blocksize (5 + payload.length) := by
    rw [hclear, getD_clearPacket hm.sizes.block]
  refine ⟨c, k₁, k₁', henc, hR₁, clear, ⟨⟨?_, ⟨clear.take keys.blocksize,
    clear.drop keys.blocksize, k₀', (List.take_append_drop _ _).symm, ?_, ?_⟩, ?_, ?_, ?_⟩, ?_⟩,
    hclear ▸ clearPacket_isBody hm.sizes.block random hpos, ?_, ?_⟩
  · rw [hm.blocksize_eq, hraw]
    omega
  · rwa [hm.blocksize_eq, List.take_append_of_le_length (by omega)]
  · rw [hm.blocksize_eq, hm.hashsize_eq, hraw, List.drop_append_of_le_length (by omega),
      List.take_left' (by rw [List.length_drop]; omega)]
    exact hrest
  · rw [hraw, hlength, hm.hashsize_eq]
    omega
  · rw [hraw]
    omega
  · rw [hraw, hm.hashsize_eq]
  · rw [hm.mac_eq, ← hc, List.drop_left]
  · have hnot : (1 + payload.length + paddingLength keys.blocksize (5 + payload.length) + 4 +
        keys.hashsize - keys.hashsize) % keys.blocksize = 0 := by
      rw [Nat.add_sub_cancel, ← hmod]
      congr 1
      omega
    rw [BadLength, hm.blocksize_eq, hm.hashsize_eq, hlength]
    omega
  · rw [BadPayload, hpadlen]
    omega

/-! ### Writing to the socket -/

/-- The bytes on the write queue. -/
def Sender.queued (tx : Sender κ) : Bytes := (tx.writequeue.map Buffer.rest).flatten

/-- Nothing on the queue has been written completely. -/
def Sender.Pending (tx : Sender κ) : Prop :=
  ∀ wb ∈ tx.writequeue, wb.pos < wb.len ∧ wb.len ≤ RECV_MAX_PACKET_LEN

theorem rest_incrpos {wb wb' : Buffer} {m : Nat} (hb : wb'.Is wb.data wb.len (wb.pos + m)) :
    wb'.rest = wb.rest.drop m := by
  rw [hb.rest_eq, Buffer.rest, List.drop_drop]

/-- What one call leaves of the queue, and what it writes. -/
structure Written (tx : Sender κ) (queue : List Buffer) (len : Nat) (bs : Bytes) : Prop where
  pending : ({ tx with writequeue := queue } : Sender κ).Pending
  queued : tx.queued = bs ++ ({ tx with writequeue := queue } : Sender κ).queued
  len_eq : len = ({ tx with writequeue := queue } : Sender κ).queued.length % 2 ^ 32

/-- **One call of `write_packet`**: the bytes that are written leave the queue. -/
theorem write_packet_is (hpending : tx.Pending)
    (hlen : tx.writequeue_len = tx.queued.length % 2 ^ 32) (hne : tx.writequeue ≠ []) {a : Answer}
    (ha : a = .again ∨ ∃ n, 0 < n ∧ a = .bytes n) :
    ∃ queue len bs, write_packet tx a =
        .ok ({ tx with writequeue := queue, writequeue_len := len }, bs) ∧
      Written tx queue len bs := by
  obtain ⟨wb, queue, hqueue⟩ := List.exists_cons_of_ne_nil hne
  have hwb := hpending wb (by rw [hqueue]; exact List.mem_cons_self)
  have hmax : RECV_MAX_PACKET_LEN = 35000 := rfl
  have hrest : wb.rest.length = wb.len - wb.pos := wb.length_rest
  have hsub : sub32 wb.len wb.pos = wb.rest.length := by
    rw [sub32_of_le (by omega) (by omega), hrest]
  have hget : buf_getptr wb wb.rest.length = .ok wb.rest :=
    buf_getptr_ok.mpr ⟨Nat.le_refl _, List.take_length.symm⟩
  have hqueued : tx.queued = wb.rest ++ (queue.map Buffer.rest).flatten := by
    rw [Sender.queued, hqueue, List.map_cons, List.flatten_cons]
  have hassert : dropbear_assert (wb.rest.length > 0) = .ok () := if_pos (by omega)
  unfold write_packet
  simp only [hqueue, hsub, hassert, hget, ok_bind]
  rcases ha with rfl | ⟨n, hn, rfl⟩
  · refine ⟨tx.writequeue, tx.writequeue_len, [], rfl, hpending, ?_, hlen⟩
    rw [List.nil_append]
  simp only
  have hpos : ¬ min n wb.rest.length = 0 := by omega
  have hother : ∀ wb' ∈ queue, wb'.pos < wb'.len ∧ wb'.len ≤ RECV_MAX_PACKET_LEN :=
    fun wb' h => hpending wb' (by rw [hqueue]; exact List.mem_cons_of_mem _ h)
  rw [if_neg hpos]
  by_cases hall : min n wb.rest.length = wb.rest.length
  · rw [if_pos hall]
    refine ⟨queue, _, wb.rest, rfl, hother, hqueued, ?_⟩
    rw [hlen, hqueued, hall, List.length_append]
    simp only [sub32, Sender.queued]
    omega
  · rw [if_neg hall]
    obtain ⟨wb', hincr, hb'⟩ := buf_incrpos_is (n := min n wb.rest.length) (Buffer.Is.self wb)
      (by omega)
    have hrest' := rest_incrpos hb'
    rw [hincr, ok_bind]
    refine ⟨wb' :: queue, _, wb.rest.take (min n wb.rest.length), rfl, ?_, ?_, ?_⟩
    · intro b hb
      rcases List.mem_cons.mp hb with rfl | hb
      · rw [hb'.pos_eq, hb'.len_eq]
        omega
      · exact hother b hb
    · rw [hqueued, Sender.queued, List.map_cons, List.flatten_cons, hrest', ← List.append_assoc,
        List.take_append_drop]
    · rw [hlen, hqueued, Sender.queued, List.map_cons, List.flatten_cons, hrest',
        List.length_append, List.length_append, List.length_drop]
      simp only [sub32]
      omega

end SimpleSshd.Dropbear.Wire
