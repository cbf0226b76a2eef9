import SimpleSshd.Dropbear.Packet
import SimpleSshd.Dropbear.Proofs.BufferBoundsProofs

/-!
# Proofs: what the receiving side makes of the bytes it reads

The receive path refines a decoder of whole packets. `openHeader` decrypts a first block and takes the
length from it, `openBody` decrypts the rest, checks the MAC and finds the payload; both are functions
of byte strings, in plain arithmetic. `InFirst` and `InRest` say what `ses.readbuf` holds of the bytes
read since the last packet.
-/

namespace SimpleSshd.Dropbear.Wire

open Fallible Framing Overwrite

variable {κ ζ : Type} {keys : Keys κ} {zlib : Zlib ζ} {rx : Receiver κ ζ} {k : κ}

/-! ### 32-bit arithmetic -/

theorem sub32_of_le {a b : Nat} (hb : b ≤ a) (ha : a < 2 ^ 32) : sub32 a b = a - b := by
  simp only [sub32]
  omega

theorem add32_of_lt {a b : Nat} (h : a + b < 2 ^ 32) : add32 a b = a + b := Nat.mod_eq_of_lt h

/-! ### Decoding whole packets -/

/-- The block and MAC sizes there are. -/
structure Keys.Sizes (keys : Keys κ) : Prop where
  block : keys.blocksize = 8 ∨ keys.blocksize = 16
  mac : keys.hashsize ≤ 64

/-- The MAC of a packet. -/
def Keys.mac (keys : Keys κ) (seqno : Nat) (clear : Bytes) : Bytes :=
  (keys.hmac (be32 seqno ++ clear)).take keys.hashsize

theorem Keys.length_mac (keys : Keys κ) (seqno : Nat) (clear : Bytes) :
    (keys.mac seqno clear).length = keys.hashsize := by
  rw [Keys.mac, List.length_take, Nat.min_eq_left (keys.hmac_length _)]

/-- The length on the wire of a packet with this first block. -/
def frameLength (keys : Keys κ) (head : Bytes) : Except Exit Nat :=
  let len := ofBytes (head.take 4) + 4 + keys.hashsize
  if len > RECV_MAX_PACKET_LEN ∨ len < MIN_PACKET_LEN + keys.hashsize ∨
      (len - keys.hashsize) % keys.blocksize ≠ 0 then
    dropbear_exit "Integrity error (bad packet size %u)"
  else pure len

/-- The first block decrypted, and the length of the packet. -/
def openHeader (keys : Keys κ) (k : κ) (block : Bytes) : Except Exit (Bytes × κ × Nat) :=
  match keys.crypt block k with
  | none => dropbear_exit "Error decrypting"
  | some (head, k) => do
    let len ← frameLength keys head
    pure (head, k, len)

/-- The payload of a decrypted packet: what follows the padding length, without the padding. -/
def payloadOf (clear : Bytes) : Except Exit Bytes :=
  let padlen := (clear.getD 4 0).toNat
  if clear.length < padlen + 4 + 1 + 1 ∨
      clear.length - padlen - 4 - 1 > RECV_MAX_PAYLOAD_LEN + ZLIB_COMPRESS_EXPANSION then
    dropbear_exit "Bad packet size %u"
  else pure ((clear.drop PACKET_PAYLOAD_OFF).take (clear.length - padlen - 4 - 1))

/-- The rest of a packet, whose first block is decrypted to `head`. -/
def openBody (keys : Keys κ) (k : κ) (seqno : Nat) (head rest : Bytes) :
    Except Exit (Bytes × κ) :=
  let n := rest.length - keys.hashsize
  match keys.crypt (rest.take n) k with
  | none => dropbear_exit "Error decrypting"
  | some (tail, k) =>
    if keys.mac seqno (head ++ tail) = rest.drop n then do
      let payload ← payloadOf (head ++ tail)
      pure (payload, k)
    else dropbear_exit "Integrity error"

theorem frameLength_ok {head : Bytes} {len : Nat} : frameLength keys head = .ok len ↔
    len = ofBytes (head.take 4) + 4 + keys.hashsize ∧ len ≤ RECV_MAX_PACKET_LEN ∧
      MIN_PACKET_LEN + keys.hashsize ≤ len ∧ (len - keys.hashsize) % keys.blocksize = 0 := by
  simp only [frameLength, ite_exit_eq_ok, pure_eq_ok]
  constructor
  · rintro ⟨h, rfl⟩
    exact ⟨rfl, by omega, by omega, by omega⟩
  · rintro ⟨rfl, h₁, h₂, h₃⟩
    exact ⟨by omega, rfl⟩

theorem openHeader_ok {block head : Bytes} {k' : κ} {len : Nat} :
    openHeader keys k block = .ok (head, k', len) ↔
      keys.crypt block k = some (head, k') ∧ frameLength keys head = .ok len := by
  unfold openHeader
  cases keys.crypt block k with
  | none => simp
  | some out =>
    simp only [bind_eq_ok, pure_eq_ok, Option.some.injEq, Prod.ext_iff]
    constructor
    · rintro ⟨n, hlen, rfl, rfl, rfl⟩
      exact ⟨⟨rfl, rfl⟩, hlen⟩
    · rintro ⟨⟨rfl, rfl⟩, hlen⟩
      exact ⟨len, hlen, rfl, rfl, rfl⟩

/-! ### The calls -/

/-- `read` delivers some bytes or none. -/
theorem read_cases (stream : Bytes) (maxlen : Nat) (a : Answer) :
    (∃ bs stream', stream = bs ++ stream' ∧ bs ≠ [] ∧ bs.length ≤ maxlen ∧
        read stream maxlen a = (.data bs, stream')) ∨
      ((maxlen = 0 ∨ stream = [] ∨ a.transfers = false) ∧
        read stream maxlen a = (.again, stream)) ∨
      (a = .closed ∧ read stream maxlen a = (.closed, stream)) ∨
      (a = .error ∧ read stream maxlen a = (.error, stream)) := by
  cases a with
  | bytes n =>
    by_cases hnil : stream.take (min n maxlen) = []
    · refine .inr (.inl ⟨?_, if_pos hnil⟩)
      rcases List.take_eq_nil_iff.mp hnil with hmin | hstream
      · by_cases hmax : maxlen = 0
        · exact .inl hmax
        · have hn : n = 0 := by omega
          exact .inr (.inr (by rw [hn]; rfl))
      · exact .inr (.inl hstream)
    · refine .inl ⟨_, _, (List.take_append_drop _ _).symm, hnil, ?_, if_neg hnil⟩
      rw [List.length_take]
      omega
  | again => exact .inr (.inl ⟨.inr (.inr rfl), rfl⟩)
  | closed => exact .inr (.inr (.inl ⟨rfl, rfl⟩))
  | error => exact .inr (.inr (.inr ⟨rfl, rfl⟩))

variable {b : Buffer} {d : Bytes} {l p n : Nat}

theorem cryptInPlace_is (keys : Keys κ) (k : κ) (hb : b.Is d l p) (h : p + n ≤ l) (msg : String) :
    (keys.crypt ((d.drop p).take n) k = none ∧ cryptInPlace keys k b n msg = dropbear_exit msg) ∨
      ∃ out k' b', keys.crypt ((d.drop p).take n) k = some (out, k') ∧ out.length = n ∧
        cryptInPlace keys k b n msg = .ok (b', k') ∧ b'.Is (overwrite d p out) l p := by
  have hlen := hb.len_le
  unfold cryptInPlace
  rw [buf_getptr_is hb h, ok_bind, buf_getwriteptr_is hb (by omega), ok_bind]
  cases hcrypt : keys.crypt ((d.drop p).take n) k with
  | none => exact .inl ⟨rfl, rfl⟩
  | some res =>
    obtain ⟨out, k'⟩ := res
    have hout : out.length = n := by
      rw [keys.crypt_length _ _ _ _ hcrypt, List.length_take, List.length_drop]
      omega
    obtain ⟨b', hstore, hb'⟩ := store_is out hb (by omega)
    exact .inr ⟨out, k', b', rfl, hout, by simp only [hstore, ok_bind]; rfl, hb'⟩

theorem frameLength_take {head head' : Bytes} (h : head.take 4 = head'.take 4) :
    frameLength keys head = frameLength keys head' := by
  rw [frameLength, frameLength, h]

/-- A length is refused, in plain arithmetic. -/
def BadLength (keys : Keys κ) (n : Nat) : Prop :=
  n + 4 + keys.hashsize > RECV_MAX_PACKET_LEN ∨
    n + 4 + keys.hashsize < MIN_PACKET_LEN + keys.hashsize ∨
    (n + 4 + keys.hashsize - keys.hashsize) % keys.blocksize ≠ 0

/-- The 32-bit arithmetic of the length check refuses what plain arithmetic does: a sum that wrapped
around is below `MIN_PACKET_LEN`. -/
theorem badLength_iff (hmac : keys.hashsize ≤ 64) {n len : Nat} (hn : n < 2 ^ 32)
    (hlen : len = add32 (add32 n 4) keys.hashsize) :
    (len > RECV_MAX_PACKET_LEN ∨ len < MIN_PACKET_LEN + keys.hashsize ∨
      sub32 len keys.hashsize % keys.blocksize ≠ 0 ↔ BadLength keys n) ∧
      (¬ BadLength keys n → len = n + 4 + keys.hashsize) := by
  have hmax : RECV_MAX_PACKET_LEN = 35000 := rfl
  have hmin : MIN_PACKET_LEN = 16 := rfl
  unfold BadLength
  by_cases hwrap : n + 4 + keys.hashsize < 2 ^ 32
  · have hadd : len = n + 4 + keys.hashsize := by
      have h4 : add32 n 4 = n + 4 := add32_of_lt (by omega)
      rw [hlen, h4, add32_of_lt hwrap]
    have hsub : sub32 len keys.hashsize = n + 4 + keys.hashsize - keys.hashsize := by
      rw [sub32_of_le (by omega) (by omega), hadd]
    rw [hsub, hadd]
    exact ⟨Iff.rfl, fun _ => rfl⟩
  · have hsmall : len < MIN_PACKET_LEN + keys.hashsize := by
      simp only [hlen, add32]
      omega
    exact ⟨⟨fun _ => .inl (by omega), fun _ => .inr (.inl hsmall)⟩, fun h => by omega⟩

theorem packetLength_is (hb : b.Is d l 0) (h : 4 ≤ l) (hmac : keys.hashsize ≤ 64) :
    (∃ e, frameLength keys d = .error e ∧ packetLength keys b = .error e) ∨
      ∃ len b', frameLength keys d = .ok len ∧ packetLength keys b = .ok (len, b') ∧ b'.Is d l 4 := by
  obtain ⟨b', hint, hb'⟩ := buf_getint_is (p := 0) hb (by omega)
  rw [List.drop_zero] at hint
  have hlen4 : (d.take 4).length = 4 := by
    have := hb.len_le
    rw [List.length_take]
    omega
  have hlt : ofBytes (d.take 4) < 2 ^ 32 := by
    have := ofBytes_lt (d.take 4)
    rw [hlen4] at this
    omega
  obtain ⟨hiff, hexact⟩ := badLength_iff hmac hlt rfl
  unfold packetLength frameLength
  rw [hint, ok_bind]
  by_cases hbad : BadLength keys (ofBytes (d.take 4))
  · exact .inl ⟨_, if_pos hbad, if_pos (hiff.mpr hbad)⟩
  · refine .inr ⟨_, b', if_neg hbad, (if_neg (hiff.not.mpr hbad)).trans ?_, hb'⟩
    rw [hexact hbad]
    rfl

/-! ### The first block -/

theorem Keys.Sizes.block_pos (hs : keys.Sizes) : 8 ≤ keys.blocksize := by
  have := hs.block
  omega

theorem Keys.Sizes.block_le (hs : keys.Sizes) : keys.blocksize ≤ 16 := by
  have := hs.block
  omega

/-- Less than a block has been read: the bytes are in `readbuf`, if there is one. -/
def InFirst (keys : Keys κ) (part : Bytes) (readbuf : Option Buffer) : Prop :=
  part.length < keys.blocksize ∧
    (readbuf = none ∧ part = [] ∨
      ∃ b d, readbuf = some b ∧ b.Is d part.length part.length ∧ d.take part.length = part ∧
        keys.blocksize ≤ d.length)

/-- The first block `block` is decrypted and the length `len` is known; `more` are the bytes behind
it. -/
structure InRest (keys : Keys κ) (k : κ) (block more : Bytes) (readbuf : Option Buffer) (k' : κ)
    (len : Nat) : Prop where
  block_length : block.length = keys.blocksize
  le_len : block.length + more.length ≤ len
  stored : ∃ head, openHeader keys k block = .ok (head, k', len) ∧ ∃ b d, readbuf = some b ∧
    b.Is d len (block.length + more.length) ∧ d.take (block.length + more.length) = head ++ more

/-- The buffer that `read_packet_init` works with. -/
theorem currentBuf_is {part : Bytes} (hs : rx.keys.Sizes) (hin : InFirst rx.keys part rx.readbuf) :
    ∃ b d, rx.currentBuf = .ok b ∧ b.Is d part.length part.length ∧ d.take part.length = part ∧
      rx.keys.blocksize ≤ d.length := by
  unfold Receiver.currentBuf
  obtain ⟨_, ⟨hnone, rfl⟩ | ⟨b, d, hsome, hb, hd, hsize⟩⟩ := hin
  · have hle := hs.block_le
    obtain ⟨b, hnew, hb⟩ := buf_new_is (n := INIT_READBUF) (by decide)
    rw [hnone]
    refine ⟨b, _, hnew, hb, rfl, ?_⟩
    rw [List.length_replicate]
    show rx.keys.blocksize ≤ 128
    omega
  · rw [hsome]
    exact ⟨b, d, rfl, hb, hd, hsize⟩

/-- What `read_packet_init` does, if `part` has been read of the first block. -/
inductive InitOutcome (rx : Receiver κ ζ) (part stream : Bytes) (a : Answer) :
    Except Exit (Status × Receiver κ ζ × Bytes) → Prop
  /-- The block is not complete. -/
  | more {bs stream' : Bytes} {readbuf : Option Buffer} (hstream : stream = bs ++ stream')
      (hin : InFirst rx.keys (part ++ bs) readbuf)
      (hidle : bs = [] → stream = [] ∨ a.transfers = false) :
      InitOutcome rx part stream a (.ok (DROPBEAR_FAILURE, { rx with readbuf }, stream'))
  | header {bs stream' : Bytes} {readbuf : Option Buffer} {k' : κ} {len : Nat}
      (hstream : stream = bs ++ stream')
      (hin : InRest rx.keys rx.cipher_state (part ++ bs) [] readbuf k' len) :
      InitOutcome rx part stream a
        (.ok (DROPBEAR_SUCCESS, { rx with readbuf, cipher_state := k' }, stream'))
  | refused {bs stream' : Bytes} {e : Exit} (hstream : stream = bs ++ stream')
      (hlen : (part ++ bs).length = rx.keys.blocksize)
      (he : openHeader rx.keys rx.cipher_state (part ++ bs) = .error e) :
      InitOutcome rx part stream a (.error e)
  | closed (ha : a = .closed) : InitOutcome rx part stream a (.error (.dropbear_close "Exited normally"))
  | failed (ha : a = .error) : InitOutcome rx part stream a (.error (.dropbear_exit "Error reading: %s"))

/-- `readbuf` made large enough for the whole packet. -/
theorem prepareRest_is (hb : b.Is d l p) {len : Nat} (hn : n ≤ len)
    (hlen : len ≤ RECV_MAX_PACKET_LEN) :
    ∃ b' d', prepareRest b len n = .ok b' ∧ b'.Is d' len n ∧ d'.take d.length = d := by
  have hmax : RECV_MAX_PACKET_LEN ≤ BUF_MAX_SIZE := by decide
  unfold prepareRest
  rw [hb.size_eq]
  by_cases hsize : len > d.length
  · obtain ⟨b₁, h₁, hb₁⟩ := buf_resize_is (n := len) hb (by omega) (by omega)
    obtain ⟨b₂, h₂, hb₂⟩ := buf_setlen_is (n := len) hb₁ (by
      rw [List.length_append, List.length_replicate]
      omega)
    obtain ⟨b₃, h₃, hb₃⟩ := buf_setpos_is (n := n) hb₂ hn
    refine ⟨b₃, _, ?_, hb₃, List.take_left⟩
    simp only [if_pos hsize, h₁, ok_bind, h₂, h₃]
  · obtain ⟨b₂, h₂, hb₂⟩ := buf_setlen_is (n := len) hb (by omega)
    obtain ⟨b₃, h₃, hb₃⟩ := buf_setpos_is (n := n) hb₂ hn
    refine ⟨b₃, d, ?_, hb₃, List.take_length⟩
    simp only [if_neg hsize, pure_bind, h₂, ok_bind, h₃]

theorem firstBlock_is (hs : rx.keys.Sizes) {block : Bytes}
    (hlen : block.length = rx.keys.blocksize) (hb : b.Is d block.length p)
    (hd : d.take block.length = block) :
    (∃ e, openHeader rx.keys rx.cipher_state block = .error e ∧ firstBlock rx b = .error e) ∨
      ∃ b' k' len, InRest rx.keys rx.cipher_state block [] (some b') k' len ∧
        firstBlock rx b = .ok { rx with readbuf := some b', cipher_state := k' } := by
  have hpos := hs.block_pos
  have hdl := hb.len_le
  obtain ⟨b₁, h₁, hb₁⟩ := buf_setpos_is (n := 0) hb (by omega)
  unfold firstBlock openHeader
  rw [← hlen, h₁, ok_bind]
  have hcrypt := cryptInPlace_is rx.keys rx.cipher_state (n := block.length) hb₁ (by omega)
    "Error decrypting"
  rw [List.drop_zero, hd] at hcrypt
  rcases hcrypt with ⟨hnone, hexit⟩ | ⟨head, k', b₂, hsome, hout, hok, hb₂⟩
  · rw [hnone, hexit]
    exact .inl ⟨_, rfl, rfl⟩
  rw [hsome, hok, ok_bind]
  have hhead : (overwrite d 0 head).take block.length = head := by
    have := take_overwrite_end head (Nat.zero_le d.length)
    rwa [hout, Nat.zero_add, List.take_zero, List.nil_append] at this
  have hframe : frameLength rx.keys (overwrite d 0 head) = frameLength rx.keys head := by
    refine frameLength_take ?_
    rw [← hhead, List.take_take, Nat.min_eq_left (by omega), hhead]
  rcases packetLength_is hb₂ (by omega) hs.mac with ⟨e, he, hexit⟩ | ⟨len, b₃, hlen', hok', hb₃⟩
  · rw [hframe] at he
    refine .inl ⟨e, ?_, ?_⟩
    · simp only [he]
      rfl
    · simp only [hexit]
      rfl
  · rw [hframe] at hlen'
    obtain ⟨_, hle, hge, _⟩ := frameLength_ok.mp hlen'
    have hmin : MIN_PACKET_LEN = 16 := rfl
    have hblock := hs.block_le
    obtain ⟨b₄, d', h₄, hb₄, htake⟩ := prepareRest_is (n := block.length) hb₃ (by omega) hle
    refine .inr ⟨b₄, k', len, ⟨hlen, by simp; omega, head, ?_, b₄, d', rfl, hb₄, ?_⟩, ?_⟩
    · exact openHeader_ok.mpr ⟨hsome, hlen'⟩
    · have hover : (overwrite d 0 head).length = d.length := length_overwrite (by omega)
      rw [List.length_nil, Nat.add_zero, List.append_nil, ← hhead, ← htake, List.take_take, hover,
        Nat.min_eq_left hdl]
    · simp only [hok', ok_bind, h₄]
      rfl

theorem read_packet_init_outcome (hs : rx.keys.Sizes) {part : Bytes}
    (hin : InFirst rx.keys part rx.readbuf) (stream : Bytes) (a : Answer) :
    InitOutcome rx part stream a (read_packet_init rx stream a) := by
  obtain ⟨b, d, hbuf, hb, hd, hsize⟩ := currentBuf_is hs hin
  have hpart := hin.1
  have hblock := hs.block_le
  have hmaxlen : sub32 rx.keys.blocksize b.pos = rx.keys.blocksize - part.length := by
    rw [hb.pos_eq]
    exact sub32_of_le (by omega) (by omega)
  unfold read_packet_init
  rw [hbuf, ok_bind]
  simp only [hmaxlen]
  rw [buf_getwriteptr_is hb (by omega), ok_bind]
  rcases read_cases stream (rx.keys.blocksize - part.length) a with
    ⟨bs, stream', hstream, hnil, hle, hread⟩ | ⟨hidle, hread⟩ | ⟨rfl, hread⟩ | ⟨rfl, hread⟩
  · rw [hread]
    obtain ⟨b₁, hstore, hb₁⟩ := store_is bs hb (by omega)
    obtain ⟨b₂, hincr, hb₂⟩ := buf_incrwritepos_is (n := bs.length) hb₁ (by
      rw [length_overwrite (by omega)]
      omega)
    have htake : (overwrite d part.length bs).take (part ++ bs).length = part ++ bs := by
      rw [List.length_append, take_overwrite_end bs (by omega), hd]
    rw [Nat.max_eq_right (by omega), ← List.length_append] at hb₂
    simp only [hstore, ok_bind, hincr]
    by_cases hshort : bs.length ≠ rx.keys.blocksize - part.length
    · rw [if_pos hshort]
      refine .more hstream ⟨?_, .inr ⟨b₂, _, rfl, hb₂, htake, ?_⟩⟩ (absurd · hnil)
      · rw [List.length_append]
        omega
      · rw [length_overwrite (by omega)]
        exact hsize
    · rw [if_neg hshort]
      have hfull : (part ++ bs).length = rx.keys.blocksize := by
        rw [List.length_append]
        omega
      rcases firstBlock_is hs hfull hb₂ htake with ⟨e, he, hexit⟩ | ⟨b', k', len, hrest, hok⟩
      · rw [hexit]
        exact .refused hstream hfull he
      · rw [hok]
        exact .header hstream hrest
  · rw [hread]
    have hnil : stream = [] ++ stream := rfl
    refine .more hnil ⟨by rwa [List.append_nil], .inr ⟨b, d, rfl, ?_⟩⟩ ?_
    · rw [List.append_nil]
      exact ⟨hb, hd, hsize⟩
    · exact fun _ => hidle.resolve_left (by omega)
  · rw [hread]
    exact .closed rfl
  · rw [hread]
    exact .failed rfl

/-! ### The rest of the packet -/

theorem make_mac_is (keys : Keys κ) (seqno : Nat) (hb : b.Is d l p) (h : n ≤ l) :
    ∃ m b' p', make_mac keys seqno b n = .ok (m, b') ∧ b'.Is d l p' ∧
      m.take keys.hashsize = keys.mac seqno (d.take n) := by
  unfold make_mac
  by_cases hpos : keys.hashsize > 0
  · obtain ⟨b₁, h₁, hb₁⟩ := buf_setpos_is (n := 0) hb (by omega)
    rw [if_pos hpos, h₁, ok_bind, buf_getptr_is hb₁ (by omega), ok_bind, List.drop_zero]
    exact ⟨_, b₁, 0, rfl, hb₁, rfl⟩
  · rw [if_neg hpos]
    refine ⟨[], b, p, rfl, hb, ?_⟩
    rw [Keys.mac, Nat.eq_zero_of_not_pos hpos, List.take_zero, List.take_zero]

/-- The parts of a buffer's contents. -/
theorem taken_parts {clear tag : Bytes} (hl : l ≤ d.length) (hd : d.take l = clear ++ tag) :
    clear.length + tag.length = l ∧ d.take clear.length = clear ∧
      (d.drop clear.length).take tag.length = tag := by
  have hlen : clear.length + tag.length = l := by
    have := congrArg List.length hd
    rw [List.length_take, Nat.min_eq_left hl, List.length_append] at this
    exact this.symm
  refine ⟨hlen, ?_, ?_⟩
  · have := congrArg (List.take clear.length) hd
    rwa [List.take_take, Nat.min_eq_left (by omega), List.take_left] at this
  · have := congrArg (List.drop clear.length) hd
    rwa [List.drop_take, List.drop_left, show l - clear.length = tag.length by omega] at this

theorem checkmac_is (rx : Receiver κ ζ) {clear tag : Bytes} (hb : b.Is d l p) (hl : l < 2 ^ 32)
    (htag : tag.length = rx.keys.hashsize) (hd : d.take l = clear ++ tag) :
    ∃ b', b'.Is d l clear.length ∧
      checkmac rx b = .ok (if rx.keys.mac rx.recvseq clear = tag then DROPBEAR_SUCCESS
        else DROPBEAR_FAILURE, b') := by
  obtain ⟨hlen, hclear, htake⟩ := taken_parts hb.len_le hd
  have hsub : sub32 b.len rx.keys.hashsize = clear.length := by
    rw [hb.len_eq, sub32_of_le (by omega) hl]
    omega
  obtain ⟨b₁, h₁, hb₁⟩ := buf_setpos_is (n := 0) hb (by omega)
  obtain ⟨m, b₂, p', h₂, hb₂, hm⟩ :=
    make_mac_is (n := clear.length) rx.keys rx.recvseq hb₁ (by omega)
  obtain ⟨b₃, h₃, hb₃⟩ := buf_setpos_is (n := clear.length) hb₂ (by omega)
  refine ⟨b₃, hb₃, ?_⟩
  unfold checkmac
  simp only [hsub, h₁, ok_bind, h₂, h₃]
  rw [buf_getptr_is hb₃ (by omega), ok_bind, hm, hclear, ← htag, htake]
  by_cases hmac : rx.keys.mac rx.recvseq clear = tag
  · rw [if_pos hmac, if_pos hmac]
    rfl
  · rw [if_neg hmac, if_neg hmac]
    rfl

/-- The length of the payload is found by subtractions that may wrap around; then it is refused. -/
theorem payloadLength_eq (padlen : Nat) {total mac : Nat} (htotal : total ≤ RECV_MAX_PACKET_LEN)
    (hpad : padlen < 256) (hmac : mac ≤ 64) (hle : mac ≤ total) {len : Nat}
    (hlen : len = sub32 (sub32 (sub32 (sub32 total padlen) 4) 1) mac) :
    (len > RECV_MAX_PAYLOAD_LEN + ZLIB_COMPRESS_EXPANSION ∨ len < 1 ↔
      total - mac < padlen + 4 + 1 + 1 ∨
        total - mac - padlen - 4 - 1 > RECV_MAX_PAYLOAD_LEN + ZLIB_COMPRESS_EXPANSION) ∧
      (¬ (len > RECV_MAX_PAYLOAD_LEN + ZLIB_COMPRESS_EXPANSION ∨ len < 1) →
        len = total - mac - padlen - 4 - 1) := by
  have hmax : RECV_MAX_PACKET_LEN = 35000 := rfl
  have hbound : RECV_MAX_PAYLOAD_LEN + ZLIB_COMPRESS_EXPANSION = 32789 := rfl
  simp only [sub32] at hlen
  rw [hbound]
  omega

theorem findPayload_is {clear tag : Bytes} (hmac : rx.keys.hashsize ≤ 64) (hb : b.Is d l p)
    (hl : l ≤ RECV_MAX_PACKET_LEN) (htag : tag.length = rx.keys.hashsize)
    (hd : d.take l = clear ++ tag) (hclear : 16 ≤ clear.length) :
    (∃ e, payloadOf clear = .error e ∧ findPayload rx b = .error e) ∨
      ∃ inner b', payloadOf clear = .ok inner ∧ findPayload rx b = .ok (b', inner.length) ∧
        b'.Is d l PACKET_PAYLOAD_OFF ∧ (d.drop PACKET_PAYLOAD_OFF).take inner.length = inner := by
  obtain ⟨hlen, htake, -⟩ := taken_parts hb.len_le hd
  have hpad : d.getD 4 0 = clear.getD 4 0 := by
    rw [← htake, List.getD_eq_getElem?_getD, List.getD_eq_getElem?_getD,
      List.getElem?_take_of_lt (by omega)]
  obtain ⟨b₁, h₁, hb₁⟩ := buf_setpos_is (n := 4) hb (by omega)
  obtain ⟨b₂, h₂, hb₂⟩ := buf_getbyte_is hb₁ (by omega)
  obtain ⟨b₃, h₃, hb₃⟩ := buf_setpos_is (n := 5) hb₂ (by omega)
  obtain ⟨hiff, hexact⟩ := payloadLength_eq (clear.getD 4 0).toNat hl
    (UInt8.toNat_lt _) hmac (by omega) rfl
  rw [show l - rx.keys.hashsize = clear.length by omega] at hiff hexact
  unfold findPayload payloadOf
  rw [PACKET_PADDING_OFF, h₁, ok_bind, h₂, ok_bind, hpad]
  simp only [hb₂.len_eq]
  by_cases hbad : clear.length < (clear.getD 4 0).toNat + 4 + 1 + 1 ∨
      clear.length - (clear.getD 4 0).toNat - 4 - 1 >
        RECV_MAX_PAYLOAD_LEN + ZLIB_COMPRESS_EXPANSION
  · exact .inl ⟨_, if_pos hbad, if_pos (hiff.mpr hbad)⟩
  · have hgood := hiff.not.mpr hbad
    have hinner : ((clear.drop 5).take (clear.length - (clear.getD 4 0).toNat - 4 - 1)).length =
        clear.length - (clear.getD 4 0).toNat - 4 - 1 := by
      rw [List.length_take, List.length_drop]
      omega
    refine .inr ⟨_, b₃, if_neg hbad, (if_neg hgood).trans ?_, hb₃, ?_⟩
    · rw [PACKET_PAYLOAD_OFF, h₃, ok_bind, hexact hgood, hinner]
      rfl
    · have hdrop : clear.drop 5 = (d.drop 5).take (clear.length - 5) := by
        rw [← List.drop_take, htake]
      rw [PACKET_PAYLOAD_OFF, hinner, hdrop, List.take_take, Nat.min_eq_left (by omega)]

theorem decryptBody_is (hs : rx.keys.Sizes) {head rest : Bytes} (hb : b.Is d l p)
    (hl : l ≤ RECV_MAX_PACKET_LEN) (hhead : head.length = rx.keys.blocksize)
    (hd : d.take l = head ++ rest) (hmin : 16 + rx.keys.hashsize ≤ l) :
    (∃ e, openBody rx.keys rx.cipher_state rx.recvseq head rest = .error e ∧
        decryptBody rx b = .error e) ∨
      ∃ inner k' b' d', openBody rx.keys rx.cipher_state rx.recvseq head rest = .ok (inner, k') ∧
        decryptBody rx b = .ok ((b', inner.length), k') ∧ b'.Is d' l PACKET_PAYLOAD_OFF ∧
        (d'.drop PACKET_PAYLOAD_OFF).take inner.length = inner := by
  have hmax : RECV_MAX_PACKET_LEN = 35000 := rfl
  have hblock := hs.block_le
  have hdl := hb.len_le
  obtain ⟨hlen, htake, hrest⟩ := taken_parts hdl hd
  obtain ⟨n, hn⟩ : ∃ n, n = rest.length - rx.keys.hashsize := ⟨_, rfl⟩
  obtain ⟨b₁, h₁, hb₁⟩ := buf_setpos_is (n := head.length) hb (by omega)
  have hsub : sub32 (sub32 b₁.len rx.keys.hashsize) b₁.pos = n := by
    rw [hb₁.len_eq, hb₁.pos_eq, sub32_of_le (a := l) (by omega) (by omega),
      sub32_of_le (by omega) (by omega)]
    omega
  have hcrypt := cryptInPlace_is rx.keys rx.cipher_state (n := n) hb₁ (by omega) "Error decrypting"
  have hbody : (d.drop head.length).take n = rest.take n := by
    have := congrArg (List.take n) hrest
    rwa [List.take_take, Nat.min_eq_left (by omega)] at this
  rw [hbody] at hcrypt
  unfold decryptBody openBody
  rw [← hhead, h₁, ok_bind]
  simp only [hsub, ← hn]
  rcases hcrypt with ⟨hnone, hexit⟩ | ⟨tail, k', b₂, hsome, hout, hok, hb₂⟩
  · rw [hnone, hexit]
    exact .inl ⟨_, rfl, rfl⟩
  rw [hsome, hok, ok_bind]
  have hd₂ : (overwrite d head.length tail).take l = (head ++ tail) ++ rest.drop n := by
    rw [take_overwrite_behind (by omega) (by omega), htake, hd, hout, List.drop_append]
    simp
  obtain ⟨b₃, h₃, hb₃⟩ := buf_incrpos_is (n := n) hb₂ (by omega)
  have htag : (rest.drop n).length = rx.keys.hashsize := by
    rw [List.length_drop]
    omega
  obtain ⟨b₄, hb₄, h₄⟩ := checkmac_is rx hb₃ (by omega) htag hd₂
  simp only [toInt32_of_lt (n := n) (by omega), h₃, ok_bind, h₄]
  by_cases hmac : rx.keys.mac rx.recvseq (head ++ tail) = rest.drop n
  · simp only [if_pos hmac]
    have hclear : 16 ≤ (head ++ tail).length := by
      rw [List.length_append]
      omega
    rcases findPayload_is hs.mac hb₄ hl htag hd₂ hclear with
      ⟨e, he, hexit⟩ | ⟨inner, b₅, hinner, hok', hb₅, htake₅⟩
    · rw [he]
      refine .inl ⟨e, rfl, ?_⟩
      rw [if_neg (by decide), hexit]
      rfl
    · rw [hinner]
      refine .inr ⟨inner, k', b₅, _, rfl, ?_, hb₅, htake₅⟩
      rw [if_neg (by decide), hok']
      rfl
  · simp only [if_neg hmac]
    exact .inl ⟨_, rfl, rfl⟩

end SimpleSshd.Dropbear.Wire
