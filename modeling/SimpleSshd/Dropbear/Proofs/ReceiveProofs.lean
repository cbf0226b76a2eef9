import SimpleSshd.Dropbear.Inbound
import SimpleSshd.Dropbear.Proofs.DecompressProofs

/-!
# Proofs: the receiving side is safe against any peer

`ReadOutcome` lists what a call of `read_packet` may come to, with the reason for each exit in plain
arithmetic: the packet is not complete, a payload is delivered from a packet whose MAC was verified,
or the connection ends. `read_packet_outcome` proves that there is nothing else, from any point within
a packet; `received_outcome` carries this through a connection, whatever the peer sends and however
the kernel cuts it up.
-/

namespace SimpleSshd.Dropbear.Wire

open Fallible Framing Overwrite Runs

variable {κ ζ : Type} {keys : Keys κ} {zlib : Zlib ζ} {rx : Receiver κ ζ} {k k' : κ}
variable {raw clear body stream stream' : Bytes} {first rest : Answer}

/-! ### Packets -/

/-- The bytes `raw` are a whole packet: `clear` is what they decrypt to without the MAC, the first
block on its own, and they are as many as the length in it says. -/
structure Frame (keys : Keys κ) (k : κ) (raw clear : Bytes) (k' : κ) : Prop where
  block_le : keys.blocksize ≤ raw.length
  decrypts : ∃ head tail k₁, clear = head ++ tail ∧
    keys.crypt (raw.take keys.blocksize) k = some (head, k₁) ∧
    keys.crypt ((raw.drop keys.blocksize).take (raw.length - keys.blocksize - keys.hashsize)) k₁ =
      some (tail, k')
  length_raw : raw.length = ofBytes (clear.take 4) + 4 + keys.hashsize
  length_le : raw.length ≤ RECV_MAX_PACKET_LEN
  length_clear : clear.length + keys.hashsize = raw.length

/-- The bytes `raw` are as many as the length in the first block says, and the cipher fails on what
follows it. -/
structure FrameFails (keys : Keys κ) (k : κ) (raw : Bytes) : Prop where
  block_le : keys.blocksize ≤ raw.length
  fails : ∃ head k₁, keys.crypt (raw.take keys.blocksize) k = some (head, k₁) ∧
    raw.length = ofBytes (head.take 4) + 4 + keys.hashsize ∧
    keys.crypt ((raw.drop keys.blocksize).take (raw.length - keys.blocksize - keys.hashsize)) k₁ =
      none

/-- `raw` is a whole packet with the right MAC. -/
structure Authentic (keys : Keys κ) (k : κ) (seqno : Nat) (raw clear : Bytes) (k' : κ) : Prop
    extends Frame keys k raw clear k' where
  mac : keys.mac seqno clear = raw.drop clear.length

/-- `body` lies between the padding length and the padding. -/
def IsBody (clear body : Bytes) : Prop :=
  body ≠ [] ∧ ∃ length padlen padding, clear = length ++ [padlen] ++ body ++ padding ∧
    length.length = 4 ∧ padding.length = padlen.toNat

/-- There is no room for a payload, or it is too large. -/
def BadPayload (clear : Bytes) : Prop :=
  clear.length < (clear.getD 4 0).toNat + 4 + 1 + 1 ∨
    clear.length - (clear.getD 4 0).toNat - 4 - 1 > RECV_MAX_PAYLOAD_LEN + ZLIB_COMPRESS_EXPANSION

/-- What `ses.readbuf` and the cipher are after the bytes `raw` of a packet that is not complete. -/
inductive Reading (keys : Keys κ) (k : κ) : Bytes → Option Buffer → κ → Prop
  | first {raw : Bytes} {readbuf : Option Buffer} (hin : InFirst keys raw readbuf) :
      Reading keys k raw readbuf k
  | rest {block more : Bytes} {readbuf : Option Buffer} {k' : κ} {len : Nat}
      (hin : InRest keys k block more readbuf k' len) (hlt : block.length + more.length < len) :
      Reading keys k (block ++ more) readbuf k'

/-- What a call of `read_packet` may come to, if `raw` has been read of the packet. -/
inductive ReadOutcome (zlib : Zlib ζ) (rx : Receiver κ ζ) (k : κ) (raw stream : Bytes)
    (first rest : Answer) : Except Exit (Option Buffer × Receiver κ ζ × Bytes) → Prop
  /-- The packet is not complete. -/
  | waiting {bs stream' : Bytes} {readbuf : Option Buffer} {k' : κ}
      (hstream : stream = bs ++ stream') (hread : Reading rx.keys k (raw ++ bs) readbuf k')
      (hidle : bs = [] → stream = [] ∨ first.transfers = false ∨ rest.transfers = false) :
      ReadOutcome zlib rx k raw stream first rest
        (.ok (none, { rx with readbuf, cipher_state := k' }, stream'))
  | delivered {bs stream' clear body : Bytes} {payload : Buffer} {k' : κ} {z' : ζ}
      (hstream : stream = bs ++ stream')
      (hauth : Authentic rx.keys k rx.recvseq (raw ++ bs) clear k') (hbody : IsBody clear body)
      (hopen : Opened zlib rx.is_compress_recv rx.zstream body (.ok (payload, z'))) :
      ReadOutcome zlib rx k raw stream first rest
        (.ok (some payload, { rx with
          readbuf := none, cipher_state := k', zstream := z', recvseq := add32 rx.recvseq 1,
          datarecv := add32 rx.datarecv (raw ++ bs).length }, stream'))
  | block_not_decrypted {bs stream' : Bytes} (hstream : stream = bs ++ stream')
      (hlen : (raw ++ bs).length = rx.keys.blocksize) (hcrypt : rx.keys.crypt (raw ++ bs) k = none) :
      ReadOutcome zlib rx k raw stream first rest (.error (.dropbear_exit "Error decrypting"))
  | rest_not_decrypted {bs stream' : Bytes} (hstream : stream = bs ++ stream')
      (hfail : FrameFails rx.keys k (raw ++ bs)) :
      ReadOutcome zlib rx k raw stream first rest (.error (.dropbear_exit "Error decrypting"))
  | bad_length {bs stream' head : Bytes} {k' : κ} (hstream : stream = bs ++ stream')
      (hlen : (raw ++ bs).length = rx.keys.blocksize)
      (hcrypt : rx.keys.crypt (raw ++ bs) k = some (head, k'))
      (hbad : BadLength rx.keys (ofBytes (head.take 4))) :
      ReadOutcome zlib rx k raw stream first rest
        (.error (.dropbear_exit "Integrity error (bad packet size %u)"))
  | not_authentic {bs stream' clear : Bytes} {k' : κ} (hstream : stream = bs ++ stream')
      (hframe : Frame rx.keys k (raw ++ bs) clear k')
      (hmac : rx.keys.mac rx.recvseq clear ≠ (raw ++ bs).drop clear.length) :
      ReadOutcome zlib rx k raw stream first rest (.error (.dropbear_exit "Integrity error"))
  | bad_payload {bs stream' clear : Bytes} {k' : κ} (hstream : stream = bs ++ stream')
      (hauth : Authentic rx.keys k rx.recvseq (raw ++ bs) clear k') (hbad : BadPayload clear) :
      ReadOutcome zlib rx k raw stream first rest (.error (.dropbear_exit "Bad packet size %u"))
  | not_inflated {bs stream' clear body : Bytes} {k' : κ} {e : Exit}
      (hstream : stream = bs ++ stream')
      (hauth : Authentic rx.keys k rx.recvseq (raw ++ bs) clear k') (hbody : IsBody clear body)
      (hopen : Opened zlib rx.is_compress_recv rx.zstream body (.error e)) :
      ReadOutcome zlib rx k raw stream first rest (.error e)
  | closed (h : first = .closed ∨ rest = .closed) :
      ReadOutcome zlib rx k raw stream first rest (.error (.dropbear_close "Exited normally"))
  | failed (h : first = .error ∨ rest = .error) :
      ReadOutcome zlib rx k raw stream first rest (.error (.dropbear_exit "Error reading: %s"))

theorem payloadOf_cases (clear : Bytes) :
    (BadPayload clear ∧ payloadOf clear = dropbear_exit "Bad packet size %u") ∨
      ∃ inner, payloadOf clear = .ok inner ∧ IsBody clear inner ∧
        PACKET_PAYLOAD_OFF + inner.length ≤ clear.length ∧ 1 ≤ inner.length ∧
        inner.length ≤ RECV_MAX_PAYLOAD_LEN + ZLIB_COMPRESS_EXPANSION := by
  unfold payloadOf
  by_cases hbad : BadPayload clear
  · exact .inl ⟨hbad, if_pos hbad⟩
  have hgood := not_or.mp hbad
  obtain ⟨n, hn⟩ : ∃ n, n = clear.length - (clear.getD 4 0).toNat - 4 - 1 := ⟨_, rfl⟩
  have hlen : ((clear.drop 5).take n).length = n := by
    rw [List.length_take, List.length_drop]
    omega
  refine .inr ⟨(clear.drop 5).take n, hn ▸ if_neg hbad, ⟨?_, clear.take 4, clear.getD 4 0,
    clear.drop (5 + n), ?_, ?_, ?_⟩, ?_⟩
  · intro hnil
    rw [hnil, List.length_nil] at hlen
    omega
  · have h4 : clear.getD 4 0 :: clear.drop 5 = clear.drop 4 := by
      rw [List.drop_eq_getElem_cons (i := 4) (by omega), List.getD_eq_getElem?_getD,
        List.getElem?_eq_getElem (by omega), Option.getD_some]
    rw [List.append_assoc, ← List.drop_drop, List.take_append_drop, List.append_assoc,
      List.singleton_append, h4, List.take_append_drop]
  · rw [List.length_take]
    omega
  · rw [List.length_drop]
    omega
  · show 5 + ((clear.drop 5).take n).length ≤ _ ∧ _
    omega

/-! ### A complete packet -/

/-- The decoder's view of a complete packet, and why it is refused. -/
theorem openBody_cases {block more head : Bytes} {k₁ : κ} {len : Nat} (hs : keys.Sizes)
    (hblock : block.length = keys.blocksize)
    (hheader : openHeader keys k block = .ok (head, k₁, len))
    (hlen : block.length + more.length = len) (seqno : Nat) :
    (FrameFails keys k (block ++ more) ∧
        openBody keys k₁ seqno head more = dropbear_exit "Error decrypting") ∨
      ∃ clear k', Frame keys k (block ++ more) clear k' ∧
        ((keys.mac seqno clear ≠ (block ++ more).drop clear.length ∧
            openBody keys k₁ seqno head more = dropbear_exit "Integrity error") ∨
          Authentic keys k seqno (block ++ more) clear k' ∧
            ((BadPayload clear ∧
                openBody keys k₁ seqno head more = dropbear_exit "Bad packet size %u") ∨
              ∃ inner, openBody keys k₁ seqno head more = .ok (inner, k') ∧ IsBody clear inner ∧
                PACKET_PAYLOAD_OFF + inner.length ≤ clear.length ∧ 1 ≤ inner.length ∧
                inner.length ≤ RECV_MAX_PAYLOAD_LEN + ZLIB_COMPRESS_EXPANSION)) := by
  have hpos := hs.block_pos
  have hle := hs.block_le
  obtain ⟨hcrypt, hframe⟩ := openHeader_ok.mp hheader
  obtain ⟨hexact, hmax, hmin, -⟩ := frameLength_ok.mp hframe
  have hhead : head.length = keys.blocksize := hblock ▸ keys.crypt_length _ _ _ _ hcrypt
  have h16 : MIN_PACKET_LEN = 16 := rfl
  have hraw : (block ++ more).length = len := by rw [List.length_append, hlen]
  have hfirst : keys.crypt ((block ++ more).take keys.blocksize) k = some (head, k₁) := by
    rwa [← hblock, List.take_left]
  obtain ⟨n, hn⟩ : ∃ n, n = more.length - keys.hashsize := ⟨_, rfl⟩
  have hmore : ((block ++ more).drop keys.blocksize).take
      ((block ++ more).length - keys.blocksize - keys.hashsize) = more.take n := by
    rw [← hblock, List.drop_left, hraw, ← hlen, Nat.add_sub_cancel_left, ← hn]
  unfold openBody
  simp only [← hn]
  cases htail : keys.crypt (more.take n) k₁ with
  | none =>
    refine .inl ⟨⟨by omega, head, k₁, hfirst, hraw.trans hexact, ?_⟩, rfl⟩
    rw [hmore]
    exact htail
  | some out =>
    obtain ⟨tail, k'⟩ := out
    have htaillen : tail.length = n := by
      rw [keys.crypt_length _ _ _ _ htail, List.length_take]
      omega
    have hclear : (head ++ tail).length = keys.blocksize + n := by
      rw [List.length_append, hhead, htaillen]
    have hframe : Frame keys k (block ++ more) (head ++ tail) k' := by
      refine ⟨by omega, ⟨head, tail, k₁, rfl, hfirst, ?_⟩, ?_, ?_, ?_⟩
      · rw [hmore]
        exact htail
      · rw [hraw, List.take_append_of_le_length (by omega)]
        exact hexact
      · rw [hraw]
        exact hmax
      · rw [hraw, hclear]
        omega
    have hdrop : (block ++ more).drop (head ++ tail).length = more.drop n := by
      rw [hclear, ← hblock, List.drop_append, List.drop_eq_nil_of_le (by omega), List.nil_append,
        Nat.add_sub_cancel_left]
    refine .inr ⟨head ++ tail, k', hframe, ?_⟩
    rw [hdrop]
    by_cases hmac : keys.mac seqno (head ++ tail) = more.drop n
    · have hauth : Authentic keys k seqno (block ++ more) (head ++ tail) k' :=
        ⟨hframe, hmac.trans hdrop.symm⟩
      simp only [if_pos hmac]
      rcases payloadOf_cases (head ++ tail) with ⟨hbad, hexit⟩ | ⟨inner, hok, hbody⟩
      · exact .inr ⟨hauth, .inl ⟨hbad, by rw [hexit]; rfl⟩⟩
      · exact .inr ⟨hauth, .inr ⟨inner, by rw [hok]; rfl, hbody⟩⟩
    · exact .inl ⟨hmac, if_neg hmac⟩

theorem decrypt_packet_outcome {block more bs : Bytes} {b : Buffer} {len : Nat}
    (hs : rx.keys.Sizes) (hin : InRest rx.keys k block more (some b) rx.cipher_state len)
    (hfull : block.length + more.length = len) (hraw : raw ++ bs = block ++ more)
    (hstream : stream = bs ++ stream') :
    ReadOutcome zlib rx k raw stream first rest
      (decrypt_packet zlib rx b >>= fun r => pure (some r.1, r.2, stream')) := by
  obtain ⟨hblock, -, head, hheader, b', d, hsome, hb, hd⟩ := hin
  cases hsome
  obtain ⟨hcrypt, hframe⟩ := openHeader_ok.mp hheader
  obtain ⟨-, hmax, hmin, -⟩ := frameLength_ok.mp hframe
  have hhead : head.length = rx.keys.blocksize := hblock ▸ rx.keys.crypt_length _ _ _ _ hcrypt
  rw [hfull] at hb hd
  have hdec := decryptBody_is hs hb hmax hhead hd hmin
  have hrefused : ∀ e, openBody rx.keys rx.cipher_state rx.recvseq head more = .error e →
      decryptBody rx b = .error e := by
    intro e he
    rcases hdec with ⟨e', he', hexit⟩ | ⟨inner, k', b', d', hok, -⟩
    · rw [he] at he'
      cases he'
      exact hexit
    · rw [he] at hok
      cases hok
  unfold decrypt_packet
  rcases openBody_cases hs hblock hheader hfull rx.recvseq with
    ⟨hfail, hexit⟩ | ⟨clear, k', hframe, ⟨hmac, hexit⟩ |
      ⟨hauth, ⟨hbad, hexit⟩ | ⟨inner, hok, hbody, hle, -, hsize⟩⟩⟩
  · rw [hrefused _ hexit]
    rw [← hraw] at hfail
    exact .rest_not_decrypted hstream hfail
  · rw [hrefused _ hexit]
    rw [← hraw] at hframe hmac
    exact .not_authentic hstream hframe hmac
  · rw [hrefused _ hexit]
    rw [← hraw] at hauth
    exact .bad_payload hstream hauth hbad
  · rcases hdec with ⟨e, he, -⟩ | ⟨inner', k'', b₁, d₁, hok', hdone, hb₁, hinner⟩
    · rw [hok] at he
      cases he
    rw [hok] at hok'
    cases hok'
    have hclear := hauth.length_clear
    rw [List.length_append] at hclear
    have hopen : Opened zlib rx.is_compress_recv rx.zstream inner _ :=
      openPayload_opened hb₁ hinner (by omega) hsize hmax
    rw [← hraw] at hauth
    simp only [hdone, ok_bind]
    generalize openPayload zlib rx b₁ inner.length = x at hopen ⊢
    cases x with
    | error e => exact .not_inflated hstream hauth hbody hopen
    | ok r =>
      have hlen : b.len = (raw ++ bs).length := by
        rw [hb.len_eq, hraw, List.length_append, hfull]
      rw [hlen]
      exact .delivered hstream hauth hbody hopen

/-! ### One call -/

theorem openHeader_error {block : Bytes} {e : Exit} (h : openHeader keys k block = .error e) :
    (keys.crypt block k = none ∧ e = .dropbear_exit "Error decrypting") ∨
      ∃ head k', keys.crypt block k = some (head, k') ∧ BadLength keys (ofBytes (head.take 4)) ∧
        e = .dropbear_exit "Integrity error (bad packet size %u)" := by
  unfold openHeader at h
  cases hcrypt : keys.crypt block k with
  | none =>
    rw [hcrypt] at h
    cases h
    exact .inl ⟨rfl, rfl⟩
  | some out =>
    rw [hcrypt] at h
    refine .inr ⟨out.1, out.2, rfl, ?_⟩
    by_cases hbad : BadLength keys (ofBytes (out.1.take 4))
    · have hlen : frameLength keys out.1 = dropbear_exit "Integrity error (bad packet size %u)" :=
        if_pos hbad
      simp only [hlen] at h
      cases h
      exact ⟨hbad, rfl⟩
    · have hlen : frameLength keys out.1 = .ok (ofBytes (out.1.take 4) + 4 + keys.hashsize) :=
        if_neg hbad
      simp only [hlen] at h
      cases h

theorem ReadOutcome.forget {readbuf : Option Buffer} {c : κ}
    {x : Except Exit (Option Buffer × Receiver κ ζ × Bytes)}
    (h : ReadOutcome zlib { rx with readbuf, cipher_state := c } k raw stream first rest x) :
    ReadOutcome zlib rx k raw stream first rest x := by
  cases h with
  | waiting hstream hread hidle => exact .waiting hstream hread hidle
  | delivered hstream hauth hbody hopen => exact .delivered hstream hauth hbody hopen
  | block_not_decrypted hstream hlen hcrypt => exact .block_not_decrypted hstream hlen hcrypt
  | rest_not_decrypted hstream hfail => exact .rest_not_decrypted hstream hfail
  | bad_length hstream hlen hcrypt hbad => exact .bad_length hstream hlen hcrypt hbad
  | not_authentic hstream hframe hmac => exact .not_authentic hstream hframe hmac
  | bad_payload hstream hauth hbad => exact .bad_payload hstream hauth hbad
  | not_inflated hstream hauth hbody hopen => exact .not_inflated hstream hauth hbody hopen
  | closed h => exact .closed h
  | failed h => exact .failed h

/-- What was read before in the same call. -/
theorem ReadOutcome.prepend {bs : Bytes} {x : Except Exit (Option Buffer × Receiver κ ζ × Bytes)}
    (hstream : stream = bs ++ stream')
    (h : ReadOutcome zlib rx k (raw ++ bs) stream' first rest x) :
    ReadOutcome zlib rx k raw stream first rest x := by
  have happend : ∀ {more rest' : Bytes}, stream' = more ++ rest' →
      stream = (bs ++ more) ++ rest' := by
    rintro more rest' rfl
    rw [hstream, List.append_assoc]
  cases h with
  | waiting hs' hread hidle =>
    rw [List.append_assoc] at hread
    refine .waiting (happend hs') hread fun hnil => ?_
    obtain ⟨rfl, hmore⟩ := List.append_eq_nil_iff.mp hnil
    exact hstream ▸ hidle hmore
  | delivered hs' hauth hbody hopen =>
    rw [List.append_assoc] at hauth ⊢
    exact .delivered (happend hs') hauth hbody hopen
  | block_not_decrypted hs' hlen hcrypt =>
    rw [List.append_assoc] at hlen hcrypt
    exact .block_not_decrypted (happend hs') hlen hcrypt
  | rest_not_decrypted hs' hfail =>
    rw [List.append_assoc] at hfail
    exact .rest_not_decrypted (happend hs') hfail
  | bad_length hs' hlen hcrypt hbad =>
    rw [List.append_assoc] at hlen hcrypt
    exact .bad_length (happend hs') hlen hcrypt hbad
  | not_authentic hs' hframe hmac =>
    rw [List.append_assoc] at hframe hmac
    exact .not_authentic (happend hs') hframe hmac
  | bad_payload hs' hauth hbad =>
    rw [List.append_assoc] at hauth
    exact .bad_payload (happend hs') hauth hbad
  | not_inflated hs' hauth hbody hopen =>
    rw [List.append_assoc] at hauth
    exact .not_inflated (happend hs') hauth hbody hopen
  | closed h => exact .closed h
  | failed h => exact .failed h

theorem read_packet_rest_outcome {block more : Bytes} {len : Nat} (hs : rx.keys.Sizes)
    (hin : InRest rx.keys k block more rx.readbuf rx.cipher_state len) :
    ReadOutcome zlib rx k (block ++ more) stream first rest
      (read_packet_rest zlib rx stream rest) := by
  obtain ⟨hblock, hle, head, hheader, b, d, hsome, hb, hd⟩ := hin
  obtain ⟨-, hframe⟩ := openHeader_ok.mp hheader
  obtain ⟨-, hmax, -, -⟩ := frameLength_ok.mp hframe
  have hbound : RECV_MAX_PACKET_LEN = 35000 := rfl
  have hmaxlen : sub32 b.len b.pos = len - (block.length + more.length) := by
    rw [hb.len_eq, hb.pos_eq, sub32_of_le hle (by omega)]
  unfold read_packet_rest
  simp only [hsome, hmaxlen]
  by_cases hzero : len - (block.length + more.length) = 0
  · rw [if_pos hzero]
    have hraw : (block ++ more) ++ [] = block ++ more := List.append_nil _
    exact decrypt_packet_outcome hs ⟨hblock, hle, head, hheader, b, d, rfl, hb, hd⟩ (by omega) hraw
      rfl
  rw [if_neg hzero, buf_getptr_is hb (by omega), ok_bind]
  rcases read_cases stream (len - (block.length + more.length)) rest with
    ⟨bs, stream', hstream, hnil, hbs, hread⟩ | ⟨hidle, hread⟩ | ⟨rfl, hread⟩ | ⟨rfl, hread⟩
  · rw [hread]
    have hdl := hb.len_le
    obtain ⟨b₁, hstore, hb₁⟩ := store_is bs hb (by omega)
    obtain ⟨b₂, hincr, hb₂⟩ := buf_incrpos_is (n := bs.length) hb₁ (by omega)
    have htake := take_overwrite_end bs (p := block.length + more.length) (l := d) (by omega)
    rw [hd, List.append_assoc] at htake
    have hlen : block.length + more.length + bs.length = block.length + (more ++ bs).length := by
      rw [List.length_append]
      omega
    rw [hlen] at hb₂ htake
    have hin : InRest rx.keys k block (more ++ bs) (some b₂) rx.cipher_state len :=
      ⟨hblock, by omega, head, hheader, b₂, _, rfl, hb₂, htake⟩
    simp only [hstore, ok_bind, hincr]
    by_cases hfull : bs.length = len - (block.length + more.length)
    · rw [if_pos hfull]
      have hout : ReadOutcome zlib { rx with readbuf := some b₂ } k (block ++ more) stream first
          rest _ := decrypt_packet_outcome hs hin (by omega) (List.append_assoc _ _ _) hstream
      exact hout.forget
    · rw [if_neg hfull]
      refine .waiting hstream ?_ (absurd · hnil)
      rw [List.append_assoc]
      exact .rest hin (by omega)
  · rw [hread]
    have hread : Reading rx.keys k ((block ++ more) ++ []) rx.readbuf rx.cipher_state := by
      rw [List.append_nil]
      exact .rest ⟨hblock, hle, head, hheader, b, d, hsome, hb, hd⟩ (by omega)
    refine .waiting rfl hread fun _ => ?_
    rcases hidle with h | h | h
    · exact absurd h hzero
    · exact .inl h
    · exact .inr (.inr h)
  · rw [hread]
    exact .closed (.inr rfl)
  · rw [hread]
    exact .failed (.inr rfl)

theorem InFirst.inFirstBlock (hin : InFirst rx.keys raw rx.readbuf) : rx.inFirstBlock = true := by
  obtain ⟨hlt, ⟨hnone, -⟩ | ⟨b, d, hsome, hb, -⟩⟩ := hin
  · rw [Receiver.inFirstBlock, hnone]
  · rw [Receiver.inFirstBlock, hsome]
    show decide (b.len < rx.keys.blocksize) = true
    rw [hb.len_eq]
    exact decide_eq_true hlt

theorem InRest.not_inFirstBlock {block more : Bytes} {len : Nat}
    (hin : InRest rx.keys k block more rx.readbuf k' len) : rx.inFirstBlock = false := by
  obtain ⟨hblock, hle, head, -, b, d, hsome, hb, -⟩ := hin
  rw [Receiver.inFirstBlock, hsome]
  show decide (b.len < rx.keys.blocksize) = false
  rw [hb.len_eq]
  exact decide_eq_false (by omega)

/-- **One call of `read_packet`**, from any point within a packet. -/
theorem read_packet_outcome (hs : rx.keys.Sizes)
    (hread : Reading rx.keys k raw rx.readbuf rx.cipher_state) :
    ReadOutcome zlib rx k raw stream first rest (read_packet zlib rx stream first rest) := by
  unfold read_packet read_packet_first
  generalize hc : rx.cipher_state = c at hread
  cases hread with
  | first hin =>
    have hinit := read_packet_init_outcome hs hin stream first
    rw [if_pos hin.inFirstBlock]
    generalize read_packet_init rx stream first = x at hinit ⊢
    cases hinit with
    | more hstream hin hidle =>
      refine .waiting hstream ?_ fun h => (hidle h).imp_right .inl
      rw [hc]
      exact .first hin
    | @header bs stream' readbuf k₁ len hstream hin =>
      rw [hc] at hin
      have hout : ReadOutcome zlib { rx with readbuf, cipher_state := k₁ } k ((raw ++ bs) ++ [])
          stream' first rest _ := read_packet_rest_outcome hs hin
      rw [List.append_nil] at hout
      exact hout.forget.prepend hstream
    | refused hstream hlen he =>
      rw [hc] at he
      rcases openHeader_error he with ⟨hnone, rfl⟩ | ⟨head, k', hsome, hbad, rfl⟩
      · exact .block_not_decrypted hstream hlen hnone
      · exact .bad_length hstream hlen hsome hbad
    | closed ha => exact .closed (.inl ha)
    | failed ha => exact .failed (.inl ha)
  | rest hin hlt =>
    rw [if_neg (by rw [hin.not_inFirstBlock]; exact Bool.false_ne_true)]
    rw [← hc] at hin
    exact read_packet_rest_outcome hs hin

/-! ### A connection -/

theorem Reading.length_lt (hs : keys.Sizes) {readbuf : Option Buffer}
    (h : Reading keys k raw readbuf k') : raw.length < RECV_MAX_PACKET_LEN := by
  have hle := hs.block_le
  have hmax : RECV_MAX_PACKET_LEN = 35000 := rfl
  cases h with
  | first hin =>
    have := hin.1
    omega
  | rest hin hlt =>
    obtain ⟨-, -, head, hheader, -⟩ := hin
    obtain ⟨-, hbound, -, -⟩ := frameLength_ok.mp (openHeader_ok.mp hheader).2
    rw [List.length_append]
    omega

/-- Without `ses.readbuf` nothing of a packet has been read. -/
theorem Reading.of_none (h : Reading keys k raw none k') : raw = [] := by
  cases h with
  | first hin =>
    obtain ⟨-, ⟨-, hnil⟩ | ⟨b, d, hsome, -⟩⟩ := hin
    · exact hnil
    · cases hsome
  | rest hin hlt =>
    obtain ⟨-, -, head, -, b, d, hsome, -⟩ := hin
    cases hsome

theorem Reading.start (hs : keys.Sizes) : Reading keys k [] none k :=
  .first ⟨Nat.lt_of_lt_of_le (by decide) hs.block_pos, .inl ⟨rfl, rfl⟩⟩

/-- New keys have the sizes there are. -/
def Inbound.Event.Sizes : Inbound.Event κ ζ → Prop
  | .switched keys _ _ _ => keys.Sizes
  | _ => True

/-- What holds between the calls. -/
structure Inbound.Inv (s : Inbound κ ζ) : Prop where
  sizes : s.rx.keys.Sizes
  reading : Reading s.rx.keys s.start s.held s.rx.readbuf s.rx.cipher_state
  tries_le : s.tries ≤ s.held.length

theorem Inbound.Inv.init (hs : rx.keys.Sizes) : (Inbound.init rx).Inv :=
  ⟨hs, Reading.start hs, Nat.le_refl _⟩

/-- One call keeps the invariant. -/
theorem Inbound.Inv.after {s : Inbound κ ζ} (hinv : s.Inv)
    {x : Except Exit (Option Buffer × Receiver κ ζ × Bytes)}
    (h : ReadOutcome zlib s.rx s.start s.held s.stream first rest x) :
    (s.after first rest x).Inv := by
  cases x with
  | error e => exact ⟨hinv.sizes, hinv.reading, hinv.tries_le⟩
  | ok r =>
    cases h with
    | delivered hstream hauth hbody hopen =>
      exact ⟨hinv.sizes, Reading.start hinv.sizes, Nat.le_refl _⟩
    | @waiting bs stream' readbuf k' hstream hread hidle =>
      have htake : s.stream.take (s.stream.length - stream'.length) = bs := by
        rw [hstream, List.length_append, Nat.add_sub_cancel, List.take_left]
      refine ⟨hinv.sizes, ?_, ?_⟩
      · show Reading s.rx.keys s.start (s.held ++ s.stream.take _) readbuf k'
        rwa [htake]
      · have htries := hinv.tries_le
        show (if s.stream ≠ [] ∧ first.transfers ∧ rest.transfers then s.tries + 1 else s.tries) ≤
          (s.held ++ s.stream.take _).length
        rw [htake, List.length_append]
        by_cases htry : s.stream ≠ [] ∧ first.transfers ∧ rest.transfers
        · rw [if_pos htry]
          have hbs : bs ≠ [] := by
            intro hnil
            rcases hidle hnil with h | h | h
            · exact htry.1 h
            · exact Bool.false_ne_true (h.symm.trans htry.2.1)
            · exact Bool.false_ne_true (h.symm.trans htry.2.2)
          have := List.length_pos_of_ne_nil hbs
          omega
        · rw [if_neg htry]
          omega

theorem Inbound.Inv.next {s t : Inbound κ ζ} {e : Inbound.Event κ ζ} (hinv : s.Inv)
    (h : guarded (ofFun (Inbound.step zlib)) (fun _ e => e.Sizes) s e t) : t.Inv := by
  obtain ⟨hsizes, hstep⟩ := h
  cases e with
  | arrive bs =>
    cases hstep
    exact ⟨hinv.sizes, hinv.reading, hinv.tries_le⟩
  | read_packet first rest =>
    by_cases hexit : s.exit.isSome = true
    · cases (if_pos hexit).symm.trans hstep
    · cases (if_neg hexit).symm.trans hstep
      exact hinv.after (read_packet_outcome hinv.sizes hinv.reading)
  | switched keys cipher_state is_compress_recv zstream =>
    by_cases hbuf : s.rx.readbuf.isSome = true
    · cases (if_pos hbuf).symm.trans hstep
    · have hnone : s.rx.readbuf = none := Option.not_isSome_iff_eq_none.mp hbuf
      have hread := hinv.reading
      rw [hnone] at hread
      have hheld := hread.of_none
      cases (if_neg hbuf).symm.trans hstep
      refine ⟨hsizes, ?_, hinv.tries_le⟩
      show Reading keys cipher_state s.held s.rx.readbuf cipher_state
      rw [hheld, hnone]
      exact Reading.start hsizes

/-- **Whatever the peer sends**, however it is cut into reads: a call of `read_packet` waits for the
rest of a packet, delivers the payload of a packet whose MAC was verified, or ends the connection for
one of the reasons of `ReadOutcome`. It does not go on waiting for ever: with every call that has
something to read the packet gets longer, and no packet is longer than `RECV_MAX_PACKET_LEN`. -/
theorem received_outcome {s : Inbound κ ζ} {es : List (Inbound.Event κ ζ)}
    (hsizes : rx.keys.Sizes) (hswitched : ∀ e ∈ es, e.Sizes)
    (hrun : Run (ofFun (Inbound.step zlib)) (Inbound.init rx) es s) :
    s.tries < RECV_MAX_PACKET_LEN ∧ ∀ first rest,
      ReadOutcome zlib s.rx s.start s.held s.stream first rest
        (read_packet zlib s.rx s.stream first rest) := by
  have hinv : s.Inv := (hrun.guard_events hswitched).invariant
    (fun _ _ _ hi hs => hi.next hs) (.init hsizes)
  have hheld := hinv.reading.length_lt hinv.sizes
  have htries := hinv.tries_le
  exact ⟨by omega, fun first rest => read_packet_outcome hinv.sizes hinv.reading⟩

/-- The keys a session starts with: `dropbear_nocipher` and `dropbear_nohash`. -/
def nocipherKeys : Keys Unit where
  blocksize := 8
  hashsize := 0
  crypt bs k := some (bs, k)
  hmac _ := []
  crypt_length bs k out k' h := by cases h; rfl
  hmac_length _ := Nat.zero_le _

theorem nocipherKeys_sizes : nocipherKeys.Sizes := ⟨.inl rfl, Nat.zero_le _⟩

/-- A `zlib` that fails on any input. -/
def failingZlib : Zlib Unit where
  inflate z _ _ := { result := .failed, used := 0, out := [], state := z }
  used_le _ _ _ := Nat.zero_le _
  out_le _ _ _ := Nat.zero_le _
  stops _ _ _ h := absurd rfl h

/-- A receiver at the beginning of a session. -/
def freshReceiver : Receiver Unit Unit where
  keys := nocipherKeys
  cipher_state := ()
  is_compress_recv := false
  zstream := ()
  recvseq := 0
  datarecv := 0

/-- An `SSH_MSG_IGNORE` with an empty string, in two pieces. -/
def ignoreEvents : List (Inbound.Event Unit Unit) :=
  [.arrive [0, 0, 0, 12, 6, 2, 0, 0, 0, 0], .read_packet (.bytes 4) (.bytes 4),
    .read_packet (.bytes 4) (.bytes 4), .arrive [1, 2, 3, 4, 5, 6],
    .read_packet (.bytes 4) (.bytes 6)]

theorem received_outcome_ignore : ∃ s : Inbound Unit Unit,
    Run (ofFun (Inbound.step failingZlib)) (Inbound.init freshReceiver) ignoreEvents s ∧
      s.rx.recvseq = 1 ∧ s.tries < RECV_MAX_PACKET_LEN ∧ ∀ first rest,
        ReadOutcome failingZlib s.rx s.start s.held s.stream first rest
          (read_packet failingZlib s.rx s.stream first rest) := by
  have hexec : (exec (Inbound.step failingZlib) (Inbound.init freshReceiver) ignoreEvents).any
      (fun s => s.rx.recvseq == 1) = true := by
    decide +kernel
  obtain ⟨s, hs, hseq⟩ := (Option.any_eq_true _ _).mp hexec
  have hrun := run_of_exec hs
  have hevents : ∀ e ∈ ignoreEvents, e.Sizes := by
    simp [ignoreEvents, Inbound.Event.Sizes]
  obtain ⟨htries, hcall⟩ := received_outcome nocipherKeys_sizes hevents hrun
  exact ⟨s, hrun, beq_iff_eq.mp hseq, htries, hcall⟩

/-! ### With compression there are more exits -/

/-- The exits of a receiver without compression, whose reads do not fail. -/
def plainExits : List Exit :=
  [.dropbear_exit "Integrity error (bad packet size %u)", .dropbear_exit "Integrity error",
    .dropbear_exit "Bad packet size %u", .dropbear_exit "Error decrypting",
    .dropbear_close "Exited normally"]

/-- AES-128 in counter mode: the key stream for the key `2b7e151628aed2a6abf7158809cf4f3c` and the
counter `f0f1f2f3f4f5f6f7f8f9fafbfcfdfeff`, as far as it is used. -/
def ctrStream : Bytes :=
  [0xec, 0x8c, 0xdf, 0x73, 0x98, 0x60, 0x7c, 0xb0, 0xf2, 0xd2, 0x16, 0x75, 0xea, 0x9e, 0xa1, 0xe4]

/-- A packet with the sequence number 11, whose payload is `ff ff`. -/
def notZlibClear : Bytes := [0, 0, 0, 12, 9, 0xff, 0xff, 1, 2, 3, 4, 5, 6, 7, 8, 9]

/-- Its MAC: HMAC-SHA2-256 with the key `00 01 .. 1f`. -/
def notZlibMac : Bytes :=
  [0x4e, 0x6a, 0xc7, 0x21, 0xaa, 0x10, 0x6a, 0x35, 0x20, 0x87, 0x1e, 0xd3, 0xbf, 0xbf, 0x41, 0x07,
    0xce, 0x3a, 0x83, 0x49, 0x5f, 0x0a, 0xb7, 0xc0, 0x52, 0x2c, 0xfb, 0x7a, 0x97, 0x86, 0x5e, 0x9a]

/-- The cipher state is the number of bytes of key stream used. -/
def ctrKeys : Keys Nat where
  blocksize := 16
  hashsize := 32
  crypt bs used := some (bs.mapIdx fun i b => b ^^^ ctrStream.getD (used + i) 0, used + bs.length)
  hmac msg := if msg = be32 11 ++ notZlibClear then notZlibMac else List.replicate 32 0
  crypt_length bs k out k' h := by cases h; exact List.length_mapIdx
  hmac_length msg := by
    by_cases h : msg = be32 11 ++ notZlibClear
    · rw [if_pos h]
      decide
    · rw [if_neg h]
      decide

/-- A receiver after the user has authenticated, with delayed compression. -/
def compressedReceiver : Receiver Nat Unit where
  keys := ctrKeys
  cipher_state := 0
  is_compress_recv := true
  zstream := ()
  recvseq := 11
  datarecv := 0

def notZlibPacket : Bytes :=
  [0xec, 0x8c, 0xdf, 0x7f, 0x91, 0x9f, 0x83, 0xb1, 0xf0, 0xd1, 0x12, 0x70, 0xec, 0x99, 0xa9, 0xed] ++
    notZlibMac

/-- The peer sends a packet whose MAC is right and whose payload is no `zlib` stream. -/
theorem exits_when_not_zlib : ∃ s : Inbound Nat Unit,
    Run (ofFun (Inbound.step failingZlib)) (Inbound.init compressedReceiver)
        [.arrive notZlibPacket, .read_packet (.bytes 16) (.bytes 32)] s ∧
      s.exit = some (.dropbear_exit "zlib error") ∧
      Exit.dropbear_exit "zlib error" ∉ plainExits := by
  have hexec : (exec (Inbound.step failingZlib) (Inbound.init compressedReceiver)
      [.arrive notZlibPacket, .read_packet (.bytes 16) (.bytes 32)]).any
      (fun s => s.exit == some (.dropbear_exit "zlib error")) = true := by
    decide +kernel
  obtain ⟨s, hs, hexit⟩ := (Option.any_eq_true _ _).mp hexec
  exact ⟨s, run_of_exec hs, beq_iff_eq.mp hexit, by decide⟩

end SimpleSshd.Dropbear.Wire
