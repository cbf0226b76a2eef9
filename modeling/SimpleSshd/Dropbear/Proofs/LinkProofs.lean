import SimpleSshd.Dropbear.Link
import SimpleSshd.Dropbear.Proofs.SendProofs

/-!
# Proofs: the packets of one direction arrive

The bytes held by the receiver, those on the wire and those on the write queue are together a stream of
sealed packets, whose payloads are those submitted and not yet delivered. Sealing a payload makes the
stream longer at its end, reading takes packets off its front; writing does not change it.
-/

namespace SimpleSshd.Dropbear.Wire

open Fallible Framing Runs

variable {κ κ' ζ : Type} {keys : Keys κ'} {zlib : Zlib ζ} {R : κ → κ' → Prop}

/-! ### Streams of packets -/

/-- The packets `raws` have the payloads `payloads`; they take the receiver from the cipher state and
the sequence number it is in to those at the end. -/
inductive Stream (keys : Keys κ') : κ' → Nat → List Bytes → List Bytes → κ' → Nat → Prop
  | nil (k : κ') (seqno : Nat) : Stream keys k seqno [] [] k seqno
  | cons {k k₁ k₂ : κ'} {seqno seqno₂ : Nat} {raw payload : Bytes} {raws payloads : List Bytes}
      (hpacket : Sealed keys k seqno raw payload k₁)
      (hrest : Stream keys k₁ (add32 seqno 1) raws payloads k₂ seqno₂) :
      Stream keys k seqno (raw :: raws) (payload :: payloads) k₂ seqno₂

theorem Stream.payloads_nil {k k' : κ'} {seqno seqno' : Nat} {payloads : List Bytes}
    (h : Stream keys k seqno [] payloads k' seqno') : payloads = [] := by
  cases h with
  | nil => rfl

theorem Stream.snoc {k k₁ k₂ : κ'} {seqno seqno₁ : Nat} {raws payloads : List Bytes}
    {raw payload : Bytes} (h : Stream keys k seqno raws payloads k₁ seqno₁)
    (hpacket : Sealed keys k₁ seqno₁ raw payload k₂) :
    Stream keys k seqno (raws ++ [raw]) (payloads ++ [payload]) k₂ (add32 seqno₁ 1) := by
  induction h with
  | nil k seqno => exact .cons hpacket (.nil _ _)
  | cons hfirst _ ih => exact .cons hfirst (ih hpacket)

/-! ### There is one way to read a stream -/

variable {k k₁ k₂ : κ'} {raw raw' clear clear' : Bytes}

theorem take_eq_of_begins {n : Nat} {xs ys zs : Bytes} (hx : xs <+: zs) (hy : ys <+: zs)
    (hxn : n ≤ xs.length) (hyn : n ≤ ys.length) : xs.take n = ys.take n := by
  obtain ⟨x', rfl⟩ := hx
  obtain ⟨y', hy⟩ := hy
  have htake := congrArg (List.take n) hy
  rw [List.take_append_of_le_length hyn, List.take_append_of_le_length hxn] at htake
  exact htake.symm

/-- Two packets at the beginning of the same bytes are the same. -/
theorem Frame.unique {all : Bytes} (hs : keys.Sizes) (h : Frame keys k raw clear k₁)
    (h' : Frame keys k raw' clear' k₂) (hraw : raw <+: all) (hraw' : raw' <+: all) :
    raw = raw' ∧ clear = clear' ∧ k₁ = k₂ := by
  have hpos := hs.block_pos
  obtain ⟨hle, ⟨head, tail, kh, rfl, hhead, htail⟩, hlen, -, -⟩ := h
  obtain ⟨hle', ⟨head', tail', kh', rfl, hhead', htail'⟩, hlen', -, -⟩ := h'
  rw [take_eq_of_begins hraw hraw' hle hle', hhead'] at hhead
  cases hhead
  have hheadlen : head.length = keys.blocksize := by
    rw [keys.crypt_length _ _ _ _ hhead', List.length_take, Nat.min_eq_left hle']
  rw [List.take_append_of_le_length (by omega)] at hlen hlen'
  have hsame : raw.length = raw'.length := hlen.trans hlen'.symm
  have heq := take_eq_of_begins hraw hraw' (Nat.le_refl _) (Nat.le_of_eq hsame)
  rw [List.take_length, hsame, List.take_length] at heq
  subst heq
  rw [htail] at htail'
  cases htail'
  exact ⟨rfl, rfl, rfl⟩

/-- A packet that decrypts is not one on which the cipher fails. -/
theorem Frame.not_fails {all : Bytes} (hs : keys.Sizes) (h : Frame keys k raw clear k₁)
    (h' : FrameFails keys k raw') (hraw : raw <+: all) (hraw' : raw' <+: all) : False := by
  have hpos := hs.block_pos
  obtain ⟨hle, ⟨head, tail, kh, rfl, hhead, htail⟩, hlen, -, -⟩ := h
  obtain ⟨hle', head', kh', hhead', hlen', hfail⟩ := h'
  rw [take_eq_of_begins hraw hraw' hle hle', hhead'] at hhead
  cases hhead
  have hheadlen : head.length = keys.blocksize := by
    rw [keys.crypt_length _ _ _ _ hhead', List.length_take, Nat.min_eq_left hle']
  rw [List.take_append_of_le_length (by omega)] at hlen
  have hsame : raw.length = raw'.length := hlen.trans hlen'.symm
  have heq := take_eq_of_begins hraw hraw' (Nat.le_refl _) (Nat.le_of_eq hsame)
  rw [List.take_length, hsame, List.take_length] at heq
  subst heq
  rw [htail] at hfail
  cases hfail

theorem IsBody.unique {body body' : Bytes} (h : IsBody clear body) (h' : IsBody clear body') :
    body = body' := by
  obtain ⟨-, length, padlen, padding, hclear, hlength, hpad⟩ := h
  obtain ⟨-, length', padlen', padding', hclear', hlength', hpad'⟩ := h'
  have heq := hclear.symm.trans hclear'
  simp only [List.append_assoc, List.singleton_append] at heq
  obtain ⟨-, hrest⟩ := List.append_inj heq (hlength.trans hlength'.symm)
  obtain ⟨rfl, htail⟩ := List.cons.inj hrest
  exact (List.append_inj' htail (hpad.trans hpad'.symm)).1

/-- Less than the packet has been read. -/
theorem Reading.length_lt_sealed {all held payload : Bytes} {seqno : Nat} {readbuf : Option Buffer}
    (hs : keys.Sizes) (h : Reading keys k held readbuf k₁)
    (hsealed : Sealed keys k seqno raw payload k₂) (hheld : held <+: all) (hraw : raw <+: all) :
    held.length < raw.length := by
  have hpos := hs.block_pos
  obtain ⟨clear, hauth, -⟩ := hsealed
  obtain ⟨hle, ⟨head, tail, kh, rfl, hhead, -⟩, hlen, -, -⟩ := hauth.toFrame
  cases h with
  | first hin => exact Nat.lt_of_lt_of_le hin.1 hle
  | @rest block more readbuf k' len hin hlt =>
    obtain ⟨hblock, -, head', hheader, -⟩ := hin
    obtain ⟨hcrypt, hframe⟩ := openHeader_ok.mp hheader
    obtain ⟨hexact, -, -, -⟩ := frameLength_ok.mp hframe
    have hfirst : (block ++ more).take keys.blocksize = block := List.take_left' hblock
    have hsame := take_eq_of_begins hraw hheld hle (by rw [List.length_append]; omega)
    rw [hsame, hfirst, hcrypt] at hhead
    cases hhead
    have hheadlen : head.length = keys.blocksize := hblock ▸ keys.crypt_length _ _ _ _ hcrypt
    rw [List.take_append_of_le_length (by omega)] at hlen
    rw [List.length_append, hlen, ← hexact]
    exact hlt

/-! ### One call of `read_packet` -/

variable {rx : Receiver κ' ζ} {first rest : Answer} {held wire : Bytes}
variable {x : Except Exit (Option Buffer × Receiver κ' ζ × Bytes)}

/-- The kernel neither closes the connection nor reports an error. -/
def Answer.Fair (a : Answer) : Prop := a ≠ .closed ∧ a ≠ .error

/-- The packet is not complete: the receiver waits. -/
def Waits (rx : Receiver κ' ζ) (k : κ') (held wire : Bytes)
    (x : Except Exit (Option Buffer × Receiver κ' ζ × Bytes)) : Prop :=
  ∃ bs wire' readbuf k', wire = bs ++ wire' ∧ Reading rx.keys k (held ++ bs) readbuf k' ∧
    x = .ok (none, { rx with readbuf, cipher_state := k' }, wire')

/-- The packet is read and its payload delivered. -/
def Delivers (rx : Receiver κ' ζ) (held wire raw payload : Bytes) (k₁ : κ')
    (x : Except Exit (Option Buffer × Receiver κ' ζ × Bytes)) : Prop :=
  ∃ bs wire' buf datarecv, wire = bs ++ wire' ∧ held ++ bs = raw ∧ buf.rest = payload ∧
    x = .ok (some buf, { rx with
      readbuf := none, cipher_state := k₁, recvseq := add32 rx.recvseq 1, datarecv }, wire')

/-- Nothing comes of nothing. -/
theorem ReadOutcome.nothing (hs : rx.keys.Sizes) (hfirst : first.Fair) (hrest : rest.Fair)
    (h : ReadOutcome zlib rx k [] [] first rest x) : Waits rx k [] [] x := by
  have hpos := hs.block_pos
  have hnil : ∀ {bs wire' : Bytes}, [] = bs ++ wire' → ([] ++ bs : Bytes).length < rx.keys.blocksize := by
    intro bs wire' h
    obtain ⟨rfl, -⟩ := List.append_eq_nil_iff.mp h.symm
    show 0 < _
    omega
  cases h with
  | waiting hstream hread hidle => exact ⟨_, _, _, _, hstream, hread, rfl⟩
  | delivered hstream hauth hbody hopen => exact absurd hauth.block_le (Nat.not_le_of_lt (hnil hstream))
  | block_not_decrypted hstream hlen hcrypt => exact absurd hlen (Nat.ne_of_lt (hnil hstream))
  | rest_not_decrypted hstream hfail => exact absurd hfail.block_le (Nat.not_le_of_lt (hnil hstream))
  | bad_length hstream hlen hcrypt hbad => exact absurd hlen (Nat.ne_of_lt (hnil hstream))
  | not_authentic hstream hframe hmac => exact absurd hframe.block_le (Nat.not_le_of_lt (hnil hstream))
  | bad_payload hstream hauth hbad => exact absurd hauth.block_le (Nat.not_le_of_lt (hnil hstream))
  | not_inflated hstream hauth hbody hopen =>
    exact absurd hauth.block_le (Nat.not_le_of_lt (hnil hstream))
  | closed h => exact absurd h (not_or.mpr ⟨hfirst.1, hrest.1⟩)
  | failed h => exact absurd h (not_or.mpr ⟨hfirst.2, hrest.2⟩)

/-- **At the beginning of a sealed packet** the call waits for its end or delivers its payload. -/
theorem ReadOutcome.sealed {payload more : Bytes} (hs : rx.keys.Sizes)
    (hplain : rx.is_compress_recv = false) (hfirst : first.Fair) (hrest : rest.Fair)
    (hsealed : Sealed rx.keys k rx.recvseq raw payload k₁) (hall : raw <+: held ++ wire ++ more)
    (h : ReadOutcome zlib rx k held wire first rest x) :
    Waits rx k held wire x ∨ Delivers rx held wire raw payload k₁ x := by
  obtain ⟨clear, hauth, hbody, hgood, hfits⟩ := hsealed
  have hbegins : ∀ {bs wire' : Bytes}, wire = bs ++ wire' → held ++ bs <+: held ++ wire ++ more := by
    rintro bs wire' rfl
    refine ⟨wire' ++ more, ?_⟩
    simp only [List.append_assoc]
  have hblock : ∀ {bs wire' : Bytes}, wire = bs ++ wire' →
      (held ++ bs).length = rx.keys.blocksize → raw.take rx.keys.blocksize = held ++ bs := by
    intro bs wire' hwire hlen
    rw [take_eq_of_begins hall (hbegins hwire) hauth.block_le (Nat.le_of_eq hlen.symm), ← hlen,
      List.take_length]
  cases h with
  | waiting hstream hread hidle => exact .inl ⟨_, _, _, _, hstream, hread, rfl⟩
  | delivered hstream hauth' hbody' hopen =>
    obtain ⟨hraw, rfl, rfl⟩ := hauth.toFrame.unique hs hauth'.toFrame hall (hbegins hstream)
    cases hopen with
    | plain _ hpayload =>
      exact .inr ⟨_, _, _, _, hstream, hraw.symm, hpayload.trans (hbody'.unique hbody), rfl⟩
    | inflated hcompress _ => exact absurd (hplain.symm.trans hcompress) Bool.false_ne_true
  | block_not_decrypted hstream hlen hcrypt =>
    obtain ⟨head, tail, kh, -, hhead, -⟩ := hauth.decrypts
    rw [hblock hstream hlen, hcrypt] at hhead
    cases hhead
  | rest_not_decrypted hstream hfail =>
    exact (hauth.toFrame.not_fails hs hfail hall (hbegins hstream)).elim
  | bad_length hstream hlen hcrypt hbad =>
    obtain ⟨head, tail, kh, rfl, hhead, -⟩ := hauth.decrypts
    rw [hblock hstream hlen, hcrypt] at hhead
    cases hhead
    have hpos := hs.block_pos
    have hheadlen := rx.keys.crypt_length _ _ _ _ hcrypt
    rw [List.take_append_of_le_length (by omega)] at hgood
    exact absurd hbad hgood
  | not_authentic hstream hframe hmac =>
    obtain ⟨hraw, rfl, rfl⟩ := hauth.toFrame.unique hs hframe hall (hbegins hstream)
    rw [← hraw] at hmac
    exact absurd hauth.mac hmac
  | bad_payload hstream hauth' hbad =>
    obtain ⟨-, rfl, rfl⟩ := hauth.toFrame.unique hs hauth'.toFrame hall (hbegins hstream)
    exact absurd hbad hfits
  | not_inflated hstream hauth' hbody' hopen =>
    cases hopen with
    | failed hcompress => exact absurd (hplain.symm.trans hcompress) Bool.false_ne_true
    | oversized hcompress => exact absurd (hplain.symm.trans hcompress) Bool.false_ne_true
  | closed h => exact absurd h (not_or.mpr ⟨hfirst.1, hrest.1⟩)
  | failed h => exact absurd h (not_or.mpr ⟨hfirst.2, hrest.2⟩)

/-! ### The link -/

/-- What holds after every step. -/
structure Link.Inv (R : κ → κ' → Prop) (s : Link κ κ' ζ) : Prop where
  exit : s.exit = none
  keys : Matching s.tx.keys s.rx.keys R
  plain : s.rx.is_compress_recv = false
  reading : Reading s.rx.keys s.start s.held s.rx.readbuf s.rx.cipher_state
  stream : ∃ raws payloads k', R s.tx.cipher_state k' ∧
    Stream s.rx.keys s.start s.rx.recvseq raws payloads k' s.tx.transseq ∧
    s.held ++ s.wire ++ s.tx.queued = raws.flatten ∧ s.submitted = s.delivered ++ payloads
  pending : s.tx.Pending
  queue_len : s.tx.writequeue_len = s.tx.queued.length % 2 ^ 32

theorem Link.Inv.init {tx : Sender κ} (hkeys : Matching tx.keys rx.keys R)
    (hstate : R tx.cipher_state rx.cipher_state) (hseq : tx.transseq = rx.recvseq)
    (hplain : rx.is_compress_recv = false) : (Link.init tx rx).Inv R where
  exit := rfl
  keys := hkeys
  plain := hplain
  reading := Reading.start hkeys.rx_sizes
  stream := by
    refine ⟨[], [], rx.cipher_state, hstate, ?_, rfl, rfl⟩
    show Stream rx.keys rx.cipher_state rx.recvseq [] [] rx.cipher_state tx.transseq
    rw [hseq]
    exact .nil _ _
  pending := fun wb hwb => absurd hwb List.not_mem_nil
  queue_len := rfl

variable {s : Link κ κ' ζ}

/-- A payload of a size that may be sent. -/
def PayloadSize (payload : Bytes) : Prop :=
  1 ≤ payload.length ∧ payload.length ≤ TRANS_MAX_PAYLOAD_LEN

theorem submit_is {tx : Sender κ} {payload : Bytes} (hm : Matching tx.keys keys R)
    (hR : R tx.cipher_state k) (hsize : PayloadSize payload) (random : Nat → UInt8) :
    ∃ wb k₁ k₁', R k₁ k₁' ∧ Sealed keys k tx.transseq wb.rest payload k₁' ∧
      wb.pos < wb.len ∧ wb.len ≤ RECV_MAX_PACKET_LEN ∧
      wb.rest.length = (clearPacket tx.keys.blocksize random payload).length + tx.keys.hashsize ∧
      submit tx payload random = .ok { tx with
        cipher_state := k₁, transseq := add32 tx.transseq 1
        datatrans := add32 tx.datatrans wb.rest.length
        writequeue := tx.writequeue ++ [wb]
        writequeue_len := add32 tx.writequeue_len wb.rest.length } := by
  obtain ⟨hpos, hmax⟩ := hsize
  have hbound : TRANS_MAX_PAYLOAD_LEN = 16384 := rfl
  have hbuf : 16384 ≤ BUF_MAX_SIZE := by decide
  obtain ⟨c, k₁, k₁', hcrypt, hR₁, hsealed⟩ := hm.sealed hR random hpos hmax tx.transseq rfl
  unfold submit Buffer.holding
  rw [dif_neg (by omega), pure_bind]
  have hwp : (Buffer.full payload (by omega)).Is payload payload.length 0 := ⟨rfl, rfl, rfl⟩
  rcases encrypt_packet_is hm.sizes random hwp List.take_length hpos hmax rfl with
    ⟨hnone, -⟩ | ⟨c', k₂, wb, d, hsome, hwb, hd, hok⟩
  · rw [hcrypt] at hnone
    cases hnone
  rw [hcrypt] at hsome
  cases hsome
  have hrest : wb.rest = c ++ tx.keys.mac tx.transseq
      (clearPacket tx.keys.blocksize random payload) := by
    rw [hwb.rest_eq, List.drop_zero, hd]
  have hlen : wb.rest.length = (clearPacket tx.keys.blocksize random payload).length +
      tx.keys.hashsize := by
    rw [wb.length_rest, hwb.len_eq, hwb.pos_eq, Nat.sub_zero]
  rw [← hrest] at hsealed
  refine ⟨wb, k₁, k₁', hR₁, hsealed, ?_, ?_, hlen, ?_⟩
  · rw [hwb.pos_eq, hwb.len_eq, length_clearPacket]
    omega
  · obtain ⟨clear, hauth, -⟩ := hsealed
    have hle := hauth.length_le
    rw [hwb.len_eq]
    omega
  · rw [hlen]
    exact hok

theorem Sender.queued_snoc {tx tx' : Sender κ} {wb : Buffer}
    (h : tx'.writequeue = tx.writequeue ++ [wb]) : tx'.queued = tx.queued ++ wb.rest := by
  rw [Sender.queued, h, List.map_append, List.flatten_append, List.map_singleton,
    List.flatten_singleton]
  rfl

theorem Link.Inv.submit (hinv : s.Inv R) {payload : Bytes} (hsize : PayloadSize payload)
    (random : Nat → UInt8) :
    (s.afterSubmit payload (Wire.submit s.tx payload random)).Inv R := by
  obtain ⟨raws, payloads, k', hR, hstream, hbytes, hsub⟩ := hinv.stream
  obtain ⟨wb, k₁, k₁', hR₁, hsealed, hwb, hmax, -, hok⟩ :=
    submit_is hinv.keys hR hsize random
  rw [hok]
  refine ⟨hinv.exit, hinv.keys, hinv.plain, hinv.reading, ⟨raws ++ [wb.rest], payloads ++ [payload],
    k₁', hR₁, hstream.snoc hsealed, ?_, ?_⟩, ?_, ?_⟩
  · show s.held ++ s.wire ++ Sender.queued _ = _
    rw [Sender.queued_snoc rfl, ← List.append_assoc, hbytes, List.flatten_append, List.flatten_singleton]
  · show s.submitted ++ [payload] = s.delivered ++ (payloads ++ [payload])
    rw [hsub, List.append_assoc]
  · intro b hb
    rcases List.mem_append.mp hb with hb | hb
    · exact hinv.pending b hb
    · rw [List.mem_singleton.mp hb]
      exact ⟨hwb, hmax⟩
  · show add32 s.tx.writequeue_len wb.rest.length = (Sender.queued _).length % 2 ^ 32
    rw [Sender.queued_snoc rfl, hinv.queue_len, List.length_append, add32]
    omega

theorem Link.Inv.write (hinv : s.Inv R) (hne : s.tx.writequeue ≠ []) {a : Answer}
    (ha : a = .again ∨ ∃ n, 0 < n ∧ a = .bytes n) :
    (s.afterWrite (write_packet s.tx a)).Inv R := by
  obtain ⟨queue, len, bs, hok, hwritten⟩ := write_packet_is hinv.pending hinv.queue_len hne ha
  rw [hok]
  obtain ⟨raws, payloads, k', hR, hstream, hbytes, hsub⟩ := hinv.stream
  refine ⟨hinv.exit, hinv.keys, hinv.plain, hinv.reading,
    ⟨raws, payloads, k', hR, hstream, ?_, hsub⟩, hwritten.pending, hwritten.len_eq⟩
  show s.held ++ (s.wire ++ bs) ++ Sender.queued _ = raws.flatten
  rw [hwritten.queued] at hbytes
  rw [← hbytes]
  simp only [List.append_assoc]
  rfl

theorem Link.Inv.waits (hinv : s.Inv R) (h : Waits s.rx s.start s.held s.wire x) :
    (s.afterRead x).Inv R := by
  obtain ⟨bs, wire', readbuf, k', hwire, hread, rfl⟩ := h
  obtain ⟨raws, payloads, k', hR, hstream, hbytes, hsub⟩ := hinv.stream
  have htake : s.wire.take (s.wire.length - wire'.length) = bs := by
    rw [hwire, List.length_append, Nat.add_sub_cancel, List.take_left]
  refine ⟨hinv.exit, hinv.keys, hinv.plain, ?_, ⟨raws, payloads, k', hR, hstream, ?_, hsub⟩,
    hinv.pending, hinv.queue_len⟩
  · show Reading s.rx.keys s.start (s.held ++ s.wire.take _) readbuf _
    rwa [htake]
  · show s.held ++ s.wire.take _ ++ wire' ++ s.tx.queued = raws.flatten
    rw [htake, ← hbytes, hwire]
    simp only [List.append_assoc]

theorem Link.Inv.read (hinv : s.Inv R) (hfirst : first.Fair) (hrest : rest.Fair) :
    (s.afterRead (read_packet zlib s.rx s.wire first rest)).Inv R := by
  have hs := hinv.keys.rx_sizes
  have hout : ReadOutcome zlib s.rx s.start s.held s.wire first rest _ :=
    read_packet_outcome hs hinv.reading
  obtain ⟨raws, payloads, k', hR, hstream, hbytes, hsub⟩ := hinv.stream
  cases raws with
  | nil =>
    obtain ⟨hboth, -⟩ := List.append_eq_nil_iff.mp hbytes
    obtain ⟨hheld, hwire⟩ := List.append_eq_nil_iff.mp hboth
    rw [hheld, hwire] at hout
    refine hinv.waits ?_
    rw [hheld, hwire]
    exact hout.nothing hs hfirst hrest
  | cons raw raws =>
    cases hstream with
    | @cons _ k₁ _ _ _ _ payload _ payloads hpacket hpackets =>
      have hall : raw <+: s.held ++ s.wire ++ s.tx.queued := ⟨raws.flatten, hbytes.symm⟩
      rcases hout.sealed hs hinv.plain hfirst hrest hpacket hall with hwaits | hdelivers
      · exact hinv.waits hwaits
      · obtain ⟨bs, wire', buf, datarecv, hwire, hraw, rfl, hx⟩ := hdelivers
        rw [hx]
        refine ⟨hinv.exit, hinv.keys, hinv.plain, Reading.start hs,
          ⟨raws, payloads, k', hR, hpackets, ?_, ?_⟩, hinv.pending, hinv.queue_len⟩
        · show [] ++ wire' ++ s.tx.queued = raws.flatten
          rw [hwire, ← List.append_assoc, hraw, List.append_assoc, List.flatten_cons] at hbytes
          exact List.append_cancel_left hbytes
        · show s.submitted = s.delivered ++ [buf.rest] ++ payloads
          rw [hsub, List.append_assoc]
          rfl

/-- The events the kernel and the session produce while the connection is up: payloads of a size that
may be sent, reads and writes that transfer something or nothing. -/
def Link.Event.Fair : Link.Event → Prop
  | .encrypt_packet payload _ => PayloadSize payload
  | .write_packet a => a = .again ∨ ∃ n, 0 < n ∧ a = .bytes n
  | .read_packet first rest => first.Fair ∧ rest.Fair

theorem Link.Inv.next {t : Link κ κ' ζ} {e : Link.Event} (hinv : s.Inv R)
    (h : guarded (ofFun (Link.step zlib)) (fun _ e => e.Fair) s e t) : t.Inv R := by
  obtain ⟨hfair, hstep⟩ := h
  have hexit : ¬ s.exit.isSome = true := by
    rw [hinv.exit]
    exact Bool.false_ne_true
  replace hstep := (if_neg hexit).symm.trans hstep
  cases e with
  | encrypt_packet payload random =>
    cases hstep
    exact hinv.submit hfair random
  | write_packet a =>
    by_cases hempty : s.tx.writequeue.isEmpty = true
    · cases (if_pos hempty).symm.trans hstep
    · cases (if_neg hempty).symm.trans hstep
      exact hinv.write (fun hnil => hempty (by rw [hnil]; rfl)) hfair
  | read_packet first rest =>
    cases hstep
    exact hinv.read hfair.1 hfair.2

/-- **Round trip**: whatever payloads are submitted, and however the bytes are cut up by partial
writes and reads, there is no error exit, and the payloads arrive as they were submitted and in that
order; when nothing is queued and nothing is on the wire, all have arrived. `ses.writequeue_len`
counts the bytes on the write queue modulo 2^32. -/
theorem payloads_arrive {tx : Sender κ} {rx : Receiver κ' ζ} {es : List Link.Event}
    (hkeys : Matching tx.keys rx.keys R) (hstate : R tx.cipher_state rx.cipher_state)
    (hseq : tx.transseq = rx.recvseq) (hplain : rx.is_compress_recv = false)
    (hfair : ∀ e ∈ es, e.Fair) (hrun : Run (ofFun (Link.step zlib)) (Link.init tx rx) es s) :
    s.exit = none ∧ s.delivered <+: s.submitted ∧
      (s.tx.queued = [] → s.wire = [] → s.delivered = s.submitted) ∧
      s.tx.writequeue_len = s.tx.queued.length % 2 ^ 32 := by
  have hinv : s.Inv R := (hrun.guard_events hfair).invariant (fun _ _ _ hi hs => hi.next hs)
    (.init hkeys hstate hseq hplain)
  obtain ⟨raws, payloads, k', -, hstream, hbytes, hsub⟩ := hinv.stream
  refine ⟨hinv.exit, ⟨payloads, hsub.symm⟩, fun hqueue hwire => ?_, hinv.queue_len⟩
  cases raws with
  | nil => rw [hsub, hstream.payloads_nil, List.append_nil]
  | cons raw raws =>
    cases hstream with
    | cons hpacket _ =>
      -- the receiver never holds a whole packet
      rw [hqueue, hwire, List.append_nil, List.append_nil, List.flatten_cons] at hbytes
      have hlt := hinv.reading.length_lt_sealed hinv.keys.rx_sizes hpacket
        (List.prefix_refl s.held) ⟨raws.flatten, hbytes.symm⟩
      have hlen := congrArg List.length hbytes
      rw [List.length_append] at hlen
      omega

/-- A sender with the keys a session starts with. -/
def freshSender : Sender Unit where
  keys := nocipherKeys
  cipher_state := ()
  transseq := 0
  datatrans := 0

/-- Memory that is copied is copied back. -/
theorem nocipherKeys_matching : Matching nocipherKeys nocipherKeys Eq where
  sizes := nocipherKeys_sizes
  blocksize_eq := rfl
  hashsize_eq := rfl
  hmac_eq := rfl
  encrypts := ⟨fun _ => rfl, fun _ _ hx hy => by cases hx; cases hy; rfl⟩
  decrypts := ⟨fun _ => rfl, fun _ _ hx hy => by cases hx; cases hy; rfl⟩
  inverse := fun block _ _ hlen _ => ⟨block, (), (), rfl, hlen, rfl, rfl⟩

/-- An `SSH_MSG_IGNORE` and an `SSH_MSG_UNIMPLEMENTED`, sealed, written and read in pieces. -/
def piecewiseEvents : List Link.Event :=
  [.encrypt_packet [2, 0, 0, 0, 1, 7] (fun _ => 9), .write_packet (.bytes 5),
    .read_packet (.bytes 3) (.bytes 3), .encrypt_packet [3, 0, 0, 0, 0] (fun i => UInt8.ofNat i),
    .write_packet .again, .write_packet (.bytes 100), .read_packet (.bytes 8) (.bytes 3),
    .write_packet (.bytes 100), .read_packet (.bytes 8) (.bytes 3), .read_packet (.bytes 8) .again,
    .read_packet .again (.bytes 100), .read_packet (.bytes 8) (.bytes 100)]

theorem payloads_arrive_piecewise : ∃ s : Link Unit Unit Unit,
    Run (ofFun (Link.step failingZlib)) (Link.init freshSender freshReceiver) piecewiseEvents s ∧
      s.exit = none ∧ s.delivered = [[2, 0, 0, 0, 1, 7], [3, 0, 0, 0, 0]] := by
  have hexec : (exec (Link.step failingZlib) (Link.init freshSender freshReceiver)
      piecewiseEvents).any (fun s => s.tx.queued == [] && s.wire == [] &&
        s.submitted == [[2, 0, 0, 0, 1, 7], [3, 0, 0, 0, 0]]) = true := by
    decide +kernel
  obtain ⟨s, hs, htest⟩ := (Option.any_eq_true _ _).mp hexec
  simp only [Bool.and_eq_true, beq_iff_eq] at htest
  obtain ⟨⟨hqueue, hwire⟩, hsub⟩ := htest
  have hfair : ∀ e ∈ piecewiseEvents, e.Fair := by
    simp [piecewiseEvents, Link.Event.Fair, PayloadSize, TRANS_MAX_PAYLOAD_LEN, Answer.Fair]
  obtain ⟨hexit, -, hall, -⟩ := payloads_arrive nocipherKeys_matching rfl rfl rfl hfair (run_of_exec hs)
  exact ⟨s, run_of_exec hs, hexit, (hall hqueue hwire).trans hsub⟩

/-! ### The counter of queued bytes wraps around -/

/-- A payload that becomes a packet of 2^14 bytes. -/
def largePayload : Bytes := List.replicate 16371 2

theorem largePayload_size : PayloadSize largePayload := by
  unfold PayloadSize largePayload
  rw [List.length_replicate]
  decide

theorem length_large_packet :
    (clearPacket nocipherKeys.blocksize (fun _ => 0) largePayload).length = 2 ^ 14 := by
  rw [length_clearPacket, largePayload, List.length_replicate]
  decide

/-- Any number of large payloads can be queued. -/
theorem large_payloads_queued (n : Nat) : ∃ s : Link Unit Unit Unit,
    Run (ofFun (Link.step failingZlib)) (Link.init freshSender freshReceiver)
        (List.replicate n (.encrypt_packet largePayload fun _ => 0)) s ∧
      s.Inv Eq ∧ s.tx.keys = nocipherKeys ∧ s.tx.queued.length = n * 2 ^ 14 := by
  induction n with
  | zero =>
    exact ⟨_, .nil _, .init nocipherKeys_matching rfl rfl rfl, rfl, rfl⟩
  | succ n ih =>
    obtain ⟨s, hrun, hinv, hkeys, hlen⟩ := ih
    obtain ⟨raws, payloads, k', hR, -⟩ := hinv.stream
    obtain ⟨wb, k₁, k₁', -, -, -, -, hwb, hok⟩ :=
      submit_is hinv.keys hR largePayload_size fun _ => 0
    have hnext := hinv.submit largePayload_size fun _ => 0
    refine ⟨_, ?_, hnext, ?_, ?_⟩
    · rw [List.replicate_succ']
      refine hrun.append (.single ?_)
      exact if_neg (by rw [hinv.exit]; exact Bool.false_ne_true)
    · rw [hok]
      exact hkeys
    · rw [hok]
      show (Sender.queued _).length = _
      rw [Sender.queued_snoc rfl, List.length_append, hlen, hwb, hkeys, length_large_packet]
      show n * 2 ^ 14 + (2 ^ 14 + 0) = (n + 1) * 2 ^ 14
      omega

/-- With 4 GiB on the queue, `ses.writequeue_len` is 0. -/
theorem queue_length_wraps : ∃ s : Link Unit Unit Unit,
    Run (ofFun (Link.step failingZlib)) (Link.init freshSender freshReceiver)
        (List.replicate (2 ^ 18) (.encrypt_packet largePayload fun _ => 0)) s ∧
      s.tx.queued.length = 2 ^ 32 ∧ s.tx.writequeue_len = 0 := by
  obtain ⟨s, hrun, hinv, -, hlen⟩ := large_payloads_queued (2 ^ 18)
  have h32 : s.tx.queued.length = 2 ^ 32 := hlen.trans (by norm_num)
  exact ⟨s, hrun, h32, by rw [hinv.queue_len, h32, Nat.mod_self]⟩

end SimpleSshd.Dropbear.Wire
