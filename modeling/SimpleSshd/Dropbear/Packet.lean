import SimpleSshd.Dropbear.Session

/-!
# `packet.c`, byte by byte: sealing, sending, receiving and opening packets

The session works with payloads; here are the bytes they become on the wire and how they are taken
off it again. Sockets are non-blocking: a call of `read` or `write` transfers as many bytes as the
kernel likes, and what it answered is an argument of the function that makes the call. The cipher and
the HMAC of a direction are the fields of its `Keys`, `zlib` is a `Zlib`.

All lengths are `unsigned int`, so sums and differences are taken modulo 2^32. This is the packet
layer without `writev`, as it is configured.
-/

namespace SimpleSshd.Dropbear.Wire

def RECV_MAX_PAYLOAD_LEN : Nat := 32768
def RECV_MAX_PACKET_LEN : Nat := max 35000 (RECV_MAX_PAYLOAD_LEN + 100)
def INIT_READBUF : Nat := 128
def PACKET_PADDING_OFF : Nat := 4
def ZLIB_COMPRESS_EXPANSION : Nat := (RECV_MAX_PAYLOAD_LEN / 16384 + 1) * 5 + 6
def ZLIB_DECOMPRESS_INCR : Nat := 1024

/-- `a + b` of two `unsigned int`s. -/
def add32 (a b : Nat) : Nat := (a + b) % 2 ^ 32

/-- `a - b` of two `unsigned int`s. -/
def sub32 (a b : Nat) : Nat := (a + (2 ^ 32 - b % 2 ^ 32)) % 2 ^ 32

/-! ## Keys, `zlib` and sockets -/

/-- `struct key_context_directional`, with its keys applied. -/
structure Keys (κ : Type) where
  /-- `algo_crypt->blocksize`. -/
  blocksize : Nat
  /-- `algo_mac->hashsize`. -/
  hashsize : Nat
  /-- `crypt_mode->encrypt` or `decrypt`; `none` if it does not return `CRYPT_OK`. -/
  crypt : Bytes → κ → Option (Bytes × κ)
  hmac : Bytes → Bytes
  crypt_length : ∀ bs k out k', crypt bs k = some (out, k') → out.length = bs.length
  hmac_length : ∀ bs, hashsize ≤ (hmac bs).length

inductive ZResult
  | Z_OK
  | Z_BUF_ERROR
  /-- Anything else. -/
  | failed
  deriving DecidableEq, Repr

/-- What a call of `inflate` did. -/
structure Inflation (ζ : Type) where
  result : ZResult
  /-- How much of the input was used. -/
  used : Nat
  out : Bytes
  state : ζ

/-- `inflate`, for a state, an input and the room for the output. It stops when it runs out of input
or out of room, or fails. -/
structure Zlib (ζ : Type) where
  inflate : ζ → Bytes → Nat → Inflation ζ
  used_le : ∀ z input room, (inflate z input room).used ≤ input.length
  out_le : ∀ z input room, (inflate z input room).out.length ≤ room
  stops : ∀ z input room, (inflate z input room).result ≠ .failed →
    (inflate z input room).used = input.length ∨ (inflate z input room).out.length = room

/-- What the kernel makes of a call of `read` or `write`. -/
inductive Answer
  /-- At most `n` bytes are transferred. -/
  | bytes (n : Nat)
  /-- `EINTR` or `EAGAIN`. -/
  | again
  /-- The call returns 0. -/
  | closed
  | error
  deriving DecidableEq, Repr

/-- The call transfers something if there is something. -/
def Answer.transfers : Answer → Bool
  | .bytes n => 0 < n
  | _ => false

/-- What `read` returned. -/
inductive Got
  | data (bs : Bytes)
  | again
  | closed
  | error
  deriving DecidableEq, Repr

/-- `read` of at most `maxlen` of the bytes that have arrived, and what is left of them. -/
def read (stream : Bytes) (maxlen : Nat) : Answer → Got × Bytes
  | .bytes n =>
    if stream.take (min n maxlen) = [] then (.again, stream)
    else (.data (stream.take (min n maxlen)), stream.drop (min n maxlen))
  | .again => (.again, stream)
  | .closed => (.closed, stream)
  | .error => (.error, stream)

/-- `ses.remoteclosed` of the server. -/
def svr_remoteclosed {α : Type} : Except Exit α := dropbear_close "Exited normally"

/-! ## Encryption and MACs -/

variable {κ ζ : Type}

/-- `len` bytes at the position are encrypted or decrypted in place. -/
def cryptInPlace (keys : Keys κ) (k : κ) (b : Buffer) (len : Nat) (msg : String) :
    Except Exit (Buffer × κ) := do
  let input ← buf_getptr b len
  buf_getwriteptr b len
  match keys.crypt input k with
  | none => dropbear_exit msg
  | some (out, k) => do
    let b ← b.store out
    pure (b, k)

/-- The MAC of the first `clear_len` bytes; nothing at all if the direction has none. -/
def make_mac (keys : Keys κ) (seqno : Nat) (clear_buf : Buffer) (clear_len : Nat) :
    Except Exit (Bytes × Buffer) :=
  if keys.hashsize > 0 then do
    let clear_buf ← buf_setpos clear_buf 0
    let clear ← buf_getptr clear_buf clear_len
    pure (keys.hmac (be32 seqno ++ clear), clear_buf)
  else pure ([], clear_buf)

/-! ## Receiving -/

structure Receiver (κ ζ : Type) where
  keys : Keys κ
  cipher_state : κ
  /-- `is_compress_recv()`. -/
  is_compress_recv : Bool
  zstream : ζ
  readbuf : Option Buffer := none
  recvseq : Nat
  datarecv : Nat

def checkmac (rx : Receiver κ ζ) (readbuf : Buffer) : Except Exit (Status × Buffer) := do
  let mac_size := rx.keys.hashsize
  let contents_len := sub32 readbuf.len mac_size
  let readbuf ← buf_setpos readbuf 0
  let (mac_bytes, readbuf) ← make_mac rx.keys rx.recvseq readbuf contents_len
  let readbuf ← buf_setpos readbuf contents_len
  let received ← buf_getptr readbuf mac_size
  if mac_bytes.take mac_size = received then pure (DROPBEAR_SUCCESS, readbuf)
  else pure (DROPBEAR_FAILURE, readbuf)

/-- The loop of `buf_decompress`. The buffer grows in every round but the last, so the rounds are
bounded. -/
def buf_decompress.loop (zlib : Zlib ζ) : Nat → ζ → Bytes → Buffer → Except Exit (Buffer × ζ)
  | 0, _, _, _ => throw .fault
  | rounds + 1, zstream, next_in, ret => do
    let room := sub32 ret.size ret.pos
    buf_getwriteptr ret room
    let r := zlib.inflate zstream next_in room
    let ret ← ret.store r.out
    let avail_out := room - r.out.length
    let ret ← buf_setlen ret (sub32 ret.size avail_out)
    let ret ← buf_setpos ret ret.len
    if r.result = .failed then dropbear_exit "zlib error"
    else
      let next_in := next_in.drop r.used
      if next_in = [] ∧ (avail_out ≠ 0 ∨ r.result = .Z_BUF_ERROR) then pure (ret, r.state)
      else if avail_out = 0 then
        -- already been increased as large as it can go
        if ret.size ≥ RECV_MAX_PAYLOAD_LEN then dropbear_exit "bad packet, oversized decompressed"
        else do
          let ret ← buf_resize ret (min RECV_MAX_PAYLOAD_LEN (ret.size + ZLIB_DECOMPRESS_INCR))
          buf_decompress.loop zlib rounds r.state next_in ret
      else buf_decompress.loop zlib rounds r.state next_in ret

def buf_decompress (zlib : Zlib ζ) (zstream : ζ) (buf : Buffer) (len : Nat) :
    Except Exit (Buffer × ζ) := do
  let ret ← buf_new len
  let next_in ← buf_getptr buf len
  buf_decompress.loop zlib (RECV_MAX_PAYLOAD_LEN / ZLIB_DECOMPRESS_INCR + 2) zstream next_in ret

/-- `ses.payload`, positioned at `ses.payload_beginning`, and the zlib state. -/
def openPayload (zlib : Zlib ζ) (rx : Receiver κ ζ) (readbuf : Buffer) (len : Nat) :
    Except Exit (Buffer × ζ) :=
  if rx.is_compress_recv then do
    let (payload, zstream) ← buf_decompress zlib rx.zstream readbuf len
    let payload ← buf_setpos payload 0
    pure (payload, zstream)
  else do
    let payload ← buf_setlen readbuf (add32 readbuf.pos len)
    pure (payload, rx.zstream)

/-- The part of `decrypt_packet` that finds the payload: where it begins and its length. -/
def findPayload (rx : Receiver κ ζ) (readbuf : Buffer) : Except Exit (Buffer × Nat) := do
  let readbuf ← buf_setpos readbuf PACKET_PADDING_OFF
  let (padlen, readbuf) ← buf_getbyte readbuf
  -- 4 + 1 for the length and the padding length
  let len := sub32 (sub32 (sub32 (sub32 readbuf.len padlen.toNat) 4) 1) rx.keys.hashsize
  if len > RECV_MAX_PAYLOAD_LEN + ZLIB_COMPRESS_EXPANSION ∨ len < 1 then
    dropbear_exit "Bad packet size %u"
  else do
    let readbuf ← buf_setpos readbuf PACKET_PAYLOAD_OFF
    pure (readbuf, len)

/-- The part of `decrypt_packet` up to the payload. The first block is decrypted already. -/
def decryptBody (rx : Receiver κ ζ) (readbuf : Buffer) : Except Exit ((Buffer × Nat) × κ) := do
  let readbuf ← buf_setpos readbuf rx.keys.blocksize
  let len := sub32 (sub32 readbuf.len rx.keys.hashsize) readbuf.pos
  let (readbuf, cipher_state) ← cryptInPlace rx.keys rx.cipher_state readbuf len "Error decrypting"
  let readbuf ← buf_incrpos readbuf (toInt32 len)
  let (mac_ok, readbuf) ← checkmac rx readbuf
  if mac_ok ≠ DROPBEAR_SUCCESS then dropbear_exit "Integrity error"
  else do
    let found ← findPayload rx readbuf
    pure (found, cipher_state)

/-- The whole packet is in `readbuf`. -/
def decrypt_packet (zlib : Zlib ζ) (rx : Receiver κ ζ) (readbuf : Buffer) :
    Except Exit (Buffer × Receiver κ ζ) := do
  let datarecv := add32 rx.datarecv readbuf.len
  let ((readbuf, len), cipher_state) ← decryptBody rx readbuf
  let (payload, zstream) ← openPayload zlib rx readbuf len
  let recvseq := add32 rx.recvseq 1
  pure (payload, { rx with readbuf := none, cipher_state, zstream, recvseq, datarecv })

/-- The length of a packet whose first block has been decrypted, if it is acceptable. -/
def packetLength (keys : Keys κ) (readbuf : Buffer) : Except Exit (Nat × Buffer) := do
  let macsize := keys.hashsize
  let (len, readbuf) ← buf_getint readbuf
  let len := add32 (add32 len 4) macsize
  if len > RECV_MAX_PACKET_LEN ∨ len < MIN_PACKET_LEN + macsize ∨
      sub32 len macsize % keys.blocksize ≠ 0 then
    dropbear_exit "Integrity error (bad packet size %u)"
  else pure (len, readbuf)

/-- A buffer of its own for every packet. -/
def Receiver.currentBuf (rx : Receiver κ ζ) : Except Exit Buffer :=
  match rx.readbuf with
  | some readbuf => pure readbuf
  | none => buf_new INIT_READBUF

/-- Room for the whole packet, positioned behind its first block. -/
def prepareRest (readbuf : Buffer) (len blocksize : Nat) : Except Exit Buffer := do
  let readbuf ← (if len > readbuf.size then buf_resize readbuf len else pure readbuf)
  let readbuf ← buf_setlen readbuf len
  buf_setpos readbuf blocksize

/-- The first block is complete: it is decrypted, and the length is taken from it. -/
def firstBlock (rx : Receiver κ ζ) (readbuf : Buffer) : Except Exit (Receiver κ ζ) := do
  let blocksize := rx.keys.blocksize
  let readbuf ← buf_setpos readbuf 0
  let (readbuf, cipher_state) ←
    cryptInPlace rx.keys rx.cipher_state readbuf blocksize "Error decrypting"
  let (len, readbuf) ← packetLength rx.keys readbuf
  let readbuf ← prepareRest readbuf len blocksize
  pure { rx with readbuf := some readbuf, cipher_state }

/-- The first block of a packet is read; the status says whether it is complete. -/
def read_packet_init (rx : Receiver κ ζ) (stream : Bytes) (answer : Answer) :
    Except Exit (Status × Receiver κ ζ × Bytes) := do
  let blocksize := rx.keys.blocksize
  let readbuf ← rx.currentBuf
  let maxlen := sub32 blocksize readbuf.pos
  buf_getwriteptr readbuf maxlen
  match read stream maxlen answer with
  | (.closed, _) => svr_remoteclosed
  | (.again, stream) => pure (DROPBEAR_FAILURE, { rx with readbuf := some readbuf }, stream)
  | (.error, _) => dropbear_exit "Error reading: %s"
  | (.data bs, stream) => do
    -- `read` has stored the bytes
    let readbuf ← readbuf.store bs
    let readbuf ← buf_incrwritepos readbuf bs.length
    if bs.length ≠ maxlen then
      pure (DROPBEAR_FAILURE, { rx with readbuf := some readbuf }, stream)
    else do
      let rx ← firstBlock rx readbuf
      pure (DROPBEAR_SUCCESS, rx, stream)

/-- The rest of `read_packet`, once the length is known. -/
def read_packet_rest (zlib : Zlib ζ) (rx : Receiver κ ζ) (stream : Bytes) (answer : Answer) :
    Except Exit (Option Buffer × Receiver κ ζ × Bytes) :=
  match rx.readbuf with
  | none => throw .fault
  | some readbuf =>
    let maxlen := sub32 readbuf.len readbuf.pos
    if maxlen = 0 then do
      let (payload, rx) ← decrypt_packet zlib rx readbuf
      pure (some payload, rx, stream)
    else do
      let _ ← buf_getptr readbuf maxlen
      match read stream maxlen answer with
      | (.closed, _) => svr_remoteclosed
      | (.again, stream) => pure (none, rx, stream)
      | (.error, _) => dropbear_exit "Error reading: %s"
      | (.data bs, stream) => do
        let readbuf ← readbuf.store bs
        let readbuf ← buf_incrpos readbuf bs.length
        if bs.length = maxlen then do
          let (payload, rx) ← decrypt_packet zlib { rx with readbuf := some readbuf } readbuf
          pure (some payload, rx, stream)
        else pure (none, { rx with readbuf := some readbuf }, stream)

/-- No length is known yet: there is less than a block. -/
def Receiver.inFirstBlock (rx : Receiver κ ζ) : Bool :=
  match rx.readbuf with
  | none => true
  | some readbuf => readbuf.len < rx.keys.blocksize

/-- `read_packet_init`, if the length is not known yet. -/
def read_packet_first (rx : Receiver κ ζ) (stream : Bytes) (answer : Answer) :
    Except Exit (Status × Receiver κ ζ × Bytes) :=
  if rx.inFirstBlock then read_packet_init rx stream answer else pure (DROPBEAR_SUCCESS, rx, stream)

/-- One call, with the answers to its calls of `read` for the first block and for the rest. What it
returns is the payload, if the packet is complete. -/
def read_packet (zlib : Zlib ζ) (rx : Receiver κ ζ) (stream : Bytes) (first rest : Answer) :
    Except Exit (Option Buffer × Receiver κ ζ × Bytes) := do
  let (ret, rx, stream) ← read_packet_first rx stream first
  if ret = DROPBEAR_FAILURE then pure (none, rx, stream)
  else read_packet_rest zlib rx stream rest

/-! ## Sending -/

structure Sender (κ : Type) where
  keys : Keys κ
  cipher_state : κ
  writequeue : List Buffer := []
  writequeue_len : Nat := 0
  transseq : Nat
  datatrans : Nat

def writebuf_enqueue (tx : Sender κ) (writebuf : Buffer) : Except Exit (Sender κ) := do
  let writebuf ← buf_setpos writebuf 0
  pure { tx with
    writequeue := tx.writequeue ++ [writebuf]
    writequeue_len := add32 tx.writequeue_len writebuf.len }

/-- `deflate`d data that does not fit leaves input over. -/
def buf_compress (deflate : Bytes → Bytes) (dest : Buffer) (src : Bytes) : Except Exit Buffer := do
  dropbear_assert (sub32 dest.size dest.pos ≥ src.length + ZLIB_COMPRESS_EXPANSION)
  dropbear_assert ((deflate src).length ≤ sub32 dest.size dest.pos)
  buf_putbytes dest (deflate src)

/-- The payload, compressed if need be, behind the lengths. -/
def putPayload (deflate : Option (Bytes → Bytes)) (writebuf : Buffer) (payload : Bytes) :
    Except Exit Buffer :=
  match deflate with
  | some deflate => buf_compress deflate writebuf payload
  | none => buf_putbytes writebuf payload

/-- The padding of a packet of `len` bytes. -/
def paddingLength (blocksize len : Nat) : Nat :=
  let padlen := blocksize - len % blocksize
  let padlen := if padlen < 4 then padlen + blocksize else padlen
  if len + padlen < MIN_PACKET_LEN then padlen + blocksize else padlen

/-- The part of `encrypt_packet` that lays the packet out: lengths, payload and padding. -/
def layOut (keys : Keys κ) (deflate : Option (Bytes → Bytes)) (random : Nat → UInt8)
    (writepayload : Buffer) : Except Exit Buffer := do
  let blocksize := keys.blocksize
  let mac_size := keys.hashsize
  let writebuf ← buf_new (writepayload.len + 4 + 1 + max MIN_PACKET_LEN blocksize + 3 + mac_size +
    ZLIB_COMPRESS_EXPANSION + 1)
  let writebuf ← buf_setlen writebuf PACKET_PAYLOAD_OFF
  let writebuf ← buf_setpos writebuf PACKET_PAYLOAD_OFF
  let payload ← buf_getptr writepayload writepayload.len
  let writebuf ← putPayload deflate writebuf payload
  let padlen := paddingLength blocksize writebuf.len
  let writebuf ← buf_setpos writebuf 0
  -- the packet length without the length itself
  let writebuf ← buf_putint writebuf (sub32 (add32 writebuf.len padlen) 4)
  let writebuf ← buf_putbyte writebuf (UInt8.ofNat padlen)
  let writebuf ← buf_setpos writebuf writebuf.len
  let writebuf ← buf_incrlen writebuf padlen
  let _ ← buf_getptr writebuf padlen
  writebuf.store ((List.range padlen).map random)

/-- `encrypt_packet` of a payload that may be sent now. `deflate` is there if `is_compress_trans()`,
`random` is what `genrandom` delivers. -/
def encrypt_packet (tx : Sender κ) (deflate : Option (Bytes → Bytes)) (random : Nat → UInt8)
    (writepayload : Buffer) : Except Exit (Sender κ) := do
  let writepayload ← buf_setpos writepayload 0
  let _ ← buf_getbyte writepayload
  let writebuf ← layOut tx.keys deflate random writepayload
  let (mac_bytes, writebuf) ← make_mac tx.keys tx.transseq writebuf writebuf.len
  let writebuf ← buf_setpos writebuf 0
  let len := writebuf.len
  let (writebuf, cipher_state) ←
    cryptInPlace tx.keys tx.cipher_state writebuf len "Error encrypting"
  let writebuf ← buf_incrpos writebuf (toInt32 len)
  let writebuf ← buf_putbytes writebuf (mac_bytes.take tx.keys.hashsize)
  let datatrans := add32 tx.datatrans writebuf.len
  writebuf_enqueue { tx with cipher_state, datatrans, transseq := add32 tx.transseq 1 } writebuf

/-- One call of `write_packet`, and the bytes that went to the socket. -/
def write_packet (tx : Sender κ) (answer : Answer) : Except Exit (Sender κ × Bytes) :=
  match tx.writequeue with
  | [] => do
    dropbear_assert (¬ tx.writequeue = [])
    pure (tx, [])
  | writebuf :: queued => do
    let len := sub32 writebuf.len writebuf.pos
    dropbear_assert (len > 0)
    let data ← buf_getptr writebuf len
    match answer with
    | .again => pure (tx, [])
    | .error => dropbear_exit "Error writing: %s"
    | .closed => svr_remoteclosed
    | .bytes n =>
      let written := min n len
      if written = 0 then svr_remoteclosed
      else
        let writequeue_len := sub32 tx.writequeue_len written
        if written = len then pure ({ tx with writequeue := queued, writequeue_len }, data)
        else do
          let writebuf ← buf_incrpos writebuf written
          pure ({ tx with writequeue := writebuf :: queued, writequeue_len }, data.take written)

end SimpleSshd.Dropbear.Wire
