import SimpleSshd.Dropbear.Packet
import SimpleSshd.Lib.Runs

/-!
# The receiving side of a connection

The peer sends what it likes, the session calls `read_packet` whenever the socket is readable, and the
keys and the compression change between packets, never within one: they change while a packet is
processed, and `decrypt_packet` has given `ses.readbuf` away by then.
-/

namespace SimpleSshd.Dropbear.Wire

variable {κ ζ : Type}

structure Inbound (κ ζ : Type) where
  rx : Receiver κ ζ
  /-- The bytes that have arrived and have not been read. -/
  stream : Bytes := []
  exit : Option Exit := none
  /-- The bytes read since the last packet. -/
  held : Bytes := []
  /-- The state of the cipher when the last packet was complete. -/
  start : κ
  /-- The calls since the last packet that had something to read. -/
  tries : Nat := 0

/-- The peer's bytes are read from the beginning of a packet. -/
def Inbound.init (rx : Receiver κ ζ) : Inbound κ ζ :=
  { rx := { rx with readbuf := none }, start := rx.cipher_state }

inductive Inbound.Event (κ ζ : Type)
  | arrive (bs : Bytes)
  /-- A call, with the answers to its calls of `read`. -/
  | read_packet (first rest : Answer)
  /-- New keys, or a new state of the compression. -/
  | switched (keys : Keys κ) (cipher_state : κ) (is_compress_recv : Bool) (zstream : ζ)

/-- The session after a call of `read_packet`. -/
def Inbound.after (s : Inbound κ ζ) (first rest : Answer) :
    Except Exit (Option Buffer × Receiver κ ζ × Bytes) → Inbound κ ζ
  | .error e => { s with exit := some e }
  | .ok (some _, rx, stream) =>
    { s with rx, stream, held := [], start := rx.cipher_state, tries := 0 }
  | .ok (none, rx, stream) =>
    { s with
      rx, stream
      held := s.held ++ s.stream.take (s.stream.length - stream.length)
      tries := if s.stream ≠ [] ∧ first.transfers ∧ rest.transfers then s.tries + 1 else s.tries }

def Inbound.step (zlib : Zlib ζ) (s : Inbound κ ζ) : Inbound.Event κ ζ → Option (Inbound κ ζ)
  | .arrive bs => some { s with stream := s.stream ++ bs }
  | .read_packet first rest =>
    if s.exit.isSome then none
    else some (s.after first rest (Wire.read_packet zlib s.rx s.stream first rest))
  | .switched keys cipher_state is_compress_recv zstream =>
    if s.rx.readbuf.isSome then none
    else some { s with
      rx := { s.rx with keys, cipher_state, is_compress_recv, zstream }
      start := cipher_state }

end SimpleSshd.Dropbear.Wire
