import SimpleSshd.Dropbear.Packet
import SimpleSshd.Lib.Runs

/-!
# One direction of a connection

The sending side of one session and the receiving side of its peer, with the bytes between them. Either
side does one thing at a time, in any order: a payload is sealed, `write_packet` hands some bytes over,
`read_packet` takes some.
-/

namespace SimpleSshd.Dropbear.Wire

variable {κ κ' ζ : Type}

structure Link (κ κ' ζ : Type) where
  tx : Sender κ
  rx : Receiver κ' ζ
  /-- The bytes written and not yet read. -/
  wire : Bytes := []
  /-- The payloads given to `encrypt_packet`. -/
  submitted : List Bytes := []
  /-- The payloads `read_packet` came up with. -/
  delivered : List Bytes := []
  exit : Option Exit := none
  /-- The bytes read since the last packet. -/
  held : Bytes := []
  /-- The state of the receiving cipher when the last packet was complete. -/
  start : κ'

/-- Nothing has been sent yet. -/
def Link.init (tx : Sender κ) (rx : Receiver κ' ζ) : Link κ κ' ζ where
  tx := { tx with writequeue := [], writequeue_len := 0 }
  rx := { rx with readbuf := none }
  start := rx.cipher_state

inductive Link.Event
  /-- A payload is submitted; `random` is for the padding. -/
  | encrypt_packet (payload : Bytes) (random : Nat → UInt8)
  /-- A call of `write_packet`, which is made only if there is something to write. -/
  | write_packet (answer : Answer)
  | read_packet (first rest : Answer)

/-- `encrypt_packet`, with the payload in `ses.writepayload`. -/
def submit (tx : Sender κ) (payload : Bytes) (random : Nat → UInt8) : Except Exit (Sender κ) := do
  let writepayload ← Buffer.holding payload
  encrypt_packet tx none random writepayload

def Link.afterSubmit (s : Link κ κ' ζ) (payload : Bytes) : Except Exit (Sender κ) → Link κ κ' ζ
  | .error e => { s with exit := some e }
  | .ok tx => { s with tx, submitted := s.submitted ++ [payload] }

def Link.afterWrite (s : Link κ κ' ζ) : Except Exit (Sender κ × Bytes) → Link κ κ' ζ
  | .error e => { s with exit := some e }
  | .ok (tx, bs) => { s with tx, wire := s.wire ++ bs }

def Link.afterRead (s : Link κ κ' ζ) :
    Except Exit (Option Buffer × Receiver κ' ζ × Bytes) → Link κ κ' ζ
  | .error e => { s with exit := some e }
  | .ok (some payload, rx, wire) =>
    { s with
      rx, wire
      delivered := s.delivered ++ [payload.rest]
      held := []
      start := rx.cipher_state }
  | .ok (none, rx, wire) =>
    { s with rx, wire, held := s.held ++ s.wire.take (s.wire.length - wire.length) }

def Link.step (zlib : Zlib ζ) (s : Link κ κ' ζ) (e : Link.Event) : Option (Link κ κ' ζ) :=
  if s.exit.isSome then none
  else match e with
    | .encrypt_packet payload random =>
      some (s.afterSubmit payload (submit s.tx payload random))
    | .write_packet answer =>
      if s.tx.writequeue.isEmpty then none
      else some (s.afterWrite (Wire.write_packet s.tx answer))
    | .read_packet first rest =>
      some (s.afterRead (Wire.read_packet zlib s.rx s.wire first rest))

end SimpleSshd.Dropbear.Wire
