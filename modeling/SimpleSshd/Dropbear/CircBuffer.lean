import SimpleSshd.Dropbear.Packet
import SimpleSshd.Lib.Ring

/-!
# `circbuffer.c`: the ring buffer of a channel

The data of a channel waits in a ring buffer of fixed size until it can be written to the local
descriptor. The block is allocated by the first write. A pointer into the block is its index, and
what is read or written there is checked: outside the block it is a fault.

Ring buffers and channels state what they rely on with `dropbear_assert`. Which assertion failed is
kept apart here, so that the proofs can say which ones cannot fail.
-/

namespace SimpleSshd.Dropbear

open Wire (add32 sub32)

/-- The `dropbear_assert`s of `circbuffer.c`, `common-channel.c` and `svr-chansession.c`. -/
inductive Assertion
  /-- `cbuf_writelen`: `cbuf->used <= cbuf->size`. -/
  | writelenUsed
  /-- `cbuf_writelen`: from the read to the write position it is `used`, modulo the size. -/
  | writelenWritepos
  /-- `cbuf_writelen`: and back it is the rest. -/
  | writelenReadpos
  /-- `cbuf_incrwrite`: `cbuf->used <= cbuf->size`. -/
  | incrwriteUsed
  /-- `cbuf_incrread`: `cbuf->used >= len`. -/
  | incrreadUsed
  /-- `writechannel`: `channel->recvwindow <= opts.recv_window`. -/
  | writechannelWindow
  /-- `writechannel`: `channel->recvwindow <= cbuf_getavail(channel->writebuf)`. -/
  | writechannelAvail
  /-- `send_msg_channel_data`: `!channel->sent_close`. -/
  | sendDataClosed
  /-- `send_msg_channel_data`: `fd >= 0`. -/
  | sendDataFd
  /-- `common_recv_msg_channel_data`: `channel->recvwindow >= datalen`. -/
  | recvDataWindow
  /-- `common_recv_msg_channel_data`: `channel->recvwindow <= opts.recv_window`. -/
  | recvDataLimit
  /-- `chansessionrequest`: `chansess != NULL`. -/
  | requestChansess
  deriving DecidableEq, Repr

/-- How a call can fail to return. -/
inductive Abort
  | exit (e : Exit)
  | assertion (a : Assertion)
  /-- A loop goes round without end. -/
  | hang
  deriving DecidableEq, Repr

def dropbear_assertion (a : Assertion) (p : Prop) [Decidable p] : Except Abort Unit :=
  if p then pure () else throw (.assertion a)

/-- A call of code that has no assertions of its own. -/
def exits {α : Type} (x : Except Exit α) : Except Abort α := x.mapError .exit

/-- `a % b`, which is undefined for `b = 0`. -/
def umod (a b : Nat) : Except Abort Nat := if b = 0 then throw (.exit .fault) else pure (a % b)

def MAX_CBUF_SIZE : Nat := 100000000

structure Circbuffer where
  size : Nat
  readpos : Nat
  writepos : Nat
  used : Nat
  /-- `none` before the first write. -/
  data : Option Bytes
  deriving DecidableEq, Repr

def cbuf_new (size : Nat) : Except Exit Circbuffer :=
  if size > MAX_CBUF_SIZE then dropbear_exit "Bad cbuf size"
  else pure { size := size, readpos := 0, writepos := 0, used := 0, data := none }

def cbuf_getused (cbuf : Circbuffer) : Nat := cbuf.used

def cbuf_getavail (cbuf : Circbuffer) : Nat := sub32 cbuf.size cbuf.used

/-- How much can be written in one piece. -/
def cbuf_writelen (cbuf : Circbuffer) : Except Abort Nat := do
  dropbear_assertion .writelenUsed (cbuf.used ≤ cbuf.size)
  let size2 := 2 * cbuf.size % 2 ^ 32
  let ahead ← umod (sub32 (add32 size2 cbuf.writepos) cbuf.readpos) cbuf.size
  let used ← umod cbuf.used cbuf.size
  dropbear_assertion .writelenWritepos (ahead = used)
  let back ← umod (sub32 (add32 size2 cbuf.readpos) cbuf.writepos) cbuf.size
  let rest ← umod (sub32 cbuf.size cbuf.used) cbuf.size
  dropbear_assertion .writelenReadpos (back = rest)
  if cbuf.used = cbuf.size then pure 0
  else if cbuf.writepos < cbuf.readpos then pure (sub32 cbuf.readpos cbuf.writepos)
  else pure (sub32 cbuf.size cbuf.writepos)

/-- What `cbuf_readptrs` stores in its arguments. -/
structure ReadPtrs where
  p1 : Nat
  len1 : Nat
  /-- `none` for a null pointer. -/
  p2 : Option Nat
  len2 : Nat
  deriving DecidableEq, Repr

def cbuf_readptrs (cbuf : Circbuffer) : ReadPtrs :=
  let len1 := min cbuf.used (sub32 cbuf.size cbuf.readpos)
  if len1 < cbuf.used then
    { p1 := cbuf.readpos, len1 := len1, p2 := some 0, len2 := sub32 cbuf.used len1 }
  else { p1 := cbuf.readpos, len1 := len1, p2 := none, len2 := 0 }

/-- The `len` bytes of the block at `p`. -/
def Circbuffer.load (cbuf : Circbuffer) (p len : Nat) : Except Abort Bytes :=
  match cbuf.data with
  | some cells =>
    if p + len ≤ cells.length then pure ((cells.drop p).take len) else throw (.exit .fault)
  | none => if len = 0 then pure [] else throw (.exit .fault)

/-- `memcpy` of `bytes` to the place `p` of the block. -/
def Circbuffer.store (cbuf : Circbuffer) (p : Nat) (bytes : Bytes) : Except Abort Circbuffer :=
  match cbuf.data with
  | some cells =>
    if p + bytes.length ≤ cells.length then
      pure { cbuf with data := some (Overwrite.overwrite cells p bytes) }
    else throw (.exit .fault)
  | none => if bytes = [] then pure cbuf else throw (.exit .fault)

/-- The block allocated, if it is not yet. -/
def Circbuffer.allocated (cbuf : Circbuffer) : Circbuffer :=
  { cbuf with data := some (cbuf.data.getD (List.replicate cbuf.size 0)) }

/-- The place to write to, and the ring with its block. -/
def cbuf_writeptr (cbuf : Circbuffer) (len : Nat) : Except Abort (Nat × Circbuffer) := do
  let writelen ← cbuf_writelen cbuf
  if len > writelen then exits (dropbear_exit "Bad cbuf write")
  else pure (cbuf.writepos, cbuf.allocated)

def cbuf_incrwrite (cbuf : Circbuffer) (len : Nat) : Except Abort Circbuffer := do
  let writelen ← cbuf_writelen cbuf
  if len > writelen then exits (dropbear_exit "Bad cbuf write")
  else
    let used := add32 cbuf.used len
    dropbear_assertion .incrwriteUsed (used ≤ cbuf.size)
    let writepos ← umod (add32 cbuf.writepos len) cbuf.size
    pure { cbuf with used := used, writepos := writepos }

def cbuf_incrread (cbuf : Circbuffer) (len : Nat) : Except Abort Circbuffer := do
  dropbear_assertion .incrreadUsed (cbuf.used ≥ len)
  let readpos ← umod (add32 cbuf.readpos len) cbuf.size
  pure { cbuf with used := sub32 cbuf.used len, readpos := readpos }

/-! ## Sequences of calls -/

/-- The two portions that `cbuf_readptrs` gives, one behind the other. -/
def Circbuffer.segments (cbuf : Circbuffer) : Except Abort Bytes := do
  let ptrs := cbuf_readptrs cbuf
  let first ← cbuf.load ptrs.p1 ptrs.len1
  match ptrs.p2 with
  | none => pure first
  | some p2 => do
    let second ← cbuf.load p2 ptrs.len2
    pure (first ++ second)

/-- A call that changes the ring. -/
inductive RingCall
  /-- `cbuf_writeptr`, and `bytes` are copied to the place it gives. -/
  | writeptr (len : Nat) (bytes : Bytes)
  | incrwrite (len : Nat)
  | incrread (len : Nat)

def RingCall.run (cbuf : Circbuffer) : RingCall → Except Abort Circbuffer
  | .writeptr len bytes => do
    let (p, cbuf) ← cbuf_writeptr cbuf len
    cbuf.store p bytes
  | .incrwrite len => cbuf_incrwrite cbuf len
  | .incrread len => cbuf_incrread cbuf len

/-- The limits that a caller keeps to: it writes as much as `cbuf_writelen` allows, and reads as much as
`cbuf_getused` says there is. -/
def RingCall.Fits (cbuf : Circbuffer) : RingCall → Prop
  | .writeptr len bytes =>
    bytes.length ≤ len ∧ ∀ writelen, cbuf_writelen cbuf = .ok writelen → len ≤ writelen
  | .incrwrite len => ∀ writelen, cbuf_writelen cbuf = .ok writelen → len ≤ writelen
  | .incrread len => len ≤ cbuf_getused cbuf

/-- A call within the limits that returns. -/
def RingStep (cbuf : Circbuffer) (call : RingCall) (cbuf' : Circbuffer) : Prop :=
  call.Fits cbuf ∧ call.run cbuf = .ok cbuf'

end SimpleSshd.Dropbear
