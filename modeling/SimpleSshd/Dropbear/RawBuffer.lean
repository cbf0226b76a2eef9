import SimpleSshd.Dropbear.Buffer
import SimpleSshd.Lib.Overwrite

/-!
# `buffer.c` in 32-bit arithmetic

`Buffer` computes with numbers that have no bounds, and cannot be built out of bounds. Here are the same
functions with the types of the source: the numbers of a buffer are `unsigned int`s whose sums wrap
around, an `unsigned int` given for an `int` changes its sign, and nothing relates the fields of the
structure to each other or to the block.

A pointer into the block is the range that may be used from there on. Reading or writing outside the
block is a fault.
-/

namespace SimpleSshd.Dropbear

/-- `struct buf`. -/
structure RawBuffer where
  /-- The block that was allocated. -/
  data : Bytes
  size : UInt32
  len : UInt32
  pos : UInt32
  deriving DecidableEq, Repr

/-- The `length` bytes of a block from `start` on. -/
structure Range where
  start : Nat
  length : Nat
  deriving DecidableEq, Repr

namespace RawBuffer

/-- What stands in the range. -/
def load (buf : RawBuffer) (p : Range) : Except Exit Bytes :=
  if p.start + p.length ≤ buf.data.length then pure ((buf.data.drop p.start).take p.length)
  else throw .fault

/-- `memcpy` of `bytes` to the start of the range. -/
def store (buf : RawBuffer) (p : Range) (bytes : Bytes) : Except Exit RawBuffer :=
  if p.start + bytes.length ≤ buf.data.length then
    pure { buf with data := Overwrite.overwrite buf.data p.start bytes }
  else throw .fault

end RawBuffer

namespace Raw

def BUF_MAX_INCR : Int32 := 1000000000
def BUF_MAX_SIZE : Int32 := 1000000000
def MAX_STRING_LEN : Int32 := 9000

def buf_new (size : UInt32) : Except Exit RawBuffer :=
  if size > BUF_MAX_SIZE.toUInt32 then dropbear_exit "buf->size too big"
  else pure { data := List.replicate size.toNat 0, size := size, len := 0, pos := 0 }

def buf_resize (buf : RawBuffer) (newsize : UInt32) : Except Exit RawBuffer :=
  if newsize > BUF_MAX_SIZE.toUInt32 then dropbear_exit "buf->size too big"
  else pure {
    data := buf.data.take newsize.toNat ++ List.replicate (newsize.toNat - buf.data.length) 0
    size := newsize
    len := min newsize buf.len
    pos := min newsize buf.pos }

def buf_setlen (buf : RawBuffer) (len : UInt32) : Except Exit RawBuffer :=
  if len > buf.size then dropbear_exit "Bad buf_setlen"
  else pure { buf with len := len, pos := min buf.pos len }

def buf_incrlen (buf : RawBuffer) (incr : UInt32) : Except Exit RawBuffer :=
  if incr > BUF_MAX_INCR.toUInt32 ∨ buf.len + incr > buf.size then dropbear_exit "Bad buf_incrlen"
  else pure { buf with len := buf.len + incr }

def buf_setpos (buf : RawBuffer) (pos : UInt32) : Except Exit RawBuffer :=
  if pos > buf.len then dropbear_exit "Bad buf_setpos"
  else pure { buf with pos := pos }

def buf_incrwritepos (buf : RawBuffer) (incr : UInt32) : Except Exit RawBuffer :=
  if incr > BUF_MAX_INCR.toUInt32 ∨ buf.pos + incr > buf.size then
    dropbear_exit "Bad buf_incrwritepos"
  else
    let pos := buf.pos + incr
    pure { buf with pos := pos, len := if pos > buf.len then pos else buf.len }

def buf_incrpos (buf : RawBuffer) (incr : Int32) : Except Exit RawBuffer :=
  if incr > BUF_MAX_INCR ∨ incr < -BUF_MAX_INCR ∨ (buf.pos.toInt32 + incr).toUInt32 > buf.len ∨
      buf.pos.toInt32 + incr < 0 then dropbear_exit "Bad buf_incrpos"
  else pure { buf with pos := buf.pos + incr.toUInt32 }

def buf_getbyte (buf : RawBuffer) : Except Exit (UInt8 × RawBuffer) :=
  if buf.pos ≥ buf.len then dropbear_exit "Bad buf_getbyte"
  else do
    let bytes ← buf.load ⟨buf.pos.toNat, 1⟩
    pure (bytes.headD 0, { buf with pos := buf.pos + 1 })

def buf_putbyte (buf : RawBuffer) (val : UInt8) : Except Exit RawBuffer := do
  let buf ← if buf.pos ≥ buf.len then buf_incrlen buf 1 else pure buf
  let buf ← buf.store ⟨buf.pos.toNat, 1⟩ [val]
  pure { buf with pos := buf.pos + 1 }

def buf_getptr (buf : RawBuffer) (len : UInt32) : Except Exit Range :=
  if len > BUF_MAX_INCR.toUInt32 ∨ buf.pos + len > buf.len then dropbear_exit "Bad buf_getptr"
  else pure ⟨buf.pos.toNat, len.toNat⟩

def buf_getwriteptr (buf : RawBuffer) (len : UInt32) : Except Exit Range :=
  if len > BUF_MAX_INCR.toUInt32 ∨ buf.pos + len > buf.size then dropbear_exit "Bad buf_getwriteptr"
  else pure ⟨buf.pos.toNat, len.toNat⟩

def buf_getint (buf : RawBuffer) : Except Exit (UInt32 × RawBuffer) := do
  let p ← buf_getptr buf 4
  let bytes ← buf.load p
  let buf ← buf_incrpos buf 4
  pure (UInt32.ofNat (Framing.ofBytes bytes), buf)

/-- `bytes` are the `len` bytes at the pointer that is given. -/
def buf_putbytes (buf : RawBuffer) (bytes : Bytes) (len : UInt32) : Except Exit RawBuffer := do
  let p ← buf_getwriteptr buf len
  let buf ← buf.store p bytes
  buf_incrwritepos buf len

def buf_putint (buf : RawBuffer) (val : UInt32) : Except Exit RawBuffer := do
  let p ← buf_getwriteptr buf 4
  let buf ← buf.store p (Framing.be32 val.toNat)
  buf_incrwritepos buf 4

def buf_getstring (buf : RawBuffer) : Except Exit (Bytes × RawBuffer) := do
  let (len, buf) ← buf_getint buf
  if len > MAX_STRING_LEN.toUInt32 then dropbear_exit "String too long"
  else
    let src ← buf_getptr buf len
    let ret ← buf.load src
    let buf ← buf_incrpos buf len.toInt32
    pure (ret, buf)

def buf_eatstring (buf : RawBuffer) : Except Exit RawBuffer := do
  let (len, buf) ← buf_getint buf
  buf_incrpos buf len.toInt32

end Raw

/-! ## Sequences of calls -/

/-- A call of one of the functions that check their arguments, with any arguments. -/
inductive BufferCall
  | new (size : UInt32)
  | resize (newsize : UInt32)
  | setlen (len : UInt32)
  | incrlen (incr : UInt32)
  | setpos (pos : UInt32)
  | incrwritepos (incr : UInt32)
  | incrpos (incr : Int32)
  | getbyte
  | putbyte (val : UInt8)
  | getptr (len : UInt32)
  | getwriteptr (len : UInt32)
  | getint
  | putint (val : UInt32)
  | putbytes (bytes : Bytes) (len : UInt32) (h : bytes.length = len.toNat)
  | getstring

/-- The buffer after the call, and the range that a pointer was handed out for. -/
def BufferCall.run (buf : RawBuffer) : BufferCall → Except Exit (RawBuffer × Option Range)
  | .new size => do pure (← Raw.buf_new size, none)
  | .resize newsize => do pure (← Raw.buf_resize buf newsize, none)
  | .setlen len => do pure (← Raw.buf_setlen buf len, none)
  | .incrlen incr => do pure (← Raw.buf_incrlen buf incr, none)
  | .setpos pos => do pure (← Raw.buf_setpos buf pos, none)
  | .incrwritepos incr => do pure (← Raw.buf_incrwritepos buf incr, none)
  | .incrpos incr => do pure (← Raw.buf_incrpos buf incr, none)
  | .getbyte => do pure ((← Raw.buf_getbyte buf).2, none)
  | .putbyte val => do pure (← Raw.buf_putbyte buf val, none)
  | .getptr len => do pure (buf, some (← Raw.buf_getptr buf len))
  | .getwriteptr len => do pure (buf, some (← Raw.buf_getwriteptr buf len))
  | .getint => do pure ((← Raw.buf_getint buf).2, none)
  | .putint val => do pure (← Raw.buf_putint buf val, none)
  | .putbytes bytes len _ => do pure (← Raw.buf_putbytes buf bytes len, none)
  | .getstring => do pure ((← Raw.buf_getstring buf).2, none)

/-- A call that returns. Whatever is in the block may have been changed before the next one: callers
write through the pointers they are given, and what `realloc` adds is not set to anything. -/
def BufferStep (buf : RawBuffer) (call : BufferCall) (buf' : RawBuffer) : Prop :=
  ∃ buf₁ range data, call.run buf = .ok (buf₁, range) ∧ data.length = buf₁.data.length ∧
    buf' = { buf₁ with data := data }

end SimpleSshd.Dropbear
