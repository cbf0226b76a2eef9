import SimpleSshd.Lib.Fallible
import SimpleSshd.Lib.Framing

/-!
# `buffer.c`: checked access to byte buffers

A buffer is an allocated block of bytes with a used length and a position. Every access goes through
the functions below, which call `dropbear_exit` rather than leave the block. The bounds are fields of
the structure, so a buffer out of bounds cannot be built.

Positions and lengths are `unsigned int` in the source. All of them are at most `BUF_MAX_SIZE` here
and increments are checked against `BUF_MAX_INCR` first, so their 32-bit sums do not wrap around.
-/

namespace SimpleSshd.Dropbear

export Framing (Bytes)

/-- How the process can end. -/
inductive Exit
  | dropbear_exit (msg : String)
  | dropbear_close (msg : String)
  /-- A null pointer was dereferenced. -/
  | fault
  deriving DecidableEq, Repr

/-- What the functions that can fail without exiting return. -/
inductive Status
  | DROPBEAR_SUCCESS
  | DROPBEAR_FAILURE
  deriving DecidableEq, Repr

export Status (DROPBEAR_SUCCESS DROPBEAR_FAILURE)

def dropbear_exit {α : Type} (msg : String) : Except Exit α := throw (.dropbear_exit msg)

def dropbear_close {α : Type} (msg : String) : Except Exit α := throw (.dropbear_close msg)

def dropbear_assert (p : Prop) [Decidable p] : Except Exit Unit :=
  if p then pure () else dropbear_exit "Failed assertion (%s:%d): `%s'"

def BUF_MAX_INCR : Nat := 1000000000
def BUF_MAX_SIZE : Nat := 1000000000

/-- Bignums of more than 8240 bits are refused. -/
def BUF_MAX_MPINT : Nat := 8240 / 8

def MAX_STRING_LEN : Nat := 9000

@[ext] structure Buffer where
  /-- The whole block, `size` bytes. -/
  data : Bytes
  len : Nat
  pos : Nat
  pos_le : pos ≤ len
  len_le : len ≤ data.length
  size_le : data.length ≤ BUF_MAX_SIZE
  deriving DecidableEq, Repr

namespace Buffer

def size (b : Buffer) : Nat := b.data.length

/-- The used bytes. -/
def contents (b : Buffer) : Bytes := b.data.take b.len

/-- The used bytes from the position on. -/
def rest (b : Buffer) : Bytes := (b.data.take b.len).drop b.pos

/-- The position moved to `p`. -/
def moveTo (b : Buffer) (p : Nat) (h : p ≤ b.len) : Buffer := { b with pos := p, pos_le := h }

end Buffer

/-- A fresh block of zeroes. -/
def buf_new (size : Nat) : Except Exit Buffer :=
  if h : size > BUF_MAX_SIZE then dropbear_exit "buf->size too big"
  else pure {
    data := List.replicate size 0
    len := 0
    pos := 0
    pos_le := Nat.le_refl 0
    len_le := Nat.zero_le _
    size_le := by rw [List.length_replicate]; omega }

/-- A block full of these bytes, with the position at the first one. -/
def Buffer.full (bytes : Bytes) (h : bytes.length ≤ BUF_MAX_SIZE) : Buffer where
  data := bytes
  len := bytes.length
  pos := 0
  pos_le := Nat.zero_le _
  len_le := Nat.le_refl _
  size_le := h

/-- A block just large enough for these bytes, holding them. -/
def Buffer.holding (bytes : Bytes) : Except Exit Buffer :=
  if h : bytes.length > BUF_MAX_SIZE then dropbear_exit "buf->size too big"
  else pure (Buffer.full bytes (Nat.le_of_not_lt h))

/-- The copy is as large as the used part. -/
def buf_newcopy (b : Buffer) : Except Exit Buffer := Buffer.holding b.contents

/-- The block grown or cut to `newsize` bytes. What it grows by is not read before it is written. -/
def buf_resize (b : Buffer) (newsize : Nat) : Except Exit Buffer :=
  if h : newsize > BUF_MAX_SIZE then dropbear_exit "buf->size too big"
  else pure {
    data := b.data.take newsize ++ List.replicate (newsize - b.data.length) 0
    len := min newsize b.len
    pos := min newsize b.pos
    pos_le := by have := b.pos_le; omega
    len_le := by
      have := b.len_le
      simp only [List.length_append, List.length_take, List.length_replicate]
      omega
    size_le := by
      simp only [List.length_append, List.length_take, List.length_replicate]
      omega }

def buf_setlen (b : Buffer) (len : Nat) : Except Exit Buffer :=
  if h : len > b.size then dropbear_exit "Bad buf_setlen"
  else pure { b with
    len := len
    pos := min b.pos len
    pos_le := Nat.min_le_right _ _
    len_le := Nat.le_of_not_lt h }

def buf_incrlen (b : Buffer) (incr : Nat) : Except Exit Buffer :=
  if h : incr > BUF_MAX_INCR ∨ b.len + incr > b.size then dropbear_exit "Bad buf_incrlen"
  else pure { b with
    len := b.len + incr
    pos_le := Nat.le_trans b.pos_le (Nat.le_add_right _ _)
    len_le := Nat.le_of_not_lt fun hlt => h (Or.inr hlt) }

def buf_setpos (b : Buffer) (pos : Nat) : Except Exit Buffer :=
  if h : pos > b.len then dropbear_exit "Bad buf_setpos"
  else pure (b.moveTo pos (Nat.le_of_not_lt h))

def buf_incrwritepos (b : Buffer) (incr : Nat) : Except Exit Buffer :=
  if h : incr > BUF_MAX_INCR ∨ b.pos + incr > b.size then dropbear_exit "Bad buf_incrwritepos"
  else pure { b with
    pos := b.pos + incr
    len := max b.len (b.pos + incr)
    pos_le := Nat.le_max_right _ _
    len_le := Nat.max_le.mpr ⟨b.len_le, Nat.le_of_not_lt fun hlt => h (Or.inr hlt)⟩ }

/-- The increment is an `int`: a negative one moves back. -/
def buf_incrpos (b : Buffer) (incr : Int) : Except Exit Buffer :=
  if h : incr > BUF_MAX_INCR ∨ incr < -BUF_MAX_INCR ∨ (b.pos : Int) + incr > b.len ∨
      (b.pos : Int) + incr < 0 then dropbear_exit "Bad buf_incrpos"
  else pure (b.moveTo ((b.pos : Int) + incr).toNat (by omega))

/-- An `unsigned int` passed for an `int`. -/
def toInt32 (n : Nat) : Int := if n % 2 ^ 32 < 2 ^ 31 then n % 2 ^ 32 else n % 2 ^ 32 - 2 ^ 32

def buf_getbyte (b : Buffer) : Except Exit (UInt8 × Buffer) :=
  if h : b.pos ≥ b.len then dropbear_exit "Bad buf_getbyte"
  else pure (b.data.getD b.pos 0, b.moveTo (b.pos + 1) (by omega))

def buf_getbool (b : Buffer) : Except Exit (Bool × Buffer) := do
  let (c, b) ← buf_getbyte b
  pure (c != 0, b)

/-- Write `bytes` at the position, without moving it. -/
def Buffer.write (b : Buffer) (bytes : Bytes) (h : b.pos + bytes.length ≤ b.data.length) : Buffer :=
  { b with
    data := b.data.take b.pos ++ bytes ++ b.data.drop (b.pos + bytes.length)
    len_le := by
      have := b.len_le
      have := b.pos_le
      simp only [List.length_append, List.length_take, List.length_drop]
      omega
    size_le := by
      have := b.size_le
      have := b.len_le
      have := b.pos_le
      simp only [List.length_append, List.length_take, List.length_drop]
      omega }

/-- The `len` bytes at the position. -/
def buf_getptr (b : Buffer) (len : Nat) : Except Exit Bytes :=
  if len > BUF_MAX_INCR ∨ b.pos + len > b.len then dropbear_exit "Bad buf_getptr"
  else pure (b.rest.take len)

/-- Like `buf_getptr`, but for writing: checked against the size. -/
def buf_getwriteptr (b : Buffer) (len : Nat) : Except Exit Unit :=
  if len > BUF_MAX_INCR ∨ b.pos + len > b.size then dropbear_exit "Bad buf_getwriteptr" else pure ()

/-- Bytes stored where one of these pointers points to; the position stays. -/
def Buffer.store (b : Buffer) (bytes : Bytes) : Except Exit Buffer :=
  if h : b.pos + bytes.length ≤ b.data.length then pure (b.write bytes h) else throw .fault

/-- `memcpy` to `buf_getwriteptr`, then `buf_incrwritepos`. -/
def buf_putbytes (b : Buffer) (bytes : Bytes) : Except Exit Buffer :=
  if h : bytes.length > BUF_MAX_INCR ∨ b.pos + bytes.length > b.size then
    dropbear_exit "Bad buf_getwriteptr"
  else buf_incrwritepos (b.write bytes (Nat.le_of_not_lt fun hlt => h (Or.inr hlt))) bytes.length

def buf_putbyte (b : Buffer) (val : UInt8) : Except Exit Buffer := do
  let b ← if b.pos ≥ b.len then buf_incrlen b 1 else pure b
  if h : b.pos < b.len then
    pure ((b.write [val] (Nat.le_trans h b.len_le)).moveTo (b.pos + 1) h)
  else throw .fault

/-- `LOAD32H` of the next four bytes. -/
def buf_getint (b : Buffer) : Except Exit (Nat × Buffer) := do
  let bytes ← buf_getptr b 4
  let b ← buf_incrpos b 4
  pure (Framing.ofBytes bytes, b)

def buf_putint (b : Buffer) (val : Nat) : Except Exit Buffer := buf_putbytes b (Framing.be32 val)

def buf_putstring (b : Buffer) (str : Bytes) : Except Exit Buffer := do
  let b ← buf_putint b str.length
  buf_putbytes b str

def buf_putbufstring (b str : Buffer) : Except Exit Buffer := buf_putstring b str.contents

def buf_getstring (b : Buffer) : Except Exit (Bytes × Buffer) := do
  let (len, b) ← buf_getint b
  if len > MAX_STRING_LEN then dropbear_exit "String too long"
  else
    let src ← buf_getptr b len
    let b ← buf_incrpos b (toInt32 len)
    pure (src, b)

/-- The string as a buffer of its own, positioned at its start. -/
def buf_getstringbuf (b : Buffer) : Except Exit (Buffer × Buffer) := do
  let (len, b) ← buf_getint b
  if len > MAX_STRING_LEN then dropbear_exit "String too long"
  else
    let src ← buf_getptr b len
    let ret ← Buffer.holding src
    let b ← buf_incrpos b (toInt32 len)
    pure (ret, b)

def buf_eatstring (b : Buffer) : Except Exit Buffer := do
  let (len, b) ← buf_getint b
  buf_incrpos b (toInt32 len)

/-- A non-negative bignum; `none` is `DROPBEAR_FAILURE`, after which the position is of no use. -/
def buf_getmpint (b : Buffer) : Except Exit (Option Nat × Buffer) := do
  let (len, b) ← buf_getint b
  if len = 0 then pure (some 0, b)
  else if len > BUF_MAX_MPINT then pure (none, b)
  else
    let first ← buf_getptr b 1
    -- the sign bit
    if first.headD 0 &&& 0x80 ≠ 0 then pure (none, b)
    else
      let bytes ← buf_getptr b len
      let b ← buf_incrpos b (toInt32 len)
      pure (some (Framing.ofBytes bytes), b)

end SimpleSshd.Dropbear
