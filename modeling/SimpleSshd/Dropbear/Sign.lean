import SimpleSshd.Dropbear.PrivKey
import SimpleSshd.Lib.Modular

/-!
# `rsa.c`, `dss.c`, `ecdsa.c`: signing, and the arithmetic of signatures

Bignums of `libtommath` are natural numbers. The hash functions and the arithmetic of points on a curve
are parameters; everything that is computed modulo a number is here. The random numbers that the
functions below draw with `gen_random_mpint` or `ecc_make_key_ex` are arguments.
-/

namespace SimpleSshd.Dropbear

/-! ## Bignums -/

def mp_exptmod (g x p : Nat) : Nat := Modular.powMod g x p

/-- The inverse modulo `b`. The source's functions do not return if `a` is a multiple of `b`. -/
def mp_invmod (a b : Nat) : Option Nat := Modular.inverse a b

def mp_mulmod (a b c : Nat) : Nat := a * b % c

def mp_addmod (a b c : Nat) : Nat := (a + b) % c

/-! ## Parameters -/

/-- `ltc_hash_descriptor`. -/
structure HashDesc where
  hashsize : Nat
  /-- `init`, `process` of the data, `done`. -/
  digest : Bytes → Bytes
  length_digest : ∀ data, (digest data).length = hashsize

/-- What `libtomcrypt` computes with points, in affine coordinates. -/
structure EccOps where
  /-- A multiple of the curve's base point. -/
  basemul : Curve → Nat → Nat × Nat
  ecc_ptmul : Curve → Nat → Nat × Nat → Nat × Nat
  /-- The x coordinate of `u1*G + u2*Q`. -/
  ecc_mul2add : Curve → Nat → Nat → Nat × Nat → Nat

structure Primitives where
  sha1 : HashDesc
  sha1_hashsize : sha1.hashsize = SHA1_HASH_SIZE
  /-- The `hash_desc` of a curve. -/
  curve_hash : Curve → HashDesc
  ecc : EccOps

variable (prim : Primitives) (DIGIT_BIT : Nat)

/-! ## RSA -/

/-- ASN1 designator (including the 0x00 preceding). -/
def rsa_asn1_magic : Bytes :=
  [0x00, 0x30, 0x21, 0x30, 0x09, 0x06, 0x05, 0x2b, 0x0e, 0x03, 0x02, 0x1a, 0x05, 0x00, 0x04, 0x14]

def RSA_ASN1_MAGIC_LEN : Nat := 16

/-- `buf_putbyte` of one byte, a number of times. -/
def putRepeated (val : UInt8) (b : Buffer) : Nat → Except Exit Buffer
  | 0 => pure b
  | k + 1 => do
    let b ← buf_putbyte b val
    putRepeated val b k

/-- The loop that pads with 0xFF. If there is no room for what comes behind the padding, the end of the
loop is never met, and the buffer overflows. -/
def padFF (rsa_EM : Buffer) : Except Exit Buffer :=
  let end_ := RSA_ASN1_MAGIC_LEN + SHA1_HASH_SIZE
  if rsa_EM.pos + end_ ≤ rsa_EM.size then
    putRepeated 0xff rsa_EM (rsa_EM.size - end_ - rsa_EM.pos)
  else dropbear_exit "Bad buf_incrlen"

/-- The message value as expected by PKCS. -/
def rsa_pad_em (key : RsaKey) (data : Bytes) : Except Exit Nat := do
  let nsize := mp_unsigned_bin_size key.n
  let rsa_EM ← if nsize = 0 then dropbear_exit "buf->size too big" else buf_new (nsize - 1)
  -- type byte
  let rsa_EM ← buf_putbyte rsa_EM 0x01
  let rsa_EM ← padFF rsa_EM
  let rsa_EM ← buf_putbytes rsa_EM rsa_asn1_magic
  let rsa_EM ← buf_putbytes rsa_EM (prim.sha1.digest data)
  dropbear_assert (rsa_EM.pos = rsa_EM.size)
  let rsa_EM ← buf_setpos rsa_EM 0
  let bytes ← buf_getptr rsa_EM rsa_EM.size
  pure (Framing.ofBytes bytes)

/-- A number in the last bytes of a field of `nsize` bytes. -/
def putPadded (b : Buffer) (nsize n : Nat) : Except Exit Buffer := do
  let ssize := mp_unsigned_bin_size n
  dropbear_assert (ssize ≤ nsize)
  let b ← putRepeated 0 b (nsize - ssize)
  buf_getwriteptr b ssize
  let b ← b.store (mp_to_unsigned_bin n)
  buf_incrwritepos b ssize

/-- With blinding; `r` is the blinding value. -/
def buf_put_rsa_sign (b : Buffer) (key : RsaPrivKey) (data : Bytes) (r : Nat) : Except Exit Buffer := do
  let em ← rsa_pad_em prim key.toRsaKey data
  match mp_invmod r key.n with
  | none => dropbear_exit "RSA error"
  | some r_inv =>
    let em' := mp_mulmod em (mp_exptmod r key.e key.n) key.n
    let s' := mp_exptmod em' key.d key.n
    let s := mp_mulmod s' r_inv key.n
    let b ← buf_putstring b (ascii "ssh-rsa")
    let nsize := mp_unsigned_bin_size key.n
    let b ← buf_putint b nsize
    putPadded b nsize s

/-- The number that a signature is compared with. -/
def rsa_verify (key : RsaKey) (s : Nat) (data : Bytes) : Bool :=
  match rsa_pad_em prim key data with
  | .error _ => false
  | .ok em => em = mp_exptmod s key.e key.n

/-! ## DSS -/

/-- The two numbers of a signature with the random number `k`. -/
def dss_sign_params (key : DssPrivKey) (m k : Nat) : Except Exit (Nat × Nat) := do
  let r := mp_exptmod key.g k key.p % key.q
  let xr := mp_mulmod r key.x key.q
  let sum := mp_addmod m xr key.q
  match mp_invmod k key.q with
  | none => dropbear_exit "DSS error"
  | some k_inv => pure (r, mp_mulmod k_inv sum key.q)

def buf_put_dss_sign (b : Buffer) (key : DssPrivKey) (data : Bytes) (k : Nat) : Except Exit Buffer := do
  let (r, s) ← dss_sign_params key (Framing.ofBytes (prim.sha1.digest data)) k
  let b ← buf_putstring b (ascii "ssh-dss")
  let b ← buf_putint b (2 * SHA1_HASH_SIZE)
  let b ← putPadded b SHA1_HASH_SIZE r
  putPadded b SHA1_HASH_SIZE s

def dss_verify (key : DssKey) (r s : Nat) (data : Bytes) : Bool :=
  match mp_invmod s key.q with
  | none => false
  | some w =>
    let u1 := mp_mulmod (Framing.ofBytes (prim.sha1.digest data)) w key.q
    let u2 := mp_mulmod r w key.q
    let v := mp_mulmod (mp_exptmod key.g u1 key.p) (mp_exptmod key.y u2 key.p) key.p % key.q
    v = r

/-! ## ECDSA -/

/-- The loop over ephemeral keys; `none` if the ones that are given were all refused. -/
def ecdsa_sign_params (key : EccPrivKey) (e : Nat) : List Nat → Except Exit (Option (Nat × Nat))
  | [] => pure none
  | k :: ks =>
    let p := key.curve.order
    let r := (prim.ecc.basemul key.curve k).1 % p
    -- try again
    if r = 0 then ecdsa_sign_params key e ks
    else
      match mp_invmod k p with
      | none => dropbear_exit "ECC error"
      | some k_inv =>
        let s := mp_mulmod ((e + mp_mulmod key.k r p) % p) k_inv p
        if s = 0 then ecdsa_sign_params key e ks else pure (some (r, s))

/-- The ephemeral keys are the multiples of the base point by `ks`. -/
def buf_put_ecdsa_sign (b : Buffer) (key : EccPrivKey) (data : Bytes) (ks : List Nat) :
    Except Exit (Option Buffer) := do
  let e := Framing.ofBytes ((prim.curve_hash key.curve).digest data)
  let params ← ecdsa_sign_params prim key e ks
  match params with
  | none => pure none
  | some (r, s) =>
    let b ← buf_putstring b (ascii "ecdsa-sha2-" ++ key.curve.name)
    -- enough for nistp521
    let sigbuf ← buf_new 200
    let sigbuf ← buf_putmpint DIGIT_BIT sigbuf r
    let sigbuf ← buf_putmpint DIGIT_BIT sigbuf s
    some <$> buf_putbufstring b sigbuf

def ecdsa_verify (key : EccKey) (r s : Nat) (data : Bytes) : Bool :=
  let p := key.curve.order
  match mp_invmod s p with
  | none => false
  | some w =>
    let u1 := mp_mulmod (Framing.ofBytes ((prim.curve_hash key.curve).digest data)) w p
    let u2 := mp_mulmod r w p
    let v := prim.ecc.ecc_mul2add key.curve u1 u2 (key.x, key.y) % p
    v = r

/-! ## Keys of any type -/

/-- The arithmetic of verification. -/
def crypto : Crypto where
  rsa_verify := rsa_verify prim
  dss_verify := dss_verify prim
  ecdsa_verify := ecdsa_verify prim

/-- What `buf_put_sign` puts into its string; an ECDSA key that is not there writes nothing. The random
numbers are taken from `nonces`, and `none` is the result if there are not enough of them. -/
def putSignBlob (sigblob : Buffer) (key : SignPrivKey) (type : SignkeyType) (data : Bytes)
    (nonces : List Nat) : Except Exit (Option Buffer) := do
  match type with
  | .DSS =>
    let dsskey ← assertKey key.dsskey
    match nonces with
    | [] => pure none
    | k :: _ => some <$> buf_put_dss_sign prim sigblob dsskey data k
  | .RSA =>
    let rsakey ← assertKey key.rsakey
    match nonces with
    | [] => pure none
    | r :: _ => some <$> buf_put_rsa_sign prim sigblob rsakey data r
  | type =>
    match key.ecckey type with
    | some eck => buf_put_ecdsa_sign prim DIGIT_BIT sigblob eck data nonces
    | none => pure (some sigblob)

def buf_put_sign (b : Buffer) (key : SignPrivKey) (type : SignkeyType) (data : Bytes)
    (nonces : List Nat) : Except Exit (Option Buffer) := do
  let sigblob ← buf_new MAX_PUBKEY_SIZE
  let sigblob ← putSignBlob prim DIGIT_BIT sigblob key type data nonces
  match sigblob with
  | none => pure none
  | some sigblob =>
    if sigblob.len = 0 then dropbear_exit "Non-matching signing type"
    else some <$> buf_putbufstring b sigblob

end SimpleSshd.Dropbear
