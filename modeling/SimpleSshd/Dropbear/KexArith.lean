import SimpleSshd.Dropbear.Kex
import SimpleSshd.Dropbear.Sign

/-!
# `common-kex.c`: the arithmetic of the key exchange

The functions behind the parameters of `KexCrypto`: the secrets and public values of the three kinds of
exchange, and the keys that are hashed from what was agreed on. The hash function and the group of an
algorithm, the arithmetic on curve25519 and the drawing of a number below a bound are parameters here.
-/

namespace SimpleSshd.Dropbear

def DH_G_VAL : Nat := 2
def CURVE25519_LEN : Nat := 32

structure KexPrimitives extends Primitives where
  /-- The `hash_desc` of an algorithm. -/
  hash_desc : Kex → HashDesc
  /-- The number that `load_dh_p` reads. -/
  dh_p : Kex → Nat
  ecc_curve : Kex → Curve
  /-- A number drawn from random bytes. -/
  gen_random_mpint : Nat → Bytes → Nat
  /-- `0 < rand < max` is what its loop waits for. -/
  gen_random_mpint_range : ∀ max random, 1 < max →
    0 < gen_random_mpint max random ∧ gen_random_mpint max random < max
  curve25519_donna : Bytes → Bytes → Bytes

/-- `genrandom` of so many bytes. -/
def takeRandom (random : Bytes) (n : Nat) : Bytes := (random ++ List.replicate n 0).take n

variable (prims : KexPrimitives)

/-! ## Secrets and public values -/

structure KexDhParam where
  priv : Nat
  pub : Nat
  deriving DecidableEq, Repr

structure KexCurve25519Param where
  priv : Bytes
  pub : Bytes
  deriving DecidableEq, Repr

def gen_kexdh_param (kex : Kex) (random : Bytes) : KexDhParam :=
  let dh_p := prims.dh_p kex
  let dh_q := (dh_p - 1) / 2
  let priv := prims.gen_random_mpint dh_q random
  { priv, pub := mp_exptmod DH_G_VAL priv dh_p }

/-- The shared secret of `kexdh_comb_key`. -/
def kexdh_comb_key (kex : Kex) (param : KexDhParam) (dh_pub_them : Nat) : Except Exit Nat :=
  let dh_p := prims.dh_p kex
  -- in the range [2, p-2]
  if ¬ dh_pub_them < dh_p - 1 ∨ ¬ dh_pub_them > 1 then dropbear_exit "Diffie-Hellman error"
  else pure (mp_exptmod dh_pub_them param.priv dh_p)

/-- `ecc_make_key_ex`. -/
def gen_kexecdh_param (kex : Kex) (random : Bytes) : EccPrivKey :=
  let curve := prims.ecc_curve kex
  let k := Framing.ofBytes (takeRandom random curve.size) % curve.order
  let point := prims.ecc.basemul curve k
  { curve, x := point.1, y := point.2, k }

def kexecdh_comb_key (kex : Kex) (key : EccPrivKey) (pub_them : Bytes) : Except Exit Nat := do
  let b ← Buffer.holding pub_them
  let Q_them ← buf_get_ecc_raw_pubkey b (prims.ecc_curve kex)
  match Q_them with
  | none => dropbear_exit "ECC error"
  | some Q_them => pure (prims.ecc.ecc_ptmul key.curve key.k (Q_them.x, Q_them.y)).1

def basepoint : Bytes := 9 :: List.replicate 31 0

/-- The bits of the secret that are fixed. -/
def clamp (priv : Bytes) : Bytes :=
  (priv.modify 0 (· &&& 248)).modify 31 fun last => (last &&& 127) ||| 64

def gen_kexcurve25519_param (random : Bytes) : KexCurve25519Param :=
  let priv := clamp (takeRandom random CURVE25519_LEN)
  { priv, pub := prims.curve25519_donna priv basepoint }

def kexcurve25519_comb_key (param : KexCurve25519Param) (buf_pub_them : Bytes) : Except Exit Nat :=
  if buf_pub_them.length ≠ CURVE25519_LEN then dropbear_exit "Bad curve25519"
  else
    let out := prims.curve25519_donna param.priv buf_pub_them
    if out = List.replicate CURVE25519_LEN 0 then dropbear_exit "Bad curve25519"
    else pure (Framing.ofBytes out)

/-- One side's secret, of the kind that the algorithm asks for. -/
inductive KexParam
  | dh (param : KexDhParam)
  | ecdh (key : EccPrivKey)
  | curve25519 (param : KexCurve25519Param)
  deriving DecidableEq, Repr

def gen_kex_param (kex : Kex) (random : Bytes) : KexParam :=
  match kex.mode with
  | .NORMAL_DH => .dh (gen_kexdh_param prims kex random)
  | .ECDH => .ecdh (gen_kexecdh_param prims kex random)
  | .CURVE25519 => .curve25519 (gen_kexcurve25519_param prims random)

/-- The public value that is sent. -/
def KexParam.value : KexParam → Except Exit KexValue
  | .dh param => pure (.dh param.pub)
  | .ecdh key =>
    match ecc_ansi_x963_export key.toEccKey with
    | none => dropbear_exit "ECC error"
    | some point => pure (.ecdh point)
  | .curve25519 param => pure (.ecdh param.pub)

/-- The secret that one side's parameter and the other's public value give. -/
def KexParam.comb_key (kex : Kex) : KexParam → KexValue → Except Exit Nat
  | .dh param, .dh dh_pub_them => kexdh_comb_key prims kex param dh_pub_them
  | .ecdh key, .ecdh pub_them => kexecdh_comb_key prims kex key pub_them
  | .curve25519 param, .ecdh pub_them => kexcurve25519_comb_key prims param pub_them
  | _, _ => throw .fault

/-- The server's side, which draws its parameter once it has the client's value. -/
def comb_key (kex : Kex) (theirs : KexValue) (random : Bytes) : Except Exit (KexValue × Nat) := do
  let param := gen_kex_param prims kex random
  let dh_K ← param.comb_key prims kex theirs
  let ours ← param.value
  pure (ours, dh_K)

/-- The server's public value as `recv_msg_kexdh_reply` of the client reads it; the signature follows. -/
def readReplyValue (mode : KexMode) (payload : Buffer) : Except Exit (KexValue × Buffer) := do
  match mode with
  | .NORMAL_DH =>
    let (dh_f, payload) ← buf_getmpint payload
    match dh_f with
    | none => dropbear_exit "Bad KEX packet"
    | some dh_f => pure (.dh dh_f, payload)
  | .ECDH | .CURVE25519 =>
    let (ecdh_qs, payload) ← buf_getstringbuf payload
    pure (.ecdh ecdh_qs.contents, payload)

/-! ## Keys -/

/-- The loop of `hashkeys`: the key so far is hashed again until there is enough of it. -/
def extendKey (desc : HashDesc) (hs : Bytes) (outlen offset : Nat) (out : Bytes) : Bytes :=
  if offset < outlen ∧ 0 < desc.hashsize then
    let tmpout := desc.digest (hs ++ out.take offset)
    extendKey desc hs outlen (offset + desc.hashsize) (out ++ tmpout.take (outlen - offset))
  else out
termination_by outlen - offset

/-- `hs` is what was hashed before, the secret and the hash of the exchange. -/
def hashkeys (desc : HashDesc) (hs session_id : Bytes) (outlen : Nat) (X : UInt8) : Bytes :=
  let tmpout := desc.digest (hs ++ X :: session_id)
  extendKey desc hs outlen desc.hashsize (tmpout.take outlen)

end SimpleSshd.Dropbear
