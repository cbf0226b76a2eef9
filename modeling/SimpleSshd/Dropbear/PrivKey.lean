import SimpleSshd.Dropbear.Session

/-!
# `signkey.c`, `rsa.c`, `dss.c`, `ecdsa.c`, `ecc.c`: writing keys, and reading private ones

A private key is its public part with the secret numbers behind it. The same format is the host key's
file and, without the secret numbers, the blob that goes over the wire.
-/

namespace SimpleSshd.Dropbear

def MAX_PUBKEY_SIZE : Nat := 1700
def MAX_PRIVKEY_SIZE : Nat := 1700

/-- `dropbear_rsa_key` with its private part; keys written by old versions lack `p` and `q`. -/
structure RsaPrivKey extends RsaKey where
  d : Nat
  p : Option Nat
  q : Option Nat
  deriving DecidableEq, Repr

structure DssPrivKey extends DssKey where
  x : Nat
  deriving DecidableEq, Repr

structure EccPrivKey extends EccKey where
  k : Nat
  deriving DecidableEq, Repr

/-- `sign_key` with private keys in its slots. -/
structure SignPrivKey where
  rsakey : Option RsaPrivKey := none
  dsskey : Option DssPrivKey := none
  ecckey256 : Option EccPrivKey := none
  ecckey384 : Option EccPrivKey := none
  ecckey521 : Option EccPrivKey := none
  deriving DecidableEq, Repr

/-- What is public of the keys. -/
def SignPrivKey.pub (key : SignPrivKey) : SignKey where
  rsakey := key.rsakey.map (·.toRsaKey)
  dsskey := key.dsskey.map (·.toDssKey)
  ecckey256 := key.ecckey256.map (·.toEccKey)
  ecckey384 := key.ecckey384.map (·.toEccKey)
  ecckey521 := key.ecckey521.map (·.toEccKey)

/-- `signkey_key_ptr` for the ECDSA types. -/
def SignKey.ecckey (key : SignKey) : SignkeyType → Option EccKey
  | .ECDSA_NISTP256 => key.ecckey256
  | .ECDSA_NISTP384 => key.ecckey384
  | .ECDSA_NISTP521 => key.ecckey521
  | _ => none

def SignPrivKey.ecckey (key : SignPrivKey) : SignkeyType → Option EccPrivKey
  | .ECDSA_NISTP256 => key.ecckey256
  | .ECDSA_NISTP384 => key.ecckey384
  | .ECDSA_NISTP521 => key.ecckey521
  | _ => none

/-- `dropbear_assert(key != NULL)`. -/
def assertKey {α : Type} : Option α → Except Exit α
  | some key => pure key
  | none => dropbear_exit "Failed assertion (%s:%d): `%s'"

/-! ## Writing -/

section Writing

variable (DIGIT_BIT : Nat)

def buf_put_rsa_pub_key (b : Buffer) (key : RsaKey) : Except Exit Buffer := do
  let b ← buf_putstring b (ascii "ssh-rsa")
  let b ← buf_putmpint DIGIT_BIT b key.e
  buf_putmpint DIGIT_BIT b key.n

/-- A number that the key may lack. -/
def putOptional (b : Buffer) : Option Nat → Except Exit Buffer
  | some n => buf_putmpint DIGIT_BIT b n
  | none => pure b

def buf_put_rsa_priv_key (b : Buffer) (key : RsaPrivKey) : Except Exit Buffer := do
  let b ← buf_put_rsa_pub_key DIGIT_BIT b key.toRsaKey
  let b ← buf_putmpint DIGIT_BIT b key.d
  -- new versions have p and q, old versions don't
  let b ← putOptional DIGIT_BIT b key.p
  putOptional DIGIT_BIT b key.q

def buf_put_dss_pub_key (b : Buffer) (key : DssKey) : Except Exit Buffer := do
  let b ← buf_putstring b (ascii "ssh-dss")
  let b ← buf_putmpint DIGIT_BIT b key.p
  let b ← buf_putmpint DIGIT_BIT b key.q
  let b ← buf_putmpint DIGIT_BIT b key.g
  buf_putmpint DIGIT_BIT b key.y

def buf_put_dss_priv_key (b : Buffer) (key : DssPrivKey) : Except Exit Buffer := do
  let b ← buf_put_dss_pub_key DIGIT_BIT b key.toDssKey
  buf_putmpint DIGIT_BIT b key.x

/-- A number in `size` bytes, with zeroes in front. -/
def padded (size n : Nat) : Bytes :=
  List.replicate (size - mp_unsigned_bin_size n) 0 ++ mp_to_unsigned_bin n

/-- The point without compression, as `libtomcrypt` writes it. -/
def ecc_ansi_x963_export (key : EccKey) : Option Bytes :=
  let numlen := key.curve.size
  if mp_unsigned_bin_size key.x > numlen ∨ mp_unsigned_bin_size key.y > numlen then none
  else some (4 :: (padded numlen key.x ++ padded numlen key.y))

def buf_put_ecc_raw_pubkey_string (b : Buffer) (key : EccKey) : Except Exit Buffer := do
  let len := key.curve.size * 2 + 1
  let b ← buf_putint b len
  buf_getwriteptr b len
  match ecc_ansi_x963_export key with
  | none => dropbear_exit "ECC error"
  | some point =>
    let b ← b.store point
    buf_incrwritepos b len

def buf_put_ecdsa_pub_key (b : Buffer) (key : EccKey) : Except Exit Buffer := do
  let b ← buf_putstring b (ascii "ecdsa-sha2-" ++ key.curve.name)
  let b ← buf_putstring b key.curve.name
  buf_put_ecc_raw_pubkey_string b key

def buf_put_ecdsa_priv_key (b : Buffer) (key : EccPrivKey) : Except Exit Buffer := do
  let b ← buf_put_ecdsa_pub_key b key.toEccKey
  buf_putmpint DIGIT_BIT b key.k

/-- The content of the blob; nothing is written for an ECDSA key that is not there. -/
def putPubKeyBlob (pubkeys : Buffer) (key : SignKey) (type : SignkeyType) : Except Exit Buffer := do
  match type with
  | .DSS =>
    let dsskey ← assertKey key.dsskey
    buf_put_dss_pub_key DIGIT_BIT pubkeys dsskey
  | .RSA =>
    let rsakey ← assertKey key.rsakey
    buf_put_rsa_pub_key DIGIT_BIT pubkeys rsakey
  | type =>
    match key.ecckey type with
    | some eck => buf_put_ecdsa_pub_key pubkeys eck
    | none => pure pubkeys

def buf_put_pub_key (b : Buffer) (key : SignKey) (type : SignkeyType) : Except Exit Buffer := do
  let pubkeys ← buf_new MAX_PUBKEY_SIZE
  let pubkeys ← putPubKeyBlob DIGIT_BIT pubkeys key type
  if pubkeys.len = 0 then dropbear_exit "Bad key types in buf_put_pub_key"
  else buf_putbufstring b pubkeys

def buf_put_priv_key (b : Buffer) (key : SignPrivKey) (type : SignkeyType) : Except Exit Buffer := do
  match type with
  | .DSS =>
    let dsskey ← assertKey key.dsskey
    buf_put_dss_priv_key DIGIT_BIT b dsskey
  | .RSA =>
    let rsakey ← assertKey key.rsakey
    buf_put_rsa_priv_key DIGIT_BIT b rsakey
  | type =>
    match key.ecckey type with
    | some eck => buf_put_ecdsa_priv_key DIGIT_BIT b eck
    | none => dropbear_exit "Bad key types in put pub key"

end Writing

/-! ## Reading private keys -/

def buf_get_rsa_priv_key (b : Buffer) : Except Exit (Option RsaPrivKey × Buffer) :=
  orFail (buf_get_rsa_pub_key b) fun pub b =>
  orFail (buf_getmpint b) fun d b =>
  -- old Dropbear private keys didn't keep p and q
  if b.pos = b.len then pure (some { pub with d, p := none, q := none }, b)
  else
    orFail (buf_getmpint b) fun p b =>
    orFail (buf_getmpint b) fun q b =>
    pure (some { pub with d, p := some p, q := some q }, b)

def buf_get_dss_priv_key (b : Buffer) : Except Exit (Option DssPrivKey × Buffer) :=
  orFail (buf_get_dss_pub_key b) fun pub b =>
  orFail (buf_getmpint b) fun x b =>
  pure (some { pub with x }, b)

def buf_get_ecdsa_priv_key (b : Buffer) : Except Exit (Option EccPrivKey × Buffer) :=
  orFail (buf_get_ecdsa_pub_key b) fun pub b =>
  orFail (buf_getmpint b) fun k b =>
  pure (some { pub with k }, b)

/-- `buf_get_priv_key` with the type it is to read, or any type. -/
def buf_get_priv_key (b : Buffer) (key : SignPrivKey) (type : Option SignkeyType) :
    Except Exit (Option SignPrivKey × Buffer) := do
  let (ident, b) ← buf_getstring b
  let keytype := signkey_type_from_name ident
  if type ≠ none ∧ type ≠ keytype then pure (none, b)
  else
    -- rewind to before the name
    let b ← buf_incrpos b (-((4 + ident.length : Nat) : Int))
    match keytype with
    | some .DSS => orFail (buf_get_dss_priv_key b) fun k b => pure (some { key with dsskey := k }, b)
    | some .RSA => orFail (buf_get_rsa_priv_key b) fun k b => pure (some { key with rsakey := k }, b)
    | some .ECDSA_NISTP256 =>
      orFail (buf_get_ecdsa_priv_key b) fun k b => pure (some { key with ecckey256 := k }, b)
    | some .ECDSA_NISTP384 =>
      orFail (buf_get_ecdsa_priv_key b) fun k b => pure (some { key with ecckey384 := k }, b)
    | some .ECDSA_NISTP521 =>
      orFail (buf_get_ecdsa_priv_key b) fun k b => pure (some { key with ecckey521 := k }, b)
    | none => pure (none, b)

end SimpleSshd.Dropbear
