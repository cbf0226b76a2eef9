import SimpleSshd.Dropbear.Buffer

/-!
# `signkey.c`, `rsa.c`, `dss.c`, `ecdsa.c`, `ecc.c`: public keys and signatures

A public key is a string naming its type followed by the strings and bignums of that type. The
arithmetic that decides whether a signature is right is a parameter (`Crypto`); everything that is
read and checked around it is here.
-/

namespace SimpleSshd.Dropbear

/-- The bytes of an ASCII string. -/
def ascii (s : String) : Bytes := s.toList.map fun c => UInt8.ofNat c.toNat

/-- `if (... == DROPBEAR_FAILURE) goto out;` with `DROPBEAR_FAILURE` as the result. -/
def orFail {α β : Type} (x : Except Exit (Option α × Buffer))
    (next : α → Buffer → Except Exit (Option β × Buffer)) : Except Exit (Option β × Buffer) := do
  let (a, b) ← x
  match a with
  | none => pure (none, b)
  | some a => next a b

/-! ## Key types -/

/-- `DROPBEAR_SIGNKEY_NONE` and `DROPBEAR_SIGNKEY_ANY` are `none` where they can occur. -/
inductive SignkeyType
  | RSA
  | DSS
  | ECDSA_NISTP256
  | ECDSA_NISTP384
  | ECDSA_NISTP521
  deriving DecidableEq, Repr

def signkey_names : List (SignkeyType × Bytes) :=
  [(.RSA, ascii "ssh-rsa"), (.DSS, ascii "ssh-dss"), (.ECDSA_NISTP256, ascii "ecdsa-sha2-nistp256"),
    (.ECDSA_NISTP384, ascii "ecdsa-sha2-nistp384"), (.ECDSA_NISTP521, ascii "ecdsa-sha2-nistp521")]

def signkey_type_from_name (name : Bytes) : Option SignkeyType :=
  (signkey_names.find? fun entry => entry.2 = name).map Prod.fst

/-- The names in `sshhostkey`, in its order. -/
def sshhostkey : List Bytes :=
  [ascii "ecdsa-sha2-nistp256", ascii "ecdsa-sha2-nistp384", ascii "ecdsa-sha2-nistp521",
    ascii "ssh-rsa", ascii "ssh-dss"]

def have_algo (algo : Bytes) (algos : List Bytes) : Bool := algos.any fun name => name = algo

/-! ## Bignums -/

def mp_count_bits (n : Nat) : Nat := if n = 0 then 0 else Nat.log2 n + 1

def mp_unsigned_bin_size (n : Nat) : Nat := (mp_count_bits n + 7) / 8

/-! ## RSA and DSS -/

structure RsaKey where
  e : Nat
  n : Nat
  deriving DecidableEq, Repr

structure DssKey where
  p : Nat
  q : Nat
  g : Nat
  y : Nat
  deriving DecidableEq, Repr

def SSH_SIGNKEY_RSA_LEN : Nat := 7
def SSH_SIGNKEY_DSS_LEN : Nat := 7
def MIN_RSA_KEYLEN : Nat := 1024
def DSS_P_BITS : Nat := 1024
def DSS_Q_BITS : Nat := 160
def SHA1_HASH_SIZE : Nat := 20

def buf_get_rsa_pub_key (b : Buffer) : Except Exit (Option RsaKey × Buffer) := do
  let b ← buf_incrpos b ((4 + SSH_SIGNKEY_RSA_LEN : Nat) : Int)
  orFail (buf_getmpint b) fun e b =>
  orFail (buf_getmpint b) fun n b =>
  if mp_count_bits n < MIN_RSA_KEYLEN then pure (none, b)
  else if mp_count_bits e > 64 then pure (none, b)
  else pure (some { e, n }, b)

def buf_get_dss_pub_key (b : Buffer) : Except Exit (Option DssKey × Buffer) := do
  let b ← buf_incrpos b ((4 + SSH_SIGNKEY_DSS_LEN : Nat) : Int)
  orFail (buf_getmpint b) fun p b =>
  orFail (buf_getmpint b) fun q b =>
  orFail (buf_getmpint b) fun g b =>
  orFail (buf_getmpint b) fun y b =>
  if mp_count_bits p ≠ DSS_P_BITS then pure (none, b)
  else if mp_count_bits q ≠ DSS_Q_BITS then pure (none, b)
  else if ¬ g > 1 then pure (none, b)
  else if ¬ g < p then pure (none, b)
  else pure (some { p, q, g, y }, b)

/-! ## ECDSA -/

/-- A curve with the parameters of `ltc_ecc_sets` that the code reads. -/
structure Curve where
  name : Bytes
  size : Nat
  prime : Nat
  B : Nat
  order : Nat
  deriving DecidableEq, Repr

def ecc_curve_nistp256 : Curve where
  name := ascii "nistp256"
  size := 32
  prime := 0xFFFFFFFF00000001000000000000000000000000FFFFFFFFFFFFFFFFFFFFFFFF
  B := 0x5AC635D8AA3A93E7B3EBBD55769886BC651D06B0CC53B0F63BCE3C3E27D2604B
  order := 0xFFFFFFFF00000000FFFFFFFFFFFFFFFFBCE6FAADA7179E84F3B9CAC2FC632551

def ecc_curve_nistp384 : Curve where
  name := ascii "nistp384"
  size := 48
  prime := 0xFFFFFFFFFFFFFFFFFFFFFFFFFFFFFFFFFFFFFFFFFFFFFFFFFFFFFFFFFFFFFFFEFFFFFFFF0000000000000000FFFFFFFF
  B := 0xB3312FA7E23EE7E4988E056BE3F82D19181D9C6EFE8141120314088F5013875AC656398D8A2ED19D2A85C8EDD3EC2AEF
  order := 0xFFFFFFFFFFFFFFFFFFFFFFFFFFFFFFFFFFFFFFFFFFFFFFFFC7634D81F4372DDF581A0DB248B0A77AECEC196ACCC52973

def ecc_curve_nistp521 : Curve where
  name := ascii "nistp521"
  size := 66
  prime := 2 ^ 521 - 1
  B := 0x51953EB9618E1C9A1F929A21A0B68540EEA2DA725B99B315F3B8B489918EF109E156193951EC7E937B1652C0BD3BB1BF073573DF883D2C34F1EF451FD46B503F00
  order := 0x1FFFFFFFFFFFFFFFFFFFFFFFFFFFFFFFFFFFFFFFFFFFFFFFFFFFFFFFFFFFFFFFFFA51868783BF2F966B7FCC0148F709A5D03BB5C9B8899C47AEBB6FB71E91386409

def dropbear_ecc_curves : List Curve := [ecc_curve_nistp256, ecc_curve_nistp384, ecc_curve_nistp521]

structure EccKey where
  curve : Curve
  x : Nat
  y : Nat
  deriving DecidableEq, Repr

/-- `y² - x³ + 3x = B` modulo the prime. -/
def ecc_is_point (key : EccKey) : Bool :=
  ((key.y : Int) ^ 2 - key.x * ((key.x : Int) ^ 2 % key.curve.prime) + 3 * key.x) % key.curve.prime
    = key.curve.B

def buf_get_ecc_raw_pubkey (b : Buffer) (curve : Curve) : Except Exit (Option EccKey) := do
  let b ← buf_setpos b 0
  let (first, b) ← buf_getbyte b
  -- point compression is not supported
  if first = 2 ∨ first = 3 then pure none
  else if first ≠ 4 ∨ b.len ≠ 1 + 2 * curve.size then pure none
  else
    let x ← buf_getptr b curve.size
    let b ← buf_incrpos b (curve.size : Int)
    let y ← buf_getptr b curve.size
    let _ ← buf_incrpos b (curve.size : Int)
    let key : EccKey := { curve, x := Framing.ofBytes x, y := Framing.ofBytes y }
    if !ecc_is_point key then pure none
    else if key.x = 0 then pure none
    else if key.y = 0 then pure none
    else pure (some key)

def buf_get_ecdsa_pub_key (b : Buffer) : Except Exit (Option EccKey × Buffer) := do
  let (key_ident, b) ← buf_getstring b
  let (identifier, b) ← buf_getstring b
  let pre := (ascii "ecdsa-sha2-").length
  if key_ident.length ≠ identifier.length + pre then pure (none, b)
  else if key_ident.drop pre ≠ identifier then pure (none, b)
  else
    match dropbear_ecc_curves.find? fun curve => curve.name.isPrefixOf identifier with
    | none => pure (none, b)
    | some curve =>
      let (q_buf, b) ← buf_getstringbuf b
      let key ← buf_get_ecc_raw_pubkey q_buf curve
      pure (key, b)

/-! ## Keys of any type -/

/-- `sign_key`: one slot for each type. -/
structure SignKey where
  rsakey : Option RsaKey := none
  dsskey : Option DssKey := none
  ecckey256 : Option EccKey := none
  ecckey384 : Option EccKey := none
  ecckey521 : Option EccKey := none
  deriving DecidableEq, Repr

def new_sign_key : SignKey := {}

/-- `buf_get_pub_key` with the type it is to read, or any type. -/
def buf_get_pub_key (b : Buffer) (key : SignKey) (type : Option SignkeyType) :
    Except Exit (Option SignKey × Buffer) := do
  let (ident, b) ← buf_getstring b
  let keytype := signkey_type_from_name ident
  if type ≠ none ∧ type ≠ keytype then pure (none, b)
  else
    -- rewind to before the name
    let b ← buf_incrpos b (-((4 + ident.length : Nat) : Int))
    match keytype with
    | some .DSS => orFail (buf_get_dss_pub_key b) fun k b => pure (some { key with dsskey := k }, b)
    | some .RSA => orFail (buf_get_rsa_pub_key b) fun k b => pure (some { key with rsakey := k }, b)
    | some .ECDSA_NISTP256 =>
      orFail (buf_get_ecdsa_pub_key b) fun k b => pure (some { key with ecckey256 := k }, b)
    | some .ECDSA_NISTP384 =>
      orFail (buf_get_ecdsa_pub_key b) fun k b => pure (some { key with ecckey384 := k }, b)
    | some .ECDSA_NISTP521 =>
      orFail (buf_get_ecdsa_pub_key b) fun k b => pure (some { key with ecckey521 := k }, b)
    | none => pure (none, b)

/-! ## Signatures -/

/-- The arithmetic of signature verification, on the data that was signed. -/
structure Crypto where
  /-- `s^e mod n` is the padded hash of the data. -/
  rsa_verify : RsaKey → Nat → Bytes → Bool
  dss_verify : DssKey → Nat → Nat → Bytes → Bool
  ecdsa_verify : EccKey → Nat → Nat → Bytes → Bool

def buf_rsa_verify (crypto : Crypto) (b : Buffer) (key : RsaKey) (data : Bytes) :
    Except Exit Status := do
  let (slen, b) ← buf_getint b
  if slen ≠ mp_unsigned_bin_size key.n then pure DROPBEAR_FAILURE
  else
    let s ← buf_getptr b (b.len - b.pos)
    if ¬ Framing.ofBytes s < key.n then pure DROPBEAR_FAILURE
    else if crypto.rsa_verify key (Framing.ofBytes s) data then pure DROPBEAR_SUCCESS
    else pure DROPBEAR_FAILURE

def buf_dss_verify (crypto : Crypto) (b : Buffer) (key : DssKey) (data : Bytes) :
    Except Exit Status := do
  let (string, _) ← buf_getstring b
  let r := Framing.ofBytes (string.take SHA1_HASH_SIZE)
  let s := Framing.ofBytes (string.drop SHA1_HASH_SIZE)
  if string.length ≠ 2 * SHA1_HASH_SIZE then pure DROPBEAR_FAILURE
  else if ¬ s < key.q ∨ ¬ s > 0 ∨ ¬ r < key.q ∨ ¬ r > 0 then pure DROPBEAR_FAILURE
  else if crypto.dss_verify key r s data then pure DROPBEAR_SUCCESS
  else pure DROPBEAR_FAILURE

/-- The signature's two bignums, which must fill its string exactly. -/
def buf_get_ecdsa_verify_params (b : Buffer) : Except Exit (Option (Nat × Nat) × Buffer) := do
  let (sig_len, b) ← buf_getint b
  let sig_pos := b.pos
  orFail (buf_getmpint b) fun r b =>
  orFail (buf_getmpint b) fun s b =>
  if b.pos - sig_pos ≠ sig_len then pure (none, b) else pure (some (r, s), b)

def buf_ecdsa_verify (crypto : Crypto) (b : Buffer) (key : EccKey) (data : Bytes) :
    Except Exit Status := do
  let (params, _) ← buf_get_ecdsa_verify_params b
  match params with
  | none => pure DROPBEAR_FAILURE
  | some (r, s) =>
    if r = 0 ∨ s = 0 ∨ ¬ r < key.curve.order ∨ ¬ s < key.curve.order then pure DROPBEAR_FAILURE
    else if crypto.ecdsa_verify key r s data then pure DROPBEAR_SUCCESS
    else pure DROPBEAR_FAILURE

/-- The slot of an ECDSA type, checked as `if (eck && *eck)`. -/
def verifyWith (crypto : Crypto) (b : Buffer) (slot : Option EccKey) (data : Bytes) :
    Except Exit Status :=
  match slot with
  | some key => buf_ecdsa_verify crypto b key data
  | none => dropbear_exit "Non-matching signing type"

def buf_verify (crypto : Crypto) (b : Buffer) (key : SignKey) (data : Bytes) :
    Except Exit Status := do
  let (_, b) ← buf_getint b
  let (type_name, b) ← buf_getstring b
  match signkey_type_from_name type_name with
  | some .DSS =>
    match key.dsskey with
    | none => dropbear_exit "No DSS key to verify signature"
    | some k => buf_dss_verify crypto b k data
  | some .RSA =>
    match key.rsakey with
    | none => dropbear_exit "No RSA key to verify signature"
    | some k => buf_rsa_verify crypto b k data
  | some .ECDSA_NISTP256 => verifyWith crypto b key.ecckey256 data
  | some .ECDSA_NISTP384 => verifyWith crypto b key.ecckey384 data
  | some .ECDSA_NISTP521 => verifyWith crypto b key.ecckey521 data
  | none => dropbear_exit "Non-matching signing type"

end SimpleSshd.Dropbear
