import SimpleSshd.Dropbear.PrivKey
import SimpleSshd.Dropbear.Proofs.MpintProofs
import SimpleSshd.Dropbear.Proofs.SignKeyProofs

/-!
# Proofs: keys that are written are read again

A key is written as the fields of its type, each behind its length. The readers take exactly these
fields, so a key comes back from its blob and from its file as it was, without the other keys that the
writer may hold.
-/

namespace SimpleSshd.Dropbear

open Fallible Framing Overwrite BigEndian
open Buffer (Advanced)

variable {b b' b₁ : Buffer} {f : Bytes} {fs : List Bytes} {bs : Bytes} {DIGIT_BIT : Nat}

/-! ## Writing fields -/

theorem Puts.pure (b : Buffer) : Puts b [] (Pure.pure b) := by
  have hpos := b.pos_le
  have hlen := b.len_le
  refine ⟨by rw [List.length_nil]; omega, ?_, ?_, rfl⟩
  · rw [overwrite, List.length_nil, List.append_nil, Nat.add_zero, List.take_append_drop]
  · rw [List.length_nil]
    omega

theorem buf_putstring_puts (b : Buffer) (s : Bytes) : Puts b (putstring s) (buf_putstring b s) :=
  (buf_putbytes_puts b _).bind fun b₁ => buf_putbytes_puts b₁ s

theorem frame_cons_putstring : frame (f :: fs) = putstring f ++ frame fs := frame_cons

theorem frame_singleton : frame [f] = putstring f := by
  rw [frame_cons_putstring, frame_nil, List.append_nil]

/-- A bignum is a field like any other. -/
theorem buf_putmpint_puts_frame (DIGIT_BIT : Nat) (b : Buffer) (n : Nat) :
    Puts b (frame [mpintString n]) (buf_putmpint DIGIT_BIT b n) := by
  rw [frame_singleton, ← putmpint_eq]
  exact buf_putmpint_puts DIGIT_BIT b n

/-- What a fresh buffer holds after one write. -/
theorem Puts.of_new {size : Nat} {x : Except Exit Buffer} (hnew : buf_new size = .ok b)
    (hx : Puts b bs x) : Meets x (fun e => ¬ bs.length ≤ size ∧ ∃ msg, e = .dropbear_exit msg)
      fun b' => bs.length ≤ size ∧ b'.contents = bs ∧ b'.len = bs.length := by
  have hsize : size ≤ BUF_MAX_SIZE := by
    simp only [buf_new, dite_exit_eq_ok] at hnew
    exact Nat.le_of_not_lt hnew.1
  obtain ⟨b₀, hnew₀, hb₀⟩ := buf_new_is hsize
  obtain rfl : b₀ = b := by rw [hnew] at hnew₀; exact (Except.ok.inj hnew₀).symm
  have hroom : b₀.pos + bs.length ≤ b₀.data.length ↔ bs.length ≤ size := by
    rw [hb₀.pos_eq, hb₀.data_eq, List.length_replicate, Nat.zero_add]
  refine hx.imp (fun e => ?_) fun b' => ?_
  · rintro ⟨hnot, hexit⟩
    exact ⟨fun hle => hnot (hroom.mpr hle), hexit⟩
  · rintro ⟨hle, hb'⟩
    have hlen : b'.len = bs.length := by
      rw [hb'.len_eq, hb₀.len_eq, hb₀.pos_eq]
      omega
    refine ⟨hroom.mp hle, ?_, hlen⟩
    rw [Buffer.contents, hlen, hb'.data_eq, hb₀.pos_eq]
    have hend := take_overwrite_end bs (l := b₀.data) (Nat.zero_le _)
    rwa [Nat.zero_add] at hend

/-! ## The fields of keys -/

def RsaKey.fields (key : RsaKey) : List Bytes :=
  [SignkeyType.name .RSA, mpintString key.e, mpintString key.n]

def RsaPrivKey.fields (key : RsaPrivKey) : List Bytes :=
  key.toRsaKey.fields ++ mpintString key.d :: (key.p.toList ++ key.q.toList).map mpintString

def DssKey.fields (key : DssKey) : List Bytes :=
  [SignkeyType.name .DSS, mpintString key.p, mpintString key.q, mpintString key.g, mpintString key.y]

def DssPrivKey.fields (key : DssPrivKey) : List Bytes := key.toDssKey.fields ++ [mpintString key.x]

/-- The point without compression. -/
def EccKey.point (key : EccKey) : Bytes :=
  4 :: (padded key.curve.size key.x ++ padded key.curve.size key.y)

def EccKey.fields (key : EccKey) : List Bytes :=
  [ascii "ecdsa-sha2-" ++ key.curve.name, key.curve.name, key.point]

def EccPrivKey.fields (key : EccPrivKey) : List Bytes := key.toEccKey.fields ++ [mpintString key.k]

theorem buf_put_rsa_pub_key_puts (b : Buffer) (key : RsaKey) :
    Puts b (frame key.fields) (buf_put_rsa_pub_key DIGIT_BIT b key) := by
  rw [RsaKey.fields, frame_cons_putstring, ← List.singleton_append, frame_append]
  exact (buf_putstring_puts b _).bind fun b₁ =>
    (buf_putmpint_puts_frame DIGIT_BIT b₁ key.e).bind fun b₂ =>
    buf_putmpint_puts_frame DIGIT_BIT b₂ key.n

theorem putOptional_puts (b : Buffer) (n : Option Nat) :
    Puts b (frame (n.toList.map mpintString)) (putOptional DIGIT_BIT b n) := by
  cases n with
  | none => exact Puts.pure b
  | some n => exact buf_putmpint_puts_frame DIGIT_BIT b n

theorem buf_put_rsa_priv_key_puts (b : Buffer) (key : RsaPrivKey) :
    Puts b (frame key.fields) (buf_put_rsa_priv_key DIGIT_BIT b key) := by
  rw [RsaPrivKey.fields, ← List.singleton_append, frame_append, frame_append, List.map_append,
    frame_append]
  exact (buf_put_rsa_pub_key_puts b key.toRsaKey).bind fun b₁ =>
    (buf_putmpint_puts_frame DIGIT_BIT b₁ key.d).bind fun b₂ =>
    (putOptional_puts b₂ key.p).bind fun b₃ => putOptional_puts b₃ key.q

theorem buf_put_dss_pub_key_puts (b : Buffer) (key : DssKey) :
    Puts b (frame key.fields) (buf_put_dss_pub_key DIGIT_BIT b key) := by
  have hfields : frame key.fields = putstring (SignkeyType.name .DSS) ++
      (frame [mpintString key.p] ++ (frame [mpintString key.q] ++
      (frame [mpintString key.g] ++ frame [mpintString key.y]))) := by
    rw [DssKey.fields, frame_cons_putstring, ← frame_append, ← frame_append, ← frame_append]
    rfl
  rw [hfields]
  exact (buf_putstring_puts b _).bind fun b₁ =>
    (buf_putmpint_puts_frame DIGIT_BIT b₁ key.p).bind fun b₂ =>
    (buf_putmpint_puts_frame DIGIT_BIT b₂ key.q).bind fun b₃ =>
    (buf_putmpint_puts_frame DIGIT_BIT b₃ key.g).bind fun b₄ =>
    buf_putmpint_puts_frame DIGIT_BIT b₄ key.y

theorem buf_put_dss_priv_key_puts (b : Buffer) (key : DssPrivKey) :
    Puts b (frame key.fields) (buf_put_dss_priv_key DIGIT_BIT b key) := by
  rw [DssPrivKey.fields, frame_append]
  exact (buf_put_dss_pub_key_puts b key.toDssKey).bind fun b₁ =>
    buf_putmpint_puts_frame DIGIT_BIT b₁ key.x

/-! ## Numbers of a fixed length -/

theorem bin_size_le {size n : Nat} (h : n < 256 ^ size) : mp_unsigned_bin_size n ≤ size := by
  have hbits : mp_count_bits n ≤ 8 * size := by
    apply count_bits_le
    rwa [Nat.pow_mul]
  rw [mp_unsigned_bin_size]
  omega

theorem length_padded {size n : Nat} (h : mp_unsigned_bin_size n ≤ size) :
    (padded size n).length = size := by
  rw [padded, List.length_append, List.length_replicate, length_mp_to_unsigned_bin]
  omega

theorem ofBytes_padded (size n : Nat) : ofBytes (padded size n) = n := by
  rw [padded, ofBytes_replicate_append, ofBytes_mp_to_unsigned_bin]

/-- The coordinates fit into the bytes that the curve has for them. -/
structure EccKey.Fits (key : EccKey) : Prop where
  x_lt : key.x < 256 ^ key.curve.size
  y_lt : key.y < 256 ^ key.curve.size

theorem EccKey.Fits.length_point {key : EccKey} (h : key.Fits) :
    key.point.length = key.curve.size * 2 + 1 := by
  rw [EccKey.point, List.length_cons, List.length_append, length_padded (bin_size_le h.x_lt),
    length_padded (bin_size_le h.y_lt)]
  omega

theorem EccKey.Fits.export_eq {key : EccKey} (h : key.Fits) :
    ecc_ansi_x963_export key = some key.point := by
  have hx := bin_size_le h.x_lt
  have hy := bin_size_le h.y_lt
  exact if_neg (by omega)

theorem buf_put_ecc_raw_pubkey_string_puts (b : Buffer) {key : EccKey} (h : key.Fits) :
    Puts b (putstring key.point) (buf_put_ecc_raw_pubkey_string b key) := by
  unfold buf_put_ecc_raw_pubkey_string
  rw [h.export_eq, ← h.length_point]
  exact (buf_putbytes_puts b _).bind fun b₁ => buf_getwriteptr_puts b₁ key.point

theorem buf_put_ecdsa_pub_key_puts (b : Buffer) {key : EccKey} (h : key.Fits) :
    Puts b (frame key.fields) (buf_put_ecdsa_pub_key b key) := by
  rw [EccKey.fields, frame_cons_putstring, frame_cons_putstring, frame_singleton]
  exact (buf_putstring_puts b _).bind fun b₁ => (buf_putstring_puts b₁ _).bind fun b₂ =>
    buf_put_ecc_raw_pubkey_string_puts b₂ h

theorem buf_put_ecdsa_priv_key_puts (b : Buffer) {key : EccPrivKey} (h : key.toEccKey.Fits) :
    Puts b (frame key.fields) (buf_put_ecdsa_priv_key DIGIT_BIT b key) := by
  rw [EccPrivKey.fields, frame_append]
  exact (buf_put_ecdsa_pub_key_puts b h).bind fun b₁ =>
    buf_putmpint_puts_frame DIGIT_BIT b₁ key.k

/-! ## Keys that the readers accept -/

/-- The length of the longest bignums that can be read. -/
def MPINT_BITS : Nat := 8 * BUF_MAX_MPINT - 1

structure RsaKey.Valid (key : RsaKey) : Prop where
  n_le : mp_count_bits key.n ≤ MPINT_BITS
  bits_n : MIN_RSA_KEYLEN ≤ mp_count_bits key.n
  bits_e : mp_count_bits key.e ≤ 64

structure DssKey.Valid (key : DssKey) : Prop where
  bits_p : mp_count_bits key.p = DSS_P_BITS
  bits_q : mp_count_bits key.q = DSS_Q_BITS
  one_lt_g : 1 < key.g
  g_lt_p : key.g < key.p
  y_le : mp_count_bits key.y ≤ MPINT_BITS

structure EccKey.Valid (key : EccKey) : Prop extends key.Fits where
  curve_mem : key.curve ∈ dropbear_ecc_curves
  is_point : ecc_is_point key = true
  x_ne_zero : key.x ≠ 0
  y_ne_zero : key.y ≠ 0

structure RsaPrivKey.Valid (key : RsaPrivKey) : Prop where
  pub : key.toRsaKey.Valid
  d_le : mp_count_bits key.d ≤ MPINT_BITS
  /-- Both factors are there, or neither. -/
  factors : (key.p = none ∧ key.q = none) ∨
    ∃ p q, key.p = some p ∧ key.q = some q ∧
      mp_count_bits p ≤ MPINT_BITS ∧ mp_count_bits q ≤ MPINT_BITS

structure DssPrivKey.Valid (key : DssPrivKey) : Prop where
  pub : key.toDssKey.Valid
  x_le : mp_count_bits key.x ≤ MPINT_BITS

structure EccPrivKey.Valid (key : EccPrivKey) : Prop where
  pub : key.toEccKey.Valid
  k_le : mp_count_bits key.k ≤ MPINT_BITS

theorem isMpint_mpintString {n : Nat} (h : mp_count_bits n ≤ MPINT_BITS) :
    IsMpint (mpintString n) := by
  have hpos : 0 < BUF_MAX_MPINT := by decide
  refine ⟨?_, mpintString_clear n⟩
  rw [length_mpintString]
  unfold MPINT_BITS at h
  omega

theorem RsaKey.Valid.rsaFields {key : RsaKey} (h : key.Valid) :
    RsaFields (mpintString key.e) (mpintString key.n) key where
  mpint_e := isMpint_mpintString (h.bits_e.trans (by decide))
  mpint_n := isMpint_mpintString h.n_le
  bits_n := by
    rw [ofBytes_mpintString]
    exact Nat.not_lt.mpr h.bits_n
  bits_e := by
    rw [ofBytes_mpintString]
    exact Nat.not_lt.mpr h.bits_e
  key_eq := by rw [ofBytes_mpintString, ofBytes_mpintString]

theorem DssKey.Valid.dssFields {key : DssKey} (h : key.Valid) :
    DssFields (mpintString key.p) (mpintString key.q) (mpintString key.g) (mpintString key.y) key where
  mpint_p := isMpint_mpintString (h.bits_p.le.trans (by decide))
  mpint_q := isMpint_mpintString (h.bits_q.le.trans (by decide))
  mpint_g := by
    have hbits := count_bits_le (h.g_lt_p.trans (lt_two_pow_count_bits key.p))
    rw [h.bits_p] at hbits
    exact isMpint_mpintString (hbits.trans (by decide))
  mpint_y := isMpint_mpintString h.y_le
  bits_p := by rw [ofBytes_mpintString]; exact not_not_intro h.bits_p
  bits_q := by rw [ofBytes_mpintString]; exact not_not_intro h.bits_q
  one_lt_g := by rw [ofBytes_mpintString]; exact not_not_intro h.one_lt_g
  g_lt_p := by rw [ofBytes_mpintString, ofBytes_mpintString]; exact not_not_intro h.g_lt_p
  key_eq := by simp only [ofBytes_mpintString]

/-- The point that was written, on the curve that was known. -/
theorem buf_get_ecc_raw_pubkey_point {key : EccKey} (h : key.Valid) {q_buf : Buffer}
    (hq : Buffer.holding key.point = .ok q_buf) :
    buf_get_ecc_raw_pubkey q_buf key.curve = .ok (some key) := by
  have hlen := h.length_point
  have hx := length_padded (bin_size_le h.x_lt)
  have hy := length_padded (bin_size_le h.y_lt)
  obtain ⟨-, hd, hl, hp⟩ := holding_ok.mp hq
  have hbuf : q_buf.Is key.point key.point.length 0 := ⟨hd, hl, hp⟩
  obtain ⟨b₁, h₁, hb₁⟩ := buf_setpos_is hbuf (Nat.zero_le _)
  obtain ⟨b₂, h₂, hb₂⟩ := buf_getbyte_is hb₁ (by omega)
  have hfirst : key.point.getD 0 0 = 4 := rfl
  have hx_ptr : buf_getptr b₂ key.curve.size = .ok (padded key.curve.size key.x) := by
    rw [buf_getptr_is hb₂ (by omega)]
    exact congrArg Except.ok (List.take_left' hx)
  obtain ⟨b₃, h₃, hb₃⟩ := buf_incrpos_is (n := key.curve.size) hb₂ (by omega)
  have hy_ptr : buf_getptr b₃ key.curve.size = .ok (padded key.curve.size key.y) := by
    rw [buf_getptr_is hb₃ (by omega), ← List.drop_drop]
    refine congrArg Except.ok ?_
    show List.take _ (List.drop _ (padded key.curve.size key.x ++ padded key.curve.size key.y)) = _
    rw [List.drop_left' hx, List.take_of_length_le hy.le]
  obtain ⟨b₄, h₄, -⟩ := buf_incrpos_is (n := key.curve.size) hb₃ (by omega)
  have hsize : ¬ ((4 : UInt8) ≠ 4 ∨ b₂.len ≠ 1 + 2 * key.curve.size) := by
    rw [hb₂.len_eq, hlen]
    rintro (hne | hne)
    · exact hne rfl
    · omega
  rw [buf_get_ecc_raw_pubkey, h₁, ok_bind, h₂, ok_bind]
  simp only [hfirst]
  rw [if_neg (by decide), if_neg hsize, hx_ptr, ok_bind, h₃, ok_bind,
    hy_ptr, ok_bind, h₄, ok_bind]
  simp only [ofBytes_padded]
  rw [h.is_point, Bool.not_true, if_neg Bool.false_ne_true, if_neg h.x_ne_zero, if_neg h.y_ne_zero]
  rfl

/-! ## Keys of any type -/

/-- The curve of an ECDSA type. -/
def SignkeyType.curve : SignkeyType → Option Curve
  | .ECDSA_NISTP256 => some ecc_curve_nistp256
  | .ECDSA_NISTP384 => some ecc_curve_nistp384
  | .ECDSA_NISTP521 => some ecc_curve_nistp521
  | _ => none

/-- What the names of a type and of its curve are to each other, and that the curve is found. -/
structure CurveOf (type : SignkeyType) (curve : Curve) : Prop where
  name_eq : ascii "ecdsa-sha2-" ++ curve.name = type.name
  find_eq : dropbear_ecc_curves.find? (fun c => c.name.isPrefixOf curve.name) = some curve
  size_le : curve.size ≤ 66
  name_le : curve.name.length ≤ 8

theorem curveOf {type : SignkeyType} {curve : Curve} (h : type.curve = some curve) :
    CurveOf type curve := by
  cases type with
  | RSA | DSS => cases h
  | ECDSA_NISTP256 | ECDSA_NISTP384 | ECDSA_NISTP521 =>
    cases h
    exact ⟨by decide, rfl, by decide, by decide⟩

theorem EccKey.Valid.eccFields {key : EccKey} {type : SignkeyType} (h : key.Valid)
    (htype : type.curve = some key.curve) :
    EccFields type.name key.curve.name key.point key := by
  have hcurve := curveOf htype
  have hpoint : key.point.length ≤ 133 := by
    have hsize := hcurve.size_le
    rw [h.length_point]
    omega
  have hmax : key.point.length ≤ MAX_STRING_LEN := hpoint.trans (by decide)
  have hident : key.curve.name.length ≤ MAX_STRING_LEN := hcurve.name_le.trans (by decide)
  obtain ⟨q_buf, hq⟩ : ∃ q_buf, Buffer.holding key.point = .ok q_buf :=
    ⟨_, dif_neg (Nat.not_lt.mpr (hpoint.trans (by decide)))⟩
  refine ⟨hident, hmax, ?_, ?_, key.curve, q_buf, hcurve.find_eq, hq,
    buf_get_ecc_raw_pubkey_point h hq⟩
  · rw [← hcurve.name_eq, List.length_append]
    omega
  · rw [← hcurve.name_eq, List.drop_left]
    exact not_not_intro rfl

/-- The key of this type alone. -/
def SignKey.only (key : SignKey) : SignkeyType → SignKey
  | .RSA => { rsakey := key.rsakey }
  | .DSS => { dsskey := key.dsskey }
  | .ECDSA_NISTP256 => { ecckey256 := key.ecckey256 }
  | .ECDSA_NISTP384 => { ecckey384 := key.ecckey384 }
  | .ECDSA_NISTP521 => { ecckey521 := key.ecckey521 }

def SignPrivKey.only (key : SignPrivKey) : SignkeyType → SignPrivKey
  | .RSA => { rsakey := key.rsakey }
  | .DSS => { dsskey := key.dsskey }
  | .ECDSA_NISTP256 => { ecckey256 := key.ecckey256 }
  | .ECDSA_NISTP384 => { ecckey384 := key.ecckey384 }
  | .ECDSA_NISTP521 => { ecckey521 := key.ecckey521 }

/-- There is a key of this type, and the readers accept it. -/
inductive SignKey.Valid (key : SignKey) : SignkeyType → Prop
  | rsa {k : RsaKey} (hkey : key.rsakey = some k) (h : k.Valid) : key.Valid .RSA
  | dss {k : DssKey} (hkey : key.dsskey = some k) (h : k.Valid) : key.Valid .DSS
  | ecdsa {type : SignkeyType} {k : EccKey} (hkey : key.ecckey type = some k) (h : k.Valid)
      (htype : type.curve = some k.curve) : key.Valid type

inductive SignPrivKey.Valid (key : SignPrivKey) : SignkeyType → Prop
  | rsa {k : RsaPrivKey} (hkey : key.rsakey = some k) (h : k.Valid) : key.Valid .RSA
  | dss {k : DssPrivKey} (hkey : key.dsskey = some k) (h : k.Valid) : key.Valid .DSS
  | ecdsa {type : SignkeyType} {k : EccPrivKey} (hkey : key.ecckey type = some k) (h : k.Valid)
      (htype : type.curve = some k.curve) : key.Valid type

/-- The fields of the key of a type. -/
def SignKey.fields (key : SignKey) : SignkeyType → List Bytes
  | .RSA => (key.rsakey.map RsaKey.fields).getD []
  | .DSS => (key.dsskey.map DssKey.fields).getD []
  | type => ((key.ecckey type).map EccKey.fields).getD []

def SignPrivKey.fields (key : SignPrivKey) : SignkeyType → List Bytes
  | .RSA => (key.rsakey.map RsaPrivKey.fields).getD []
  | .DSS => (key.dsskey.map DssPrivKey.fields).getD []
  | type => ((key.ecckey type).map EccPrivKey.fields).getD []

theorem SignPrivKey.pub_ecckey (key : SignPrivKey) (type : SignkeyType) :
    key.pub.ecckey type = (key.ecckey type).map (·.toEccKey) := by
  cases type <;> rfl

theorem SignKey.fields_ecdsa {key : SignKey} {type : SignkeyType} {k : EccKey} {curve : Curve}
    (htype : type.curve = some curve) (hkey : key.ecckey type = some k) :
    key.fields type = k.fields := by
  cases type with
  | RSA | DSS => cases htype
  | ECDSA_NISTP256 | ECDSA_NISTP384 | ECDSA_NISTP521 =>
    exact congrArg (fun slot => (Option.map EccKey.fields slot).getD []) hkey

theorem SignPrivKey.fields_ecdsa {key : SignPrivKey} {type : SignkeyType} {k : EccPrivKey}
    {curve : Curve} (htype : type.curve = some curve) (hkey : key.ecckey type = some k) :
    key.fields type = k.fields := by
  cases type with
  | RSA | DSS => cases htype
  | ECDSA_NISTP256 | ECDSA_NISTP384 | ECDSA_NISTP521 =>
    exact congrArg (fun slot => (Option.map EccPrivKey.fields slot).getD []) hkey

/-- A private key without its secrets. -/
theorem SignPrivKey.Valid.pub {key : SignPrivKey} {type : SignkeyType} (h : key.Valid type) :
    key.pub.Valid type := by
  cases h with
  | rsa hkey h => exact .rsa (congrArg (Option.map _) hkey) h.pub
  | dss hkey h => exact .dss (congrArg (Option.map _) hkey) h.pub
  | ecdsa hkey h htype =>
    refine .ecdsa ?_ h.pub htype
    rw [pub_ecckey, hkey]
    rfl

theorem SignKey.Valid.keyFields {key : SignKey} {type : SignkeyType} (h : key.Valid type) :
    KeyFields (key.fields type) (key.only type) := by
  cases h with
  | rsa hkey h =>
    rw [SignKey.fields, SignKey.only, hkey]
    exact .rsa h.rsaFields
  | dss hkey h =>
    rw [SignKey.fields, SignKey.only, hkey]
    exact .dss h.dssFields
  | @ecdsa type k hkey h htype =>
    have hfields := h.eccFields htype
    have hname := (curveOf htype).name_eq
    rw [SignKey.fields_ecdsa htype hkey, EccKey.fields, hname]
    cases type with
    | RSA | DSS => cases htype
    | ECDSA_NISTP256 =>
      have hslot : key.ecckey256 = some k := hkey
      rw [SignKey.only, hslot]
      exact .ecdsa256 hfields
    | ECDSA_NISTP384 =>
      have hslot : key.ecckey384 = some k := hkey
      rw [SignKey.only, hslot]
      exact .ecdsa384 hfields
    | ECDSA_NISTP521 =>
      have hslot : key.ecckey521 = some k := hkey
      rw [SignKey.only, hslot]
      exact .ecdsa521 hfields

/-! ## Public keys -/

theorem putPubKeyBlob_puts (DIGIT_BIT : Nat) (b : Buffer) {key : SignKey} {type : SignkeyType}
    (h : key.Valid type) :
    Puts b (frame (key.fields type)) (putPubKeyBlob DIGIT_BIT b key type) := by
  cases h with
  | rsa hkey h =>
    rw [SignKey.fields, putPubKeyBlob, hkey]
    exact buf_put_rsa_pub_key_puts b _
  | dss hkey h =>
    rw [SignKey.fields, putPubKeyBlob, hkey]
    exact buf_put_dss_pub_key_puts b _
  | @ecdsa type k hkey h htype =>
    have hputs := buf_put_ecdsa_pub_key_puts b h.toFits
    rw [SignKey.fields_ecdsa htype hkey]
    cases type with
    | RSA | DSS => cases htype
    | ECDSA_NISTP256 | ECDSA_NISTP384 | ECDSA_NISTP521 =>
      simp only [putPubKeyBlob, hkey]
      exact hputs

theorem length_mpintString_le {n k : Nat} (h : mp_count_bits n ≤ k) :
    (mpintString n).length ≤ k / 8 + 1 := by
  rw [length_mpintString]
  exact Nat.succ_le_succ (Nat.div_le_div_right h)

theorem framedLength_nil : framedLength [] = 0 := rfl

/-- How much room the blob of a key takes at most. -/
theorem SignKey.Valid.length_frame_le {key : SignKey} {type : SignkeyType} (h : key.Valid type) :
    (frame (key.fields type)).length ≤ 1336 := by
  rw [length_frame]
  cases h with
  | rsa hkey h =>
    have he := length_mpintString_le h.bits_e
    have hn := length_mpintString_le h.n_le
    have hname : (SignkeyType.name .RSA).length = 7 := by decide
    rw [show MPINT_BITS = 8239 from rfl] at hn
    rw [SignKey.fields, hkey, Option.map_some, Option.getD_some, RsaKey.fields]
    simp only [framedLength_cons, framedLength_nil, hname]
    omega
  | @dss k hkey h =>
    have hp := length_mpintString_le h.bits_p.le
    have hq := length_mpintString_le h.bits_q.le
    have hg := length_mpintString_le (count_bits_le (h.g_lt_p.trans (lt_two_pow_count_bits k.p)))
    have hy := length_mpintString_le h.y_le
    have hname : (SignkeyType.name .DSS).length = 7 := by decide
    rw [h.bits_p, show DSS_P_BITS = 1024 from rfl] at hg
    rw [show MPINT_BITS = 8239 from rfl] at hy
    rw [show DSS_P_BITS = 1024 from rfl] at hp
    rw [show DSS_Q_BITS = 160 from rfl] at hq
    rw [SignKey.fields, hkey, Option.map_some, Option.getD_some, DssKey.fields]
    simp only [framedLength_cons, framedLength_nil, hname]
    omega
  | ecdsa hkey h htype =>
    have hcurve := curveOf htype
    have hsize := hcurve.size_le
    have hname := hcurve.name_le
    have hpoint := h.length_point
    have hpre : (ascii "ecdsa-sha2-").length = 11 := by decide
    rw [SignKey.fields_ecdsa htype hkey, EccKey.fields]
    simp only [framedLength_cons, framedLength_nil, List.length_append, hpre]
    omega

/-- The name of the type comes first. -/
theorem SignKey.Valid.fields_eq {key : SignKey} {type : SignkeyType} (h : key.Valid type) :
    ∃ rest, key.fields type = type.name :: rest := by
  cases h with
  | rsa hkey h =>
    rw [SignKey.fields, hkey]
    exact ⟨_, rfl⟩
  | dss hkey h =>
    rw [SignKey.fields, hkey]
    exact ⟨_, rfl⟩
  | ecdsa hkey h htype =>
    rw [SignKey.fields_ecdsa htype hkey, EccKey.fields, (curveOf htype).name_eq]
    exact ⟨_, rfl⟩

theorem KeyFields.frame_ne_nil {key : SignKey} (h : KeyFields fs key) : (frame fs).length ≠ 0 := by
  obtain ⟨name, rest, rfl, -⟩ := h.length
  rw [length_frame, framedLength_cons]
  omega

theorem buf_put_pub_key_puts (DIGIT_BIT : Nat) (b : Buffer) {key : SignKey} {type : SignkeyType}
    (h : key.Valid type) :
    Puts b (putstring (frame (key.fields type))) (buf_put_pub_key DIGIT_BIT b key type) := by
  obtain ⟨pubkeys, hnew, -⟩ := buf_new_is (n := MAX_PUBKEY_SIZE) (by decide)
  have hputs := (putPubKeyBlob_puts DIGIT_BIT pubkeys h).of_new hnew
  have hfits : (frame (key.fields type)).length ≤ MAX_PUBKEY_SIZE :=
    h.length_frame_le.trans (by decide)
  rw [buf_put_pub_key, hnew, ok_bind]
  cases hput : putPubKeyBlob DIGIT_BIT pubkeys key type with
  | error e => exact absurd hfits (hputs.of_error hput).1
  | ok blob =>
    obtain ⟨-, hcontents, hlen⟩ := hputs.of_ok hput
    have hne : ¬ blob.len = 0 := by
      rw [hlen]
      exact h.keyFields.frame_ne_nil
    rw [ok_bind, if_neg hne, buf_putbufstring, hcontents]
    exact buf_putstring_puts b _

/-- Framed fields that short strings make up are read, and what follows them is left. -/
theorem reads_of_frame {more : Bytes} (hrest : b.rest = frame fs ++ more)
    (hshort : ∀ f ∈ fs, f.length < 2 ^ 32) : ∃ b', Reads b fs b' ∧ b'.rest = more := by
  have hframe : unframe fs.length (frame fs ++ more) = some (fs, more) := unframe_frame hshort
  rw [← hrest] at hframe
  have hlen := unframe_length hframe
  rw [Buffer.length_rest] at hlen
  have hpos := b.pos_le
  have hadv : Advanced b (framedLength fs) (b.moveTo (b.pos + framedLength fs) (by omega)) :=
    Buffer.advanced_moveTo _
  have hleft : (b.moveTo (b.pos + framedLength fs) (by omega)).rest = more := by
    rw [hadv.rest, hrest, List.drop_left' (length_frame fs)]
  refine ⟨_, ⟨?_, hadv⟩, hleft⟩
  rw [hleft]
  exact hframe

theorem mem_length_le_framedLength (h : f ∈ fs) : f.length ≤ framedLength fs := by
  induction fs with
  | nil => cases h
  | cons g gs ih =>
    rw [framedLength_cons]
    rcases List.mem_cons.mp h with rfl | hmem
    · omega
    · have hle := ih hmem
      omega

/-- The type that is asked for is checked against the name. -/
theorem buf_get_pub_key_wanted {type want : SignkeyType} (hname : Reads b [type.name] b₁) :
    buf_get_pub_key b new_sign_key (some want) =
      if want = type then buf_get_pub_key b new_sign_key none else .ok (none, b₁) := by
  have hget := buf_getstring_reads.mpr ⟨type.length_name_le, hname⟩
  have hfound : signkey_type_from_name type.name = some type :=
    signkey_type_from_name_eq_some.mpr rfl
  by_cases heq : want = type
  · subst heq
    rw [if_pos rfl]
    simp only [buf_get_pub_key, hget, ok_bind, hfound, ne_eq, not_true_eq_false, and_false, false_and,
      if_false]
  · have hne : (some want : Option SignkeyType) ≠ none ∧ some want ≠ some type :=
      ⟨Option.some_ne_none _, fun h => heq (Option.some.inj h)⟩
    rw [if_neg heq]
    simp only [buf_get_pub_key, hget, ok_bind, hfound]
    rw [if_pos hne]
    rfl

/-- Reading the key of a type, with anything behind it. -/
theorem buf_get_pub_key_of_rest {key : SignKey} {type : SignkeyType} {c : Buffer} {more : Bytes}
    (h : key.Valid type) (hrest : c.rest = frame (key.fields type) ++ more) :
    (∃ c', buf_get_pub_key c new_sign_key none = .ok (some (key.only type), c') ∧
      buf_get_pub_key c new_sign_key (some type) = .ok (some (key.only type), c') ∧ c'.rest = more) ∧
    ∀ want, want ≠ type → ∃ c', buf_get_pub_key c new_sign_key (some want) = .ok (none, c') := by
  have hkey := h.keyFields
  have hle := h.length_frame_le
  have hshort : ∀ f ∈ key.fields type, f.length < 2 ^ 32 := by
    intro f hf
    have hlen := mem_length_le_framedLength hf
    rw [length_frame] at hle
    omega
  obtain ⟨c', hreads, hmore⟩ := reads_of_frame hrest hshort
  have hany := buf_get_pub_key_ok.mpr ⟨_, hkey, hreads⟩
  obtain ⟨rest, hfields⟩ := h.fields_eq
  rw [hfields] at hreads
  obtain ⟨c₁, hname, -⟩ := reads_cons_single.mp hreads
  refine ⟨⟨c', hany, ?_, hmore⟩, fun want hwant => ⟨c₁, ?_⟩⟩
  · rw [buf_get_pub_key_wanted hname, if_pos rfl, hany]
  · rw [buf_get_pub_key_wanted hname, if_neg hwant]

/-- **The blob of a public key.** Whatever other keys there are, the key of a type is written as one
string of at most `MAX_PUBKEY_SIZE` bytes. Read from these bytes with anything behind them, for any type
or for this one, it is the same key and nothing else; it is not taken for a key of another type. -/
theorem pub_key_round_trip (DIGIT_BIT : Nat) (key : SignKey) (type : SignkeyType)
    (h : key.Valid type) :
    ∃ blob, blob.length ≤ MAX_PUBKEY_SIZE ∧
      (∀ b, Puts b (putstring blob) (buf_put_pub_key DIGIT_BIT b key type)) ∧
      ∀ (c : Buffer) (more : Bytes), c.rest = blob ++ more →
        (∃ c', buf_get_pub_key c new_sign_key none = .ok (some (key.only type), c') ∧
          buf_get_pub_key c new_sign_key (some type) = .ok (some (key.only type), c') ∧
          c'.rest = more) ∧
        ∀ want, want ≠ type → ∃ c', buf_get_pub_key c new_sign_key (some want) = .ok (none, c') := by
  exact ⟨frame (key.fields type), h.length_frame_le.trans (by decide),
    fun b => buf_put_pub_key_puts _ b h, fun c more hrest => buf_get_pub_key_of_rest h hrest⟩

/-- A key as old versions wrote it, without the factors. -/
def oldKey : SignPrivKey :=
  { rsakey := some { e := 65537, n := 2 ^ 1024 - 1, d := 2 ^ 1000 + 1, p := none, q := none } }

theorem oldKey_valid : oldKey.Valid .RSA :=
  .rsa rfl ⟨⟨by decide +kernel, by decide +kernel, by decide +kernel⟩, by decide +kernel,
    .inl ⟨rfl, rfl⟩⟩

theorem pub_key_round_trip_old :
    ∃ blob c c', Buffer.holding blob = .ok c ∧
      buf_get_pub_key c new_sign_key (some .RSA) = .ok (some (oldKey.pub.only .RSA), c') := by
  obtain ⟨blob, hle, -, hread⟩ := pub_key_round_trip 28 oldKey.pub .RSA oldKey_valid.pub
  obtain ⟨c, hc⟩ : ∃ c, Buffer.holding blob = .ok c :=
    ⟨_, dif_neg (Nat.not_lt.mpr (hle.trans (by decide)))⟩
  have hrest : c.rest = blob ++ [] := by rw [Buffer.rest_holding hc, List.append_nil]
  obtain ⟨⟨c', -, hget, -⟩, -⟩ := hread c [] hrest
  exact ⟨blob, c, c', hc, hget⟩

/-! ## Private keys -/

theorem buf_getmpint_of_reads {n : Nat} (hn : mp_count_bits n ≤ MPINT_BITS)
    (h : Reads b [mpintString n] b') : buf_getmpint b = .ok (some n, b') :=
  buf_getmpint_reads.mpr ⟨_, isMpint_mpintString hn, (ofBytes_mpintString n).symm, h⟩

theorem pos_ne_len_of_reads (h : Reads b (f :: fs) b') : b.pos ≠ b.len := by
  have hlen := unframe_length h.1
  rw [Buffer.length_rest, framedLength_cons] at hlen
  omega

theorem pos_eq_len_of_rest_nil (h : b.rest = []) : b.pos = b.len := by
  have hlen := b.length_rest
  have hpos := b.pos_le
  rw [h, List.length_nil] at hlen
  omega

/-- The factors are read if there is something left to read. -/
theorem buf_get_rsa_priv_key_of_reads {k : RsaPrivKey} (hk : k.Valid) (h : Reads b k.fields b')
    (hend : b'.rest = []) : buf_get_rsa_priv_key b = .ok (some k, b') := by
  obtain ⟨pub, d, p, q⟩ := k
  obtain ⟨b₁, hpub, h⟩ := reads_append.mp h
  obtain ⟨b₂, hd, h⟩ := reads_cons_single.mp h
  obtain ⟨b₀, hname, hnums⟩ := reads_cons_single.mp hpub
  refine orFail_ok.mpr ⟨pub, b₁, ?_, orFail_ok.mpr ⟨d, b₂, buf_getmpint_of_reads hk.d_le hd, ?_⟩⟩
  · exact (buf_get_rsa_pub_key_ok hname rfl).mpr ⟨_, _, hk.pub.rsaFields, hnums⟩
  · rcases hk.factors with ⟨hp, hq⟩ | ⟨p', q', hp, hq, hp_le, hq_le⟩
    · dsimp only at hp hq
      subst hp hq
      obtain rfl := reads_nil.mp h
      rw [if_pos (pos_eq_len_of_rest_nil hend)]
      rfl
    · dsimp only at hp hq
      subst hp hq
      rw [if_neg (pos_ne_len_of_reads h)]
      obtain ⟨b₃, hp, hq⟩ := reads_cons_single.mp h
      exact orFail_ok.mpr ⟨p', b₃, buf_getmpint_of_reads hp_le hp,
        orFail_ok.mpr ⟨q', b', buf_getmpint_of_reads hq_le hq, rfl⟩⟩

theorem buf_get_dss_priv_key_of_reads {k : DssPrivKey} (hk : k.Valid) (h : Reads b k.fields b') :
    buf_get_dss_priv_key b = .ok (some k, b') := by
  obtain ⟨b₁, hpub, hx⟩ := reads_append.mp h
  obtain ⟨b₀, hname, hnums⟩ := reads_cons_single.mp hpub
  refine orFail_ok.mpr ⟨k.toDssKey, b₁, ?_,
    orFail_ok.mpr ⟨k.x, b', buf_getmpint_of_reads hk.x_le hx, rfl⟩⟩
  exact (buf_get_dss_pub_key_ok hname rfl).mpr ⟨_, _, _, _, hk.pub.dssFields, hnums⟩

theorem buf_get_ecdsa_priv_key_of_reads {k : EccPrivKey} {type : SignkeyType} (hk : k.Valid)
    (htype : type.curve = some k.curve) (h : Reads b k.fields b') :
    buf_get_ecdsa_priv_key b = .ok (some k, b') := by
  obtain ⟨b₁, hpub, hsecret⟩ := reads_append.mp h
  rw [EccKey.fields, (curveOf htype).name_eq] at hpub
  obtain ⟨b₀, hname, hrest⟩ := reads_cons_single.mp hpub
  refine orFail_ok.mpr ⟨k.toEccKey, b₁, ?_,
    orFail_ok.mpr ⟨k.k, b', buf_getmpint_of_reads hk.k_le hsecret, rfl⟩⟩
  exact (buf_get_ecdsa_pub_key_ok hname type.length_name_le).mpr
    ⟨_, _, hk.pub.eccFields htype, hrest⟩

theorem SignPrivKey.Valid.fields_eq {key : SignPrivKey} {type : SignkeyType} (h : key.Valid type) :
    ∃ rest, key.fields type = type.name :: rest := by
  cases h with
  | rsa hkey h =>
    rw [SignPrivKey.fields, hkey]
    exact ⟨_, rfl⟩
  | dss hkey h =>
    rw [SignPrivKey.fields, hkey]
    exact ⟨_, rfl⟩
  | ecdsa hkey h htype =>
    rw [SignPrivKey.fields_ecdsa htype hkey, EccPrivKey.fields, EccKey.fields,
      (curveOf htype).name_eq]
    exact ⟨_, rfl⟩

/-- Once the name is known, and is the one that is wanted, the rest is left to the reader of that type. -/
theorem buf_get_priv_key_of_name {type : SignkeyType} {want : Option SignkeyType}
    (hname : Reads b [type.name] b₁) (hwant : want = none ∨ want = some type) :
    buf_get_priv_key b {} want =
      match type with
      | .DSS => orFail (buf_get_dss_priv_key b) fun k b => pure (some { dsskey := k }, b)
      | .RSA => orFail (buf_get_rsa_priv_key b) fun k b => pure (some { rsakey := k }, b)
      | .ECDSA_NISTP256 =>
        orFail (buf_get_ecdsa_priv_key b) fun k b => pure (some { ecckey256 := k }, b)
      | .ECDSA_NISTP384 =>
        orFail (buf_get_ecdsa_priv_key b) fun k b => pure (some { ecckey384 := k }, b)
      | .ECDSA_NISTP521 =>
        orFail (buf_get_ecdsa_priv_key b) fun k b => pure (some { ecckey521 := k }, b) := by
  have hmax := type.length_name_le
  have hadv : Advanced b (4 + type.name.length) b₁ := by
    have h := hname.2
    rw [framedLength_cons] at h
    exact h
  have hback : buf_incrpos b₁ (-((4 + type.name.length : Nat) : Int)) = .ok b := by
    refine buf_incrpos_neg hadv ?_
    simp only [MAX_STRING_LEN, BUF_MAX_INCR] at hmax ⊢
    omega
  have hfound : signkey_type_from_name type.name = some type :=
    signkey_type_from_name_eq_some.mpr rfl
  have hpass : ¬ (want ≠ none ∧ want ≠ some type) := by
    rcases hwant with rfl | rfl
    · exact fun h => h.1 rfl
    · exact fun h => h.2 rfl
  rw [buf_get_priv_key, buf_getstring_reads.mpr ⟨hmax, hname⟩, ok_bind]
  simp only [hfound]
  rw [if_neg hpass, hback, ok_bind]
  cases type <;> rfl

/-- The key of one type comes back without the others. -/
theorem buf_get_priv_key_of_reads {key : SignPrivKey} {type : SignkeyType}
    {want : Option SignkeyType} (hkey : key.Valid type) (h : Reads b (key.fields type) b')
    (hend : b'.rest = []) (hwant : want = none ∨ want = some type) :
    buf_get_priv_key b {} want = .ok (some (key.only type), b') := by
  obtain ⟨rest, hfields⟩ := hkey.fields_eq
  have hfirst := h
  rw [hfields] at hfirst
  obtain ⟨b₁, hname, -⟩ := reads_cons_single.mp hfirst
  rw [buf_get_priv_key_of_name hname hwant]
  cases hkey with
  | rsa hkey hk =>
    rw [SignPrivKey.fields, hkey] at h
    rw [SignPrivKey.only, hkey]
    exact orFail_ok.mpr ⟨_, b', buf_get_rsa_priv_key_of_reads hk h hend, rfl⟩
  | dss hkey hk =>
    rw [SignPrivKey.fields, hkey] at h
    rw [SignPrivKey.only, hkey]
    exact orFail_ok.mpr ⟨_, b', buf_get_dss_priv_key_of_reads hk h, rfl⟩
  | @ecdsa type k hkey hk htype =>
    rw [SignPrivKey.fields_ecdsa htype hkey] at h
    have hread := buf_get_ecdsa_priv_key_of_reads hk htype h
    cases type with
    | RSA | DSS => cases htype
    | ECDSA_NISTP256 =>
      have hslot : key.ecckey256 = some k := hkey
      rw [SignPrivKey.only, hslot]
      exact orFail_ok.mpr ⟨k, b', hread, rfl⟩
    | ECDSA_NISTP384 =>
      have hslot : key.ecckey384 = some k := hkey
      rw [SignPrivKey.only, hslot]
      exact orFail_ok.mpr ⟨k, b', hread, rfl⟩
    | ECDSA_NISTP521 =>
      have hslot : key.ecckey521 = some k := hkey
      rw [SignPrivKey.only, hslot]
      exact orFail_ok.mpr ⟨k, b', hread, rfl⟩

theorem buf_put_priv_key_puts (DIGIT_BIT : Nat) (b : Buffer) {key : SignPrivKey}
    {type : SignkeyType} (h : key.Valid type) :
    Puts b (frame (key.fields type)) (buf_put_priv_key DIGIT_BIT b key type) := by
  cases h with
  | rsa hkey h =>
    rw [SignPrivKey.fields, buf_put_priv_key, hkey]
    exact buf_put_rsa_priv_key_puts b _
  | dss hkey h =>
    rw [SignPrivKey.fields, buf_put_priv_key, hkey]
    exact buf_put_dss_priv_key_puts b _
  | @ecdsa type k hkey h htype =>
    have hputs : Puts b (frame k.fields) (buf_put_ecdsa_priv_key DIGIT_BIT b k) :=
      buf_put_ecdsa_priv_key_puts b h.pub.toFits
    rw [SignPrivKey.fields_ecdsa htype hkey]
    cases type with
    | RSA | DSS => cases htype
    | ECDSA_NISTP256 | ECDSA_NISTP384 | ECDSA_NISTP521 =>
      simp only [buf_put_priv_key, hkey]
      exact hputs

/-- The file of a private key is all of its fields. -/
def SignPrivKey.file (key : SignPrivKey) (type : SignkeyType) : Bytes := frame (key.fields type)

/-- A key of another type than the one that is asked for is refused. -/
theorem buf_get_priv_key_unwanted {type want : SignkeyType} (hname : Reads b [type.name] b₁)
    (hwant : want ≠ type) : buf_get_priv_key b {} (some want) = .ok (none, b₁) := by
  have hfound : signkey_type_from_name type.name = some type :=
    signkey_type_from_name_eq_some.mpr rfl
  have hne : (some want : Option SignkeyType) ≠ none ∧ some want ≠ some type :=
    ⟨Option.some_ne_none _, fun h => hwant (Option.some.inj h)⟩
  rw [buf_get_priv_key, buf_getstring_reads.mpr ⟨type.length_name_le, hname⟩, ok_bind]
  simp only [hfound]
  rw [if_pos hne]
  rfl

/-- **The file of a private key.** It is written unless it takes more than `MAX_PRIVKEY_SIZE` bytes, and
then the buffer exits. What was written is read again as the same key, up to its last byte, whether its
type is asked for or any; asked for another type, the reader fails. -/
theorem priv_key_round_trip (DIGIT_BIT : Nat) (key : SignPrivKey) (type : SignkeyType) (b : Buffer)
    (h : key.Valid type) (hnew : buf_new MAX_PRIVKEY_SIZE = .ok b) :
    Verdict ((key.file type).length ≤ MAX_PRIVKEY_SIZE) (buf_put_priv_key DIGIT_BIT b key type) ∧
    ∀ b', buf_put_priv_key DIGIT_BIT b key type = .ok b' →
      b'.contents = key.file type ∧
      ∀ c : Buffer, c.rest = b'.contents →
        (∃ c', buf_get_priv_key c {} none = .ok (some (key.only type), c') ∧
          buf_get_priv_key c {} (some type) = .ok (some (key.only type), c') ∧ c'.rest = []) ∧
        ∀ want, want ≠ type → ∃ c', buf_get_priv_key c {} (some want) = .ok (none, c') := by
  have hputs := (buf_put_priv_key_puts DIGIT_BIT b h).of_new hnew
  constructor
  · exact hputs.imp (fun _ => id) fun _ => And.left
  · intro b' hput
    obtain ⟨hle, hcontents, -⟩ := hputs.of_ok hput
    refine ⟨hcontents, fun c hc => ?_⟩
    have hrest : c.rest = frame (key.fields type) ++ [] := by
      rw [hc, hcontents, List.append_nil]
    have hshort : ∀ f ∈ key.fields type, f.length < 2 ^ 32 := by
      intro f hf
      have hlen := mem_length_le_framedLength hf
      rw [length_frame] at hle
      simp only [MAX_PRIVKEY_SIZE] at hle
      omega
    obtain ⟨c', hreads, hend⟩ := reads_of_frame hrest hshort
    obtain ⟨rest, hfields⟩ := h.fields_eq
    have hfirst := hreads
    rw [hfields] at hfirst
    obtain ⟨c₁, hname, -⟩ := reads_cons_single.mp hfirst
    refine ⟨⟨c', ?_, ?_, hend⟩, fun want hwant => ⟨c₁, buf_get_priv_key_unwanted hname hwant⟩⟩
    · exact buf_get_priv_key_of_reads h hreads hend (.inl rfl)
    · exact buf_get_priv_key_of_reads h hreads hend (.inr rfl)

theorem priv_key_round_trip_old :
    ∃ b b' c c', buf_new MAX_PRIVKEY_SIZE = .ok b ∧ buf_put_priv_key 28 b oldKey .RSA = .ok b' ∧
      Buffer.holding b'.contents = .ok c ∧ buf_get_priv_key c {} none = .ok (some oldKey, c') ∧
      c'.rest = [] := by
  obtain ⟨b, hnew, -⟩ := buf_new_is (n := MAX_PRIVKEY_SIZE) (by decide)
  have hfits : (oldKey.file .RSA).length ≤ MAX_PRIVKEY_SIZE := by decide +kernel
  obtain ⟨hverdict, hround⟩ := priv_key_round_trip 28 oldKey .RSA b oldKey_valid hnew
  obtain ⟨b', hput⟩ := hverdict.exists_ok hfits
  obtain ⟨hfile, hread⟩ := hround b' hput
  obtain ⟨c, hc⟩ : ∃ c, Buffer.holding b'.contents = .ok c := by
    rw [hfile]
    exact ⟨_, dif_neg (Nat.not_lt.mpr (hfits.trans (by decide)))⟩
  obtain ⟨⟨c', hget, -, hend⟩, -⟩ := hread c (Buffer.rest_holding hc)
  exact ⟨b, b', c, c', hnew, hput, hc, hget, hend⟩

end SimpleSshd.Dropbear
