import SimpleSshd.Dropbear.Sign
import SimpleSshd.Dropbear.Proofs.ReadingProofs
import Mathlib.NumberTheory.LucasLehmer
import Mathlib.Tactic.NormNum.Prime

/-!
# Proofs: signatures verify

What `buf_put_sign` writes, `buf_verify` accepts with the public half of the key. For RSA this holds for
every blinding value that has an inverse. The DSS signer does not repeat the draw, so its signatures verify
unless one of the two numbers is zero.
-/

namespace SimpleSshd.Dropbear

open Fallible Framing Overwrite BigEndian

variable {prim : Primitives} {b b' c : Buffer} {bs data : Bytes} {DIGIT_BIT : Nat}

/-! ## Writing numbers of a fixed length -/

theorem putRepeated_puts (val : UInt8) (b : Buffer) (k : Nat) :
    Puts b (List.replicate k val) (putRepeated val b k) := by
  induction k generalizing b with
  | zero => exact Puts.pure b
  | succ k ih =>
    rw [List.replicate_succ, ← List.singleton_append]
    exact (buf_putbyte_puts b val).bind fun b₁ => ih b₁

theorem dropbear_assert_pos {p : Prop} [Decidable p] (h : p) : dropbear_assert p = .ok () := if_pos h

theorem putPadded_puts (b : Buffer) {nsize n : Nat} (h : mp_unsigned_bin_size n ≤ nsize) :
    Puts b (padded nsize n) (putPadded b nsize n) := by
  unfold putPadded
  dsimp only
  rw [dropbear_assert_pos h, ok_bind, padded, ← length_mp_to_unsigned_bin]
  exact (putRepeated_puts 0 b _).bind fun b₁ => buf_getwriteptr_puts b₁ _

/-! ## The padded message -/

/-- `01 | FF* | 00 | prefix | hash`, one byte shorter than the modulus. -/
def emBytes (nsize : Nat) (hash : Bytes) : Bytes :=
  1 :: (List.replicate (nsize - 38) 0xff ++ (rsa_asn1_magic ++ hash))

theorem length_emBytes {nsize : Nat} {hash : Bytes} (hsize : 38 ≤ nsize)
    (hhash : hash.length = SHA1_HASH_SIZE) : (emBytes nsize hash).length = nsize - 1 := by
  have hmagic : rsa_asn1_magic.length = 16 := rfl
  rw [emBytes, List.length_cons, List.length_append, List.length_replicate, List.length_append,
    hmagic, hhash, SHA1_HASH_SIZE]
  omega

theorem Primitives.length_sha1 (prim : Primitives) (data : Bytes) :
    (prim.sha1.digest data).length = SHA1_HASH_SIZE :=
  (prim.sha1.length_digest data).trans prim.sha1_hashsize

/-- **The padding.** A modulus of at least 38 bytes has room for all of it. -/
theorem rsa_pad_em_eq {key : RsaKey} (hsize : 38 ≤ mp_unsigned_bin_size key.n)
    (hmax : mp_unsigned_bin_size key.n ≤ BUF_MAX_SIZE) :
    rsa_pad_em prim key data =
      .ok (ofBytes (emBytes (mp_unsigned_bin_size key.n) (prim.sha1.digest data))) := by
  unfold rsa_pad_em
  generalize mp_unsigned_bin_size key.n = nsize at *
  have hash := prim.length_sha1 data
  have hmagic : rsa_asn1_magic.length = 16 := rfl
  have hlen := length_emBytes hsize hash
  obtain ⟨b₀, hnew, hb₀⟩ := buf_new_is (n := nsize - 1) (by omega)
  obtain ⟨b₁, hput, hb₁⟩ := buf_putbyte_append_is hb₀ (by rw [List.length_replicate]; omega) 1
  have hd₁ : (overwrite (List.replicate (nsize - 1) (0 : UInt8)) 0 [1]).length = nsize - 1 := by
    rw [length_overwrite, List.length_replicate]
    rw [List.length_replicate, List.length_singleton]
    omega
  have hpad : padFF b₁ = putRepeated 0xff b₁ (nsize - 38) := by
    unfold padFF
    rw [hb₁.size_eq, hb₁.pos_eq, hd₁, if_pos (by simp only [RSA_ASN1_MAGIC_LEN, SHA1_HASH_SIZE]; omega)]
    congr 1
  dsimp only
  rw [if_neg (by omega), hnew, ok_bind, hput, ok_bind, hpad]
  have hputs := (putRepeated_puts 0xff b₁ (nsize - 38)).bind fun b₂ =>
    (buf_putbytes_puts b₂ rsa_asn1_magic).bind fun b₃ => buf_putbytes_puts b₃ (prim.sha1.digest data)
  have hbytes : 1 + (List.replicate (nsize - 38) (0xff : UInt8) ++
      (rsa_asn1_magic ++ prim.sha1.digest data)).length = nsize - 1 := by
    rw [← hlen, emBytes, List.length_cons, Nat.add_comm]
  cases hrun : (do
      let b₂ ← putRepeated 0xff b₁ (nsize - 38)
      let b₃ ← buf_putbytes b₂ rsa_asn1_magic
      buf_putbytes b₃ (prim.sha1.digest data) : Except Exit Buffer) with
  | error e =>
    refine absurd ?_ (hputs.of_error hrun).1
    rw [hb₁.pos_eq, hb₁.data_eq, hd₁, hbytes]
  | ok b₄ =>
    obtain ⟨-, hb₄⟩ := hputs.of_ok hrun
    have hroom : 0 + [(1 : UInt8)].length ≤ (List.replicate (nsize - 1) (0 : UInt8)).length := by
      rw [List.length_replicate, List.length_singleton]
      omega
    have hdata : b₄.data = emBytes nsize (prim.sha1.digest data) := by
      rw [hb₄.data_eq, hb₁.data_eq, hb₁.pos_eq]
      refine (overwrite_append hroom).trans ?_
      exact overwrite_all (hlen.trans List.length_replicate.symm)
    have hpos : b₄.pos = nsize - 1 := by
      rw [hb₄.pos_eq, hb₁.pos_eq]
      omega
    simp only [bind_eq_ok] at hrun
    obtain ⟨b₂, h₂, b₃, h₃, h₄⟩ := hrun
    have hsize₄ : b₄.size = nsize - 1 := (congrArg List.length hdata).trans hlen
    have hfull : b₄.Is (emBytes nsize (prim.sha1.digest data)) (nsize - 1) (nsize - 1) := by
      refine ⟨hdata, ?_, hpos⟩
      have hle := b₄.len_le
      have hge := b₄.pos_le
      rw [hdata] at hle
      omega
    obtain ⟨b₅, h₅, hb₅⟩ := buf_setpos_is hfull (Nat.zero_le _)
    rw [h₂, ok_bind, h₃, ok_bind, h₄, ok_bind, dropbear_assert_pos (hpos.trans hsize₄.symm), ok_bind,
      h₅, ok_bind, hb₅.size_eq, hlen, buf_getptr_is hb₅ (by omega), ok_bind, List.drop_zero,
      List.take_of_length_le hlen.le]
    rfl

/-- A number of `nsize` bytes is larger than any of one byte less. -/
theorem pow_le_of_bin_size {n : Nat} (h : 0 < mp_unsigned_bin_size n) :
    256 ^ (mp_unsigned_bin_size n - 1) ≤ n := by
  have hne : n ≠ 0 := by
    rintro rfl
    exact absurd h (by decide)
  refine Nat.le_trans ?_ (two_pow_count_bits_le hne)
  rw [show 256 = 2 ^ 8 from rfl, ← Nat.pow_mul]
  refine Nat.pow_le_pow_right (by decide) ?_
  rw [mp_unsigned_bin_size] at h ⊢
  omega

theorem lt_pow_bin_size (n : Nat) : n < 256 ^ mp_unsigned_bin_size n := by
  refine Nat.lt_of_lt_of_le (lt_two_pow_count_bits n) ?_
  rw [show 256 = 2 ^ 8 from rfl, ← Nat.pow_mul]
  refine Nat.pow_le_pow_right (by decide) ?_
  rw [mp_unsigned_bin_size]
  omega

theorem emBytes_lt {n : Nat} {hash : Bytes} (hsize : 38 ≤ mp_unsigned_bin_size n)
    (hhash : hash.length = SHA1_HASH_SIZE) :
    ofBytes (emBytes (mp_unsigned_bin_size n) hash) < n := by
  have hlt := ofBytes_lt (emBytes (mp_unsigned_bin_size n) hash)
  rw [length_emBytes hsize hhash] at hlt
  exact hlt.trans_le (pow_le_of_bin_size (by omega))

/-! ## RSA -/

/-- The signed number, with the blinding value `r` and its inverse. -/
def blindSigned (key : RsaPrivKey) (em r r_inv : Nat) : Nat :=
  mp_mulmod (mp_exptmod (mp_mulmod em (mp_exptmod r key.e key.n) key.n) key.d key.n) r_inv key.n

/-- The exponents of the key undo each other modulo the product of two primes. -/
structure RsaPair (p q : Nat) (key : RsaPrivKey) : Prop where
  prime_p : p.Prime
  prime_q : q.Prime
  ne : p ≠ q
  n_eq : key.n = p * q
  undo : key.e * key.d ≡ 1 [MOD Nat.lcm (p - 1) (q - 1)]

namespace RsaPair

variable {p q : Nat} {key : RsaPrivKey}

theorem n_pos (h : RsaPair p q key) : 0 < key.n := by
  rw [h.n_eq]
  exact Nat.mul_pos h.prime_p.pos h.prime_q.pos

theorem exponent_pos (h : RsaPair p q key) : 0 < key.e * key.d := by
  rcases Nat.eq_zero_or_pos (key.e * key.d) with hzero | hpos
  · -- otherwise both primes would be 2
    have hundo := h.undo
    rw [hzero] at hundo
    have hdvd : Nat.lcm (p - 1) (q - 1) ∣ 1 := (Nat.modEq_zero_iff_dvd.mp hundo.symm)
    have hp : p - 1 = 1 := Nat.dvd_one.mp ((Nat.dvd_lcm_left _ _).trans hdvd)
    have hq : q - 1 = 1 := Nat.dvd_one.mp ((Nat.dvd_lcm_right _ _).trans hdvd)
    have hne := h.ne
    omega
  · exact hpos

theorem pow_undo (h : RsaPair p q key) (m : Nat) : m ^ (key.e * key.d) ≡ m [MOD key.n] := by
  rw [h.n_eq]
  exact Modular.pow_modEq_self h.prime_p h.prime_q h.ne h.undo h.exponent_pos m

/-- The number that is signed comes back, whatever the blinding value was. -/
theorem unblind (h : RsaPair p q key) {em r r_inv : Nat} (hem : em < key.n)
    (hinv : mp_invmod r key.n = some r_inv) :
    mp_exptmod (blindSigned key em r r_inv) key.e key.n = em := by
  have hr := (Modular.inverse_spec hinv).1
  simp only [blindSigned, mp_exptmod, mp_mulmod, Modular.powMod_eq]
  have hmod : (((em * (r ^ key.e % key.n) % key.n) ^ key.d % key.n * r_inv) % key.n) ^ key.e ≡
      ((em * r ^ key.e) ^ key.d * r_inv) ^ key.e [MOD key.n] := by
    refine Nat.ModEq.pow _ ((Nat.mod_modEq _ _).trans (Nat.ModEq.mul_right _ ?_))
    refine (Nat.mod_modEq _ _).trans (Nat.ModEq.pow _ ?_)
    exact (Nat.mod_modEq _ _).trans ((Nat.mod_modEq _ _).mul_left _)
  exact Nat.mod_eq_of_modEq (hmod.trans (Modular.unblind h.pow_undo hr)) hem

end RsaPair

/-- What the signature of a message is, and what is checked. -/
structure RsaSignature (prim : Primitives) (key : RsaKey) (data : Bytes) (s : Nat) : Prop where
  lt : s < key.n
  verify : rsa_verify prim key s data = true

theorem buf_put_rsa_sign_puts (prim : Primitives) (data : Bytes) {p q r r_inv : Nat}
    {key : RsaPrivKey} (h : RsaPair p q key)
    (hsize : 38 ≤ mp_unsigned_bin_size key.n) (hmax : mp_unsigned_bin_size key.n ≤ BUF_MAX_SIZE)
    (hinv : mp_invmod r key.n = some r_inv) :
    ∃ s, RsaSignature prim key.toRsaKey data s ∧
      ∀ b, Puts b (putstring (SignkeyType.name .RSA) ++ putstring (padded (mp_unsigned_bin_size key.n) s))
        (buf_put_rsa_sign prim b key data r) := by
  have hpad : rsa_pad_em prim key.toRsaKey data = .ok _ := rsa_pad_em_eq hsize hmax
  have hem := emBytes_lt hsize (prim.length_sha1 data)
  generalize ofBytes (emBytes (mp_unsigned_bin_size key.n) (prim.sha1.digest data)) = em at *
  have hlt : blindSigned key em r r_inv < key.n := Nat.mod_lt _ h.n_pos
  refine ⟨blindSigned key em r r_inv, ⟨hlt, ?_⟩, fun b => ?_⟩
  · rw [rsa_verify, hpad]
    exact decide_eq_true (h.unblind hem hinv).symm
  · have hfits : mp_unsigned_bin_size (blindSigned key em r r_inv) ≤ mp_unsigned_bin_size key.n :=
      bin_size_le (hlt.trans (lt_pow_bin_size key.n))
    have hbody : ∀ b₁, Puts b₁ (putstring (padded (mp_unsigned_bin_size key.n)
        (blindSigned key em r r_inv))) (do
          let b₂ ← buf_putint b₁ (mp_unsigned_bin_size key.n)
          putPadded b₂ (mp_unsigned_bin_size key.n) (blindSigned key em r r_inv)) := by
      intro b₁
      rw [putstring, length_padded hfits]
      exact (buf_putbytes_puts b₁ _).bind fun b₂ => putPadded_puts b₂ hfits
    rw [buf_put_rsa_sign, hpad, ok_bind, hinv]
    exact (buf_putstring_puts b _).bind hbody

/-- The signature is the rest of the packet. -/
theorem buf_rsa_verify_of_rest {key : RsaKey} {s : Nat} (h : RsaSignature prim key data s)
    (hmax : mp_unsigned_bin_size key.n ≤ BUF_MAX_SIZE)
    (hrest : c.rest = putstring (padded (mp_unsigned_bin_size key.n) s)) :
    buf_rsa_verify (crypto prim) c key data = .ok DROPBEAR_SUCCESS := by
  have hfits : mp_unsigned_bin_size s ≤ mp_unsigned_bin_size key.n :=
    bin_size_le (h.lt.trans (lt_pow_bin_size key.n))
  rw [putstring, length_padded hfits] at hrest
  obtain ⟨c', hint, hbody⟩ := buf_getint_of_rest (Nat.lt_of_le_of_lt hmax (by decide)) hrest
  have hptr : buf_getptr c' (c'.len - c'.pos) = .ok (padded (mp_unsigned_bin_size key.n) s) := by
    rw [← Buffer.length_rest]
    refine buf_getptr_ok.mpr ⟨le_rfl, ?_⟩
    rw [List.take_length, hbody]
  have hverify : (crypto prim).rsa_verify key s data = true := h.verify
  rw [buf_rsa_verify, hint, ok_bind]
  dsimp only
  rw [if_neg (not_not_intro rfl), hptr, ok_bind, ofBytes_padded,
    if_neg (not_not_intro h.lt), if_pos hverify]
  rfl

/-! ## DSS -/

/-- The public number is a power of an element whose order is the prime `q`, which has no more bits than
the hash. -/
structure DssPair (key : DssPrivKey) : Prop where
  prime_q : key.q.Prime
  bits_q : mp_count_bits key.q ≤ 8 * SHA1_HASH_SIZE
  order : key.g ^ key.q ≡ 1 [MOD key.p]
  y_eq : key.y = mp_exptmod key.g key.x key.p

theorem coprime_of_lt_prime {q n : Nat} (hq : q.Prime) (hpos : n ≠ 0) (hlt : n < q) : Nat.Coprime n q :=
  (Nat.coprime_of_lt_prime hpos hlt hq).symm

namespace DssPair

variable {key : DssPrivKey} {k k_inv m : Nat}

/-- The second number of a signature. -/
def second (key : DssPrivKey) (m r k_inv : Nat) : Nat :=
  mp_mulmod k_inv (mp_addmod m (mp_mulmod r key.x key.q) key.q) key.q

theorem second_spec (hinv : mp_invmod k key.q = some k_inv) (m r : Nat) :
    k * second key m r k_inv ≡ m + key.x * r [MOD key.q] := by
  have hone := (Modular.inverse_spec hinv).1
  rw [second, mp_mulmod, mp_addmod, mp_mulmod]
  calc k * (k_inv * ((m + r * key.x % key.q) % key.q) % key.q)
      ≡ k * (k_inv * (m + r * key.x)) [MOD key.q] :=
        ((Nat.mod_modEq _ _).trans
          (((Nat.mod_modEq _ _).trans ((Nat.mod_modEq _ _).add_left m)).mul_left _)).mul_left _
    _ = k * k_inv * (m + key.x * r) := by ring
    _ ≡ 1 * (m + key.x * r) [MOD key.q] := hone.mul_right _
    _ = m + key.x * r := Nat.one_mul _

/-- **The equation of the check.** -/
theorem verify (h : DssPair key) (hinv : mp_invmod k key.q = some k_inv) {r s : Nat}
    (hr : r = mp_exptmod key.g k key.p % key.q)
    (hs : s = second key (ofBytes (prim.sha1.digest data)) r k_inv) (hpos : s ≠ 0) :
    dss_verify prim key.toDssKey r s data = true := by
  have hlt : s < key.q := by
    rw [hs]
    exact Nat.mod_lt _ h.prime_q.pos
  obtain ⟨w, hw⟩ := Modular.inverse_isSome h.prime_q.ne_zero (coprime_of_lt_prime h.prime_q hpos hlt)
  have hspec := second_spec hinv (ofBytes (prim.sha1.digest data)) r
  rw [← hs] at hspec
  have hpow := Modular.pow_mul_pow_modEq h.order hspec (Modular.inverse_spec hw).1
  have hsw : mp_invmod s key.q = some w := hw
  rw [dss_verify, hsw]
  refine decide_eq_true ?_
  simp only [mp_mulmod, mp_exptmod, Modular.powMod_eq, h.y_eq] at hr ⊢
  rw [← Nat.mul_mod, hpow]
  exact hr.symm

end DssPair

theorem padded_pair {r s : Nat} (hr : mp_unsigned_bin_size r ≤ SHA1_HASH_SIZE)
    (hs : mp_unsigned_bin_size s ≤ SHA1_HASH_SIZE) :
    (padded SHA1_HASH_SIZE r ++ padded SHA1_HASH_SIZE s).length = 2 * SHA1_HASH_SIZE := by
  rw [List.length_append, length_padded hr, length_padded hs, Nat.two_mul]

theorem buf_put_dss_sign_puts {key : DssPrivKey} {k r s : Nat}
    (hparams : dss_sign_params key (ofBytes (prim.sha1.digest data)) k = .ok (r, s))
    (hr : mp_unsigned_bin_size r ≤ SHA1_HASH_SIZE) (hs : mp_unsigned_bin_size s ≤ SHA1_HASH_SIZE)
    (b : Buffer) :
    Puts b (putstring (SignkeyType.name .DSS) ++
      putstring (padded SHA1_HASH_SIZE r ++ padded SHA1_HASH_SIZE s))
      (buf_put_dss_sign prim b key data k) := by
  have hbody : ∀ b₁, Puts b₁ (putstring (padded SHA1_HASH_SIZE r ++ padded SHA1_HASH_SIZE s)) (do
      let b₂ ← buf_putint b₁ (2 * SHA1_HASH_SIZE)
      let b₃ ← putPadded b₂ SHA1_HASH_SIZE r
      putPadded b₃ SHA1_HASH_SIZE s) := by
    intro b₁
    rw [putstring, padded_pair hr hs]
    exact (buf_putbytes_puts b₁ _).bind fun b₂ =>
      (putPadded_puts b₂ hr).bind fun b₃ => putPadded_puts b₃ hs
  rw [buf_put_dss_sign, hparams, ok_bind]
  exact (buf_putstring_puts b _).bind hbody

theorem buf_dss_verify_of_rest {key : DssKey} {r s : Nat}
    (hr : mp_unsigned_bin_size r ≤ SHA1_HASH_SIZE) (hs : mp_unsigned_bin_size s ≤ SHA1_HASH_SIZE)
    (hrest : c.rest = putstring (padded SHA1_HASH_SIZE r ++ padded SHA1_HASH_SIZE s)) :
    buf_dss_verify (crypto prim) c key data =
      .ok (if ¬ s < key.q ∨ ¬ s > 0 ∨ ¬ r < key.q ∨ ¬ r > 0 then DROPBEAR_FAILURE
        else if dss_verify prim key r s data then DROPBEAR_SUCCESS else DROPBEAR_FAILURE) := by
  have hlen := padded_pair hr hs
  have hmax : (padded SHA1_HASH_SIZE r ++ padded SHA1_HASH_SIZE s).length ≤ MAX_STRING_LEN := by
    rw [hlen]
    decide
  rw [← List.append_nil (putstring _)] at hrest
  obtain ⟨c', hstring, -⟩ := buf_getstring_of_rest hmax hrest
  rw [buf_dss_verify, hstring, ok_bind]
  dsimp only
  rw [if_neg (not_not_intro hlen), List.take_left' (length_padded hr), List.drop_left' (length_padded hr),
    ofBytes_padded, ofBytes_padded]
  by_cases hrange : ¬ s < key.q ∨ ¬ s > 0 ∨ ¬ r < key.q ∨ ¬ r > 0
  · rw [if_pos hrange, if_pos hrange]
    rfl
  · rw [if_neg hrange, if_neg hrange]
    exact (apply_ite Except.ok _ _ _).symm

/-! ## Keys of any type -/

/-- The name in the signature decides which key verifies it. -/
theorem buf_verify_of_rest {type : SignkeyType} {key : SignKey} {body : Bytes}
    (hlen : (putstring type.name ++ body).length < 2 ^ 32)
    (hrest : c.rest = putstring (putstring type.name ++ body)) :
    ∃ c', c'.rest = body ∧ buf_verify (crypto prim) c key data =
      match type with
      | .DSS =>
        match key.dsskey with
        | none => dropbear_exit "No DSS key to verify signature"
        | some k => buf_dss_verify (crypto prim) c' k data
      | .RSA =>
        match key.rsakey with
        | none => dropbear_exit "No RSA key to verify signature"
        | some k => buf_rsa_verify (crypto prim) c' k data
      | type => verifyWith (crypto prim) c' (key.ecckey type) data := by
  obtain ⟨c₁, hint, hc₁⟩ := buf_getint_of_rest hlen hrest
  obtain ⟨c₂, hstring, hc₂⟩ := buf_getstring_of_rest type.length_name_le hc₁
  have hfound : signkey_type_from_name type.name = some type :=
    signkey_type_from_name_eq_some.mpr rfl
  refine ⟨c₂, hc₂, ?_⟩
  rw [buf_verify, hint, ok_bind]
  dsimp only
  rw [hstring, ok_bind]
  dsimp only
  rw [hfound]
  cases type <;> rfl

/-- The data is signed wherever there is room for the signature, which is no longer than a public key may
be, and `buf_verify` gives the answer for it, with the public half of the key. -/
def SignatureGets (prim : Primitives) (DIGIT_BIT : Nat) (key : SignPrivKey) (type : SignkeyType)
    (data : Bytes) (nonces : List Nat) (answer : Status) : Prop :=
  ∃ sig : Bytes, sig.length ≤ MAX_PUBKEY_SIZE + 4 ∧
    (∀ b : Buffer, b.pos + sig.length ≤ b.data.length →
      ∃ b', buf_put_sign prim DIGIT_BIT b key type data nonces = .ok (some b') ∧
        b'.Is (overwrite b.data b.pos sig) (max b.len (b.pos + sig.length)) (b.pos + sig.length)) ∧
    ∀ c : Buffer, c.rest = sig → buf_verify (crypto prim) c key.pub data = .ok answer

/-- A blob that is not empty, and not too long, becomes a string. -/
theorem buf_put_sign_of_blob {key : SignPrivKey} {type : SignkeyType} {nonces : List Nat} {blob : Bytes}
    (hblob : ∀ b, ∃ x, putSignBlob prim DIGIT_BIT b key type data nonces = some <$> x ∧ Puts b blob x)
    (hlen : blob.length ≤ MAX_PUBKEY_SIZE) (hne : blob ≠ [])
    (hroom : b.pos + (putstring blob).length ≤ b.data.length) :
    ∃ b', buf_put_sign prim DIGIT_BIT b key type data nonces = .ok (some b') ∧
      b'.Is (overwrite b.data b.pos (putstring blob)) (max b.len (b.pos + (putstring blob).length))
        (b.pos + (putstring blob).length) := by
  obtain ⟨sigblob, hnew, -⟩ := buf_new_is (n := MAX_PUBKEY_SIZE) (by decide)
  obtain ⟨sign, hsign, hputs⟩ := hblob sigblob
  have hsigned := hputs.of_new hnew
  rw [buf_put_sign, hnew, ok_bind, hsign]
  cases sign with
  | error e => exact absurd hlen (hsigned.of_error rfl).1
  | ok written =>
    obtain ⟨-, hcontents, hused⟩ := hsigned.of_ok rfl
    have hnonempty : ¬ written.len = 0 := by
      rw [hused]
      exact fun hzero => hne (List.length_eq_zero_iff.mp hzero)
    have hstring := buf_putstring_puts b blob
    cases hall : buf_putstring b blob with
    | error e => exact absurd hroom (hstring.of_error hall).1
    | ok b' =>
      refine ⟨b', ?_, (hstring.of_ok hall).2⟩
      show (if written.len = 0 then _ else _) = _
      rw [if_neg hnonempty, buf_putbufstring, hcontents, hall]
      rfl

/-- What is left to show for a type of key: what its signer writes behind the name, and what its
verifier says to that. -/
theorem SignatureGets.of_body {key : SignPrivKey} {type : SignkeyType} {nonces : List Nat}
    {answer : Status} (body : Bytes) (hlen : body.length ≤ 1100)
    (hblob : ∀ b, ∃ x, putSignBlob prim DIGIT_BIT b key type data nonces = some <$> x ∧
      Puts b (putstring type.name ++ body) x)
    (hverify : ∀ c : Buffer, c.rest = body →
      (match type with
      | .DSS =>
        match key.pub.dsskey with
        | none => dropbear_exit "No DSS key to verify signature"
        | some k => buf_dss_verify (crypto prim) c k data
      | .RSA =>
        match key.pub.rsakey with
        | none => dropbear_exit "No RSA key to verify signature"
        | some k => buf_rsa_verify (crypto prim) c k data
      | type => verifyWith (crypto prim) c (key.pub.ecckey type) data) = .ok answer) :
    SignatureGets prim DIGIT_BIT key type data nonces answer := by
  have hname : type.name.length ≤ 19 := by cases type <;> decide
  have hall : (putstring type.name ++ body).length ≤ 1123 := by
    rw [List.length_append, putstring, List.length_append, length_be32]
    omega
  have hne : putstring type.name ++ body ≠ [] :=
    List.append_ne_nil_of_left_ne_nil (List.cons_ne_nil _ _) _
  refine ⟨putstring (putstring type.name ++ body), ?_, fun b hroom => ?_, fun c hrest => ?_⟩
  · rw [putstring, List.length_append, length_be32, show MAX_PUBKEY_SIZE = 1700 from rfl]
    omega
  · exact buf_put_sign_of_blob hblob (hall.trans (by decide)) hne hroom
  · obtain ⟨c', hc', hanswer⟩ := buf_verify_of_rest (Nat.lt_of_le_of_lt hall (by decide)) hrest
    rw [hanswer]
    exact hverify c' hc'

theorem RsaKey.Valid.bin_size_n {k : RsaKey} (h : k.Valid) :
    38 ≤ mp_unsigned_bin_size k.n ∧ mp_unsigned_bin_size k.n ≤ 1030 := by
  have hlow := h.bits_n
  have hhigh := h.n_le
  rw [mp_unsigned_bin_size]
  simp only [MIN_RSA_KEYLEN] at hlow
  rw [show MPINT_BITS = 8239 from rfl] at hhigh
  omega

theorem SignatureGets.rsa {key : SignPrivKey} {k : RsaPrivKey} {p q r : Nat} {nonces : List Nat}
    (hkey : key.rsakey = some k) (hpair : RsaPair p q k) (hvalid : k.toRsaKey.Valid)
    (hcoprime : Nat.Coprime r k.n) :
    SignatureGets prim DIGIT_BIT key .RSA data (r :: nonces) DROPBEAR_SUCCESS := by
  obtain ⟨hsize, hbound⟩ := hvalid.bin_size_n
  have hmax : mp_unsigned_bin_size k.n ≤ BUF_MAX_SIZE := hbound.trans (by decide)
  obtain ⟨r_inv, hinv⟩ := Modular.inverse_isSome hpair.n_pos.ne' hcoprime
  obtain ⟨s, hs, hputs⟩ := buf_put_rsa_sign_puts prim data hpair hsize hmax hinv
  have hfits : mp_unsigned_bin_size s ≤ mp_unsigned_bin_size k.n :=
    bin_size_le (hs.lt.trans (lt_pow_bin_size k.n))
  refine SignatureGets.of_body (putstring (padded (mp_unsigned_bin_size k.n) s)) ?_
    (fun b => ⟨_, ?_, hputs b⟩) fun c hrest => ?_
  · rw [putstring, List.length_append, length_be32, length_padded hfits]
    omega
  · rw [putSignBlob, hkey]
    rfl
  · have hslot : key.pub.rsakey = some k.toRsaKey := congrArg (Option.map _) hkey
    dsimp only
    rw [hslot]
    exact buf_rsa_verify_of_rest hs hmax hrest

/-- **RSA signatures verify.** The key's exponents undo each other modulo the product of two different
primes, and its length is one that the reader of keys accepts. With a blinding value that has an inverse
modulo `n`, every message is signed, and the signature is accepted; with any other one the signer exits. -/
theorem rsa_signature_verifies (prim : Primitives) (DIGIT_BIT : Nat) (key : SignPrivKey)
    (k : RsaPrivKey) (p q r : Nat) (nonces : List Nat) (data : Bytes) (hkey : key.rsakey = some k)
    (hpair : RsaPair p q k) (hvalid : k.toRsaKey.Valid) :
    (Nat.Coprime r k.n →
      SignatureGets prim DIGIT_BIT key .RSA data (r :: nonces) DROPBEAR_SUCCESS) ∧
    (¬ Nat.Coprime r k.n → ∀ b, buf_put_sign prim DIGIT_BIT b key .RSA data (r :: nonces) =
      .error (.dropbear_exit "RSA error")) := by
  refine ⟨fun hcoprime => .rsa hkey hpair hvalid hcoprime, fun hcommon b => ?_⟩
  obtain ⟨hsize, hbound⟩ := hvalid.bin_size_n
  have hmax : mp_unsigned_bin_size k.n ≤ BUF_MAX_SIZE := hbound.trans (by decide)
  have hinv : mp_invmod r k.n = none := if_neg fun hcond => hcommon hcond.2
  obtain ⟨sigblob, hnew, -⟩ := buf_new_is (n := MAX_PUBKEY_SIZE) (by decide)
  have hpad : rsa_pad_em prim k.toRsaKey data = .ok _ := rsa_pad_em_eq hsize hmax
  rw [buf_put_sign, hnew, ok_bind, putSignBlob, hkey]
  show (some <$> buf_put_rsa_sign prim sigblob k data r) >>= _ = _
  rw [buf_put_rsa_sign, hpad, ok_bind, hinv]
  rfl

/-- The key with two primes and a public exponent. -/
def rsaKeyOf (p q e : Nat) : RsaPrivKey where
  e := e
  n := p * q
  d := (mp_invmod e (Nat.lcm (p - 1) (q - 1))).getD 0
  p := some p
  q := some q

theorem rsaKeyOf_pair {p q e : Nat} (hp : p.Prime) (hq : q.Prime) (hne : p ≠ q)
    (he : Nat.Coprime e (Nat.lcm (p - 1) (q - 1))) : RsaPair p q (rsaKeyOf p q e) where
  prime_p := hp
  prime_q := hq
  ne := hne
  n_eq := rfl
  undo := by
    have hlcm : Nat.lcm (p - 1) (q - 1) ≠ 0 :=
      Nat.lcm_ne_zero (Nat.sub_ne_zero_of_lt hp.one_lt) (Nat.sub_ne_zero_of_lt hq.one_lt)
    obtain ⟨d, hd⟩ := Modular.inverse_isSome hlcm he
    have hsecret : (rsaKeyOf p q e).d = d := congrArg (fun o => Option.getD o 0) hd
    rw [hsecret]
    exact (Modular.inverse_spec hd).1

/-- The product of two primes of Mersenne, with 1128 bits. -/
def mersenneKey : RsaPrivKey := rsaKeyOf (mersenne 521) (mersenne 607) 65537

theorem mersenneKey_pair : RsaPair (mersenne 521) (mersenne 607) mersenneKey :=
  rsaKeyOf_pair (lucas_lehmer_sufficiency _ (by norm_num) (by norm_num))
    (lucas_lehmer_sufficiency _ (by norm_num) (by norm_num)) (by decide +kernel) (by decide +kernel)

theorem mersenneKey_valid : mersenneKey.toRsaKey.Valid :=
  ⟨by decide +kernel, by decide +kernel, by decide +kernel⟩

/-- Hash functions that give zeros, and the group of the numbers modulo a curve's order, which have
themselves as their first coordinates. -/
def samplePrimitives : Primitives where
  sha1 := { hashsize := SHA1_HASH_SIZE, digest := fun _ => List.replicate SHA1_HASH_SIZE 0,
            length_digest := fun _ => List.length_replicate }
  sha1_hashsize := rfl
  curve_hash _ := { hashsize := 32, digest := fun _ => List.replicate 32 0,
                    length_digest := fun _ => List.length_replicate }
  ecc := { basemul := fun curve k => (k % curve.order, 1)
           ecc_ptmul := fun curve k point => (k * point.1 % curve.order, 1)
           ecc_mul2add := fun curve u1 u2 point => (u1 + u2 * point.1) % curve.order }

theorem rsa_signature_verifies_mersenne :
    SignatureGets samplePrimitives 28 { rsakey := some mersenneKey } .RSA [1, 2, 3] [2]
      DROPBEAR_SUCCESS ∧
    ∀ b, buf_put_sign samplePrimitives 28 b { rsakey := some mersenneKey } .RSA [1, 2, 3] [0] =
      .error (.dropbear_exit "RSA error") :=
  ⟨(rsa_signature_verifies samplePrimitives 28 { rsakey := some mersenneKey } mersenneKey _ _ 2 []
      [1, 2, 3] rfl mersenneKey_pair mersenneKey_valid).1 (by decide +kernel),
    (rsa_signature_verifies samplePrimitives 28 { rsakey := some mersenneKey } mersenneKey _ _ 0 []
      [1, 2, 3] rfl mersenneKey_pair mersenneKey_valid).2 (by decide +kernel)⟩

/-- **DSS signatures verify, unless a number is zero.** The signer draws once: it does not look at the two
numbers that it writes, and the verifier refuses zeros. -/
theorem dss_signature_verifies (prim : Primitives) (DIGIT_BIT : Nat) (key : SignPrivKey)
    (dsskey : DssPrivKey) (k : Nat) (nonces : List Nat) (data : Bytes)
    (hkey : key.dsskey = some dsskey) (hpair : DssPair dsskey) (hpos : 0 < k) (hlt : k < dsskey.q) :
    ∃ r s, dss_sign_params dsskey (ofBytes (prim.sha1.digest data)) k = .ok (r, s) ∧
      SignatureGets prim DIGIT_BIT key .DSS data (k :: nonces)
        (if r = 0 ∨ s = 0 then DROPBEAR_FAILURE else DROPBEAR_SUCCESS) := by
  obtain ⟨k_inv, hk_inv⟩ := Modular.inverse_isSome hpair.prime_q.ne_zero
    (coprime_of_lt_prime hpair.prime_q hpos.ne' hlt)
  have hinv : mp_invmod k dsskey.q = some k_inv := hk_inv
  obtain ⟨r, hr⟩ : ∃ r, r = mp_exptmod dsskey.g k dsskey.p % dsskey.q := ⟨_, rfl⟩
  obtain ⟨s, hs⟩ : ∃ s, s = DssPair.second dsskey (ofBytes (prim.sha1.digest data)) r k_inv := ⟨_, rfl⟩
  have hparams : dss_sign_params dsskey (ofBytes (prim.sha1.digest data)) k = .ok (r, s) := by
    rw [dss_sign_params, hinv, hs, hr]
    rfl
  have hrlt : r < dsskey.q := hr ▸ Nat.mod_lt _ hpair.prime_q.pos
  have hslt : s < dsskey.q := hs ▸ Nat.mod_lt _ hpair.prime_q.pos
  have hsize {n : Nat} (hn : n < dsskey.q) : mp_unsigned_bin_size n ≤ SHA1_HASH_SIZE := by
    refine bin_size_le (hn.trans ((lt_pow_bin_size dsskey.q).trans_le ?_))
    refine Nat.pow_le_pow_right (by decide) ?_
    have hbits := hpair.bits_q
    rw [mp_unsigned_bin_size]
    omega
  refine ⟨r, s, hparams, SignatureGets.of_body
    (putstring (padded SHA1_HASH_SIZE r ++ padded SHA1_HASH_SIZE s)) ?_
    (fun b => ⟨_, ?_, buf_put_dss_sign_puts hparams (hsize hrlt) (hsize hslt) b⟩) fun c hrest => ?_⟩
  · rw [putstring, List.length_append, length_be32, padded_pair (hsize hrlt) (hsize hslt)]
    decide
  · rw [putSignBlob, hkey]
    rfl
  · have hslot : key.pub.dsskey = some dsskey.toDssKey := congrArg (Option.map _) hkey
    dsimp only
    rw [hslot]
    dsimp only
    rw [buf_dss_verify_of_rest (hsize hrlt) (hsize hslt) hrest]
    by_cases hzero : r = 0 ∨ s = 0
    · rw [if_pos hzero, if_pos (by omega)]
    · rw [if_neg hzero, if_neg (by omega),
        if_pos (hpair.verify hinv hr hs fun hs0 => hzero (Or.inr hs0))]

/-- The squares modulo 23. -/
def smallDss : DssPrivKey where
  p := 23
  q := 11
  g := 2
  y := 8
  x := 3

theorem smallDss_pair : DssPair smallDss where
  prime_q := show Nat.Prime 11 by decide
  bits_q := by decide +kernel
  order := by decide +kernel
  y_eq := by decide +kernel

/-- The random number 3 gives the numbers 8 and 8, which verify. -/
theorem dss_signature_verifies_small :
    SignatureGets samplePrimitives 28 { dsskey := some smallDss } .DSS [1, 2, 3] [3]
      DROPBEAR_SUCCESS := by
  obtain ⟨r, s, hparams, hgets⟩ := dss_signature_verifies samplePrimitives 28 { dsskey := some smallDss }
    smallDss 3 [] [1, 2, 3] rfl smallDss_pair (by decide) (by decide)
  have hvalues : dss_sign_params smallDss (ofBytes (samplePrimitives.sha1.digest [1, 2, 3])) 3 =
      .ok (8, 8) := by decide +kernel
  rw [hvalues, Except.ok.injEq, Prod.mk.injEq] at hparams
  obtain ⟨rfl, rfl⟩ := hparams
  exact hgets

end SimpleSshd.Dropbear
