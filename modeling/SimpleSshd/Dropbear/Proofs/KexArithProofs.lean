import SimpleSshd.Dropbear.KexArith
import SimpleSshd.Dropbear.Proofs.SignProofs

/-!
# Proofs: both sides compute the same secret

For each of the three kinds of key exchange: what one side draws and sends is accepted by the other, and
the two arrive at the same number. The keys that are hashed from it are a prefix of the stream of
RFC 4253, section 7.2.
-/

namespace SimpleSshd.Dropbear

open Fallible Framing

variable {prims : KexPrimitives} {kex : Kex} {p x y : Nat}

/-! ## Diffie-Hellman -/

/-- The numbers modulo a safe prime, in which the generator has the large prime as its order. -/
structure SafeGroup (p : Nat) : Prop where
  prime : p.Prime
  prime_q : ((p - 1) / 2).Prime
  two_lt_q : 2 < (p - 1) / 2
  order : DH_G_VAL ^ ((p - 1) / 2) ≡ 1 [MOD p]
  bits_p : mp_count_bits p ≤ 4096

namespace SafeGroup

theorem pow_q (h : SafeGroup p) : (DH_G_VAL : ZMod p) ^ ((p - 1) / 2) = 1 := by
  have hcast := (ZMod.natCast_eq_natCast_iff _ _ p).mpr h.order
  rwa [Nat.cast_pow, Nat.cast_one] at hcast

/-- The powers with exponents that the order does not divide are neither 1 nor -1. -/
theorem pow_ne (h : SafeGroup p) (hpos : 0 < x) (hlt : x < (p - 1) / 2) :
    (DH_G_VAL : ZMod p) ^ x ≠ 1 ∧ (DH_G_VAL : ZMod p) ^ x ≠ -1 := by
  have hp : Fact p.Prime := ⟨h.prime⟩
  have hq : Fact ((p - 1) / 2).Prime := ⟨h.prime_q⟩
  have hgen : (DH_G_VAL : ZMod p) ≠ 1 := by
    intro hone
    have hzero : ((1 : Nat) : ZMod p) = 0 := by
      rw [Nat.cast_one, ← sub_eq_zero.mpr hone, DH_G_VAL]
      norm_num
    have hdvd := (ZMod.natCast_eq_zero_iff 1 p).mp hzero
    exact h.prime.one_lt.ne' (Nat.dvd_one.mp hdvd)
  have horder : orderOf (DH_G_VAL : ZMod p) = (p - 1) / 2 := orderOf_eq_prime h.pow_q hgen
  have hnot : ¬ (p - 1) / 2 ∣ x := Nat.not_dvd_of_pos_of_lt hpos hlt
  constructor
  · intro hone
    exact hnot (horder ▸ orderOf_dvd_of_pow_eq_one hone)
  · intro hneg
    -- then the square is 1, and the order is odd
    have hsquare : (DH_G_VAL : ZMod p) ^ (2 * x) = 1 := by rw [Nat.mul_comm, pow_mul, hneg, neg_one_sq]
    have hdvd : (p - 1) / 2 ∣ 2 * x := horder ▸ orderOf_dvd_of_pow_eq_one hsquare
    rcases h.prime_q.dvd_mul.mp hdvd with htwo | hx
    · exact absurd (Nat.le_of_dvd (by decide) htwo) (Nat.not_le.mpr h.two_lt_q)
    · exact hnot hx

/-- **Honest values pass the range check.** -/
theorem range (h : SafeGroup p) (hpos : 0 < x) (hlt : x < (p - 1) / 2) :
    mp_exptmod DH_G_VAL x p < p - 1 ∧ mp_exptmod DH_G_VAL x p > 1 := by
  have hp : Fact p.Prime := ⟨h.prime⟩
  obtain ⟨hne_one, hne_neg⟩ := h.pow_ne hpos hlt
  have hmod : mp_exptmod DH_G_VAL x p < p := Modular.powMod_lt h.prime.pos
  have hcast : ((mp_exptmod DH_G_VAL x p : Nat) : ZMod p) = (DH_G_VAL : ZMod p) ^ x := by
    rw [mp_exptmod, Modular.powMod_eq, ZMod.natCast_mod, Nat.cast_pow]
  have hzero : mp_exptmod DH_G_VAL x p ≠ 0 := by
    intro hzero
    rw [hzero, Nat.cast_zero] at hcast
    have hbase : (DH_G_VAL : ZMod p) = 0 := (pow_eq_zero_iff hpos.ne').mp hcast.symm
    have hone := h.pow_q
    rw [hbase, zero_pow (by have := h.two_lt_q; omega)] at hone
    exact zero_ne_one hone
  have hone : mp_exptmod DH_G_VAL x p ≠ 1 := by
    intro hone
    rw [hone, Nat.cast_one] at hcast
    exact hne_one hcast.symm
  have hneg : mp_exptmod DH_G_VAL x p ≠ p - 1 := by
    intro hneg
    rw [hneg, Nat.cast_sub h.prime.pos, ZMod.natCast_self, Nat.cast_one, zero_sub] at hcast
    exact hne_neg hcast.symm
  omega

theorem comm (p x y : Nat) :
    mp_exptmod (mp_exptmod DH_G_VAL x p) y p = mp_exptmod (mp_exptmod DH_G_VAL y p) x p := by
  simp only [mp_exptmod, Modular.powMod_eq]
  rw [← Nat.pow_mod, ← Nat.pow_mod, ← Nat.pow_mul, ← Nat.pow_mul, Nat.mul_comm]

end SafeGroup

/-! ## Any kind of exchange -/

/-- The other side's reader takes the value, and it is of the kind that is expected. -/
def KexValue.Readable (mode : KexMode) : KexValue → Prop
  | .dh n => mode = .NORMAL_DH ∧ mp_count_bits n ≤ 4096
  | .ecdh q => mode ≠ .NORMAL_DH ∧ q.length ≤ 133

/-- Two sides that draw from such random bytes take each other's values, and agree on the secret. -/
structure KexAgrees (prims : KexPrimitives) (kex : Kex) (r r' : Bytes) (v v' : KexValue) (K : Nat) :
    Prop where
  value : (gen_kex_param prims kex r).value = .ok v
  value' : (gen_kex_param prims kex r').value = .ok v'
  comb : (gen_kex_param prims kex r).comb_key prims kex v' = .ok K
  comb' : (gen_kex_param prims kex r').comb_key prims kex v = .ok K
  readable : v.Readable kex.mode
  readable' : v'.Readable kex.mode
  bits_K : mp_count_bits K ≤ 4096

theorem count_bits_le_of_lt {n m : Nat} (h : n < m) : mp_count_bits n ≤ mp_count_bits m :=
  count_bits_le (h.trans (lt_two_pow_count_bits m))

theorem SafeGroup.gen_range (h : SafeGroup (prims.dh_p kex)) (r : Bytes) :
    (gen_kexdh_param prims kex r).pub < prims.dh_p kex - 1 ∧ (gen_kexdh_param prims kex r).pub > 1 := by
  obtain ⟨hpos, hlt⟩ := prims.gen_random_mpint_range _ r h.prime_q.one_lt
  exact h.range hpos hlt

theorem SafeGroup.comb_key (h : SafeGroup (prims.dh_p kex)) (r r' : Bytes) :
    kexdh_comb_key prims kex (gen_kexdh_param prims kex r) (gen_kexdh_param prims kex r').pub =
      .ok (mp_exptmod (gen_kexdh_param prims kex r').pub (gen_kexdh_param prims kex r).priv
        (prims.dh_p kex)) := by
  obtain ⟨hhigh, hlow⟩ := h.gen_range r'
  exact if_neg (by rw [not_or, not_not, not_not]; exact ⟨hhigh, hlow⟩)

/-- **Diffie-Hellman**, with any random bytes. -/
theorem kexdh_agrees (hmode : kex.mode = .NORMAL_DH) (h : SafeGroup (prims.dh_p kex)) (r r' : Bytes) :
    ∃ v v' K, KexAgrees prims kex r r' v v' K := by
  have hgen (r : Bytes) : gen_kex_param prims kex r = .dh (gen_kexdh_param prims kex r) := by
    rw [gen_kex_param, hmode]
  have hbits {n : Nat} (hn : n < prims.dh_p kex) : mp_count_bits n ≤ 4096 :=
    (count_bits_le_of_lt hn).trans h.bits_p
  have hpub (r : Bytes) : mp_count_bits (gen_kexdh_param prims kex r).pub ≤ 4096 :=
    hbits ((h.gen_range r).1.trans_le (Nat.sub_le _ _))
  have hcomb' := h.comb_key r' r
  have hsecret := SafeGroup.comm (prims.dh_p kex) (gen_kexdh_param prims kex r).priv
    (gen_kexdh_param prims kex r').priv
  refine ⟨.dh (gen_kexdh_param prims kex r).pub, .dh (gen_kexdh_param prims kex r').pub,
    mp_exptmod (gen_kexdh_param prims kex r').pub (gen_kexdh_param prims kex r).priv (prims.dh_p kex),
    by rw [hgen]; rfl, by rw [hgen]; rfl, by rw [hgen]; exact h.comb_key r r', ?_,
    ⟨hmode, hpub r⟩, ⟨hmode, hpub r'⟩, hbits (Modular.powMod_lt h.prime.pos)⟩
  rw [hgen]
  exact hcomb'.trans (congrArg Except.ok hsecret)

/-- The points of a curve are a group, the functions of `libtomcrypt` compute in it, and the order of the
base point is a prime. Nothing is asked of the coordinates of the zero of the group. -/
structure EcdhGroup (ecc : EccOps) (curve : Curve) (G : Type) [AddCommGroup G] where
  base : G
  coords : G → Nat × Nat
  order_prime : curve.order.Prime
  base_ne_zero : base ≠ 0
  order_nsmul : curve.order • base = 0
  basemul_eq : ∀ k, k • base ≠ 0 → ecc.basemul curve k = coords (k • base)
  ptmul_eq : ∀ k Q, Q ≠ 0 → k • Q ≠ 0 → ecc.ecc_ptmul curve k (coords Q) = coords (k • Q)
  coords_lt : ∀ Q, (coords Q).1 < 256 ^ curve.size

theorem EcdhGroup.nsmul_ne_zero {G : Type} [AddCommGroup G] {ecc : EccOps} {curve : Curve}
    (grp : EcdhGroup ecc curve G) {k : Nat} (hk : ¬ curve.order ∣ k) : k • grp.base ≠ 0 := by
  intro hzero
  have : Fact curve.order.Prime := ⟨grp.order_prime⟩
  have horder : addOrderOf grp.base = curve.order := addOrderOf_eq_prime grp.order_nsmul grp.base_ne_zero
  rw [← horder] at hk
  exact hk (addOrderOf_dvd_of_nsmul_eq_zero hzero)

/-- What is drawn from the random bytes is a point that the other side accepts. -/
structure GoodPoint (prims : KexPrimitives) (kex : Kex) (r : Bytes) : Prop where
  secret : ¬ (prims.ecc_curve kex).order ∣ (gen_kexecdh_param prims kex r).k
  valid : (gen_kexecdh_param prims kex r).toEccKey.Valid

section

variable {G : Type} [AddCommGroup G]

theorem curve_size_le {curve : Curve} (h : curve ∈ dropbear_ecc_curves) : curve.size ≤ 66 := by
  simp only [dropbear_ecc_curves, List.mem_cons, List.not_mem_nil, or_false] at h
  rcases h with rfl | rfl | rfl <;> decide

theorem kexecdh_comb_key_point (grp : EcdhGroup prims.ecc (prims.ecc_curve kex) G) {r r' : Bytes}
    (h : GoodPoint prims kex r) (h' : GoodPoint prims kex r') :
    kexecdh_comb_key prims kex (gen_kexecdh_param prims kex r)
        (gen_kexecdh_param prims kex r').toEccKey.point =
      .ok (grp.coords (((gen_kexecdh_param prims kex r).k * (gen_kexecdh_param prims kex r').k) •
        grp.base)).1 := by
  have hcurve : (gen_kexecdh_param prims kex r).curve = prims.ecc_curve kex := rfl
  have hcurve' : (gen_kexecdh_param prims kex r').curve = prims.ecc_curve kex := rfl
  have hcoords : ((gen_kexecdh_param prims kex r').x, (gen_kexecdh_param prims kex r').y) =
      grp.coords ((gen_kexecdh_param prims kex r').k • grp.base) :=
    grp.basemul_eq _ (grp.nsmul_ne_zero h'.secret)
  obtain ⟨hsecret, -⟩ := h
  obtain ⟨hsecret', hvalid'⟩ := h'
  generalize gen_kexecdh_param prims kex r = key at *
  generalize gen_kexecdh_param prims kex r' = key' at *
  have hprod : key.k • key'.k • grp.base = (key.k * key'.k) • grp.base := smul_smul _ _ _
  have hne : (key.k * key'.k) • grp.base ≠ 0 := by
    refine grp.nsmul_ne_zero fun hdvd => ?_
    rcases grp.order_prime.dvd_mul.mp hdvd with hleft | hright
    · exact hsecret hleft
    · exact hsecret' hright
  have hlen : key'.toEccKey.point.length ≤ 133 := by
    rw [hvalid'.length_point]
    have hsize := curve_size_le hvalid'.curve_mem
    omega
  obtain ⟨b, hb⟩ : ∃ b, Buffer.holding key'.toEccKey.point = .ok b :=
    ⟨_, dif_neg (Nat.not_lt.mpr (hlen.trans (by decide)))⟩
  have hget := buf_get_ecc_raw_pubkey_point hvalid' hb
  rw [hcurve'] at hget
  rw [kexecdh_comb_key, hb, ok_bind, hget, ok_bind]
  dsimp only
  rw [hcoords, hcurve, grp.ptmul_eq _ _ (grp.nsmul_ne_zero hsecret') (hprod ▸ hne), hprod]
  rfl

/-- **ECDH**, with random bytes that give points the other side accepts. -/
theorem kexecdh_agrees (hmode : kex.mode = .ECDH) (grp : EcdhGroup prims.ecc (prims.ecc_curve kex) G)
    {r r' : Bytes} (h : GoodPoint prims kex r) (h' : GoodPoint prims kex r') :
    ∃ v v' K, KexAgrees prims kex r r' v v' K := by
  have hcomb := kexecdh_comb_key_point grp h h'
  have hcomb' := kexecdh_comb_key_point grp h' h
  rw [Nat.mul_comm] at hcomb'
  have hlen {r : Bytes} (h : GoodPoint prims kex r) :
      (gen_kexecdh_param prims kex r).toEccKey.point.length ≤ 133 := by
    rw [h.valid.length_point]
    have hsize := curve_size_le h.valid.curve_mem
    omega
  have hvalue {r : Bytes} (h : GoodPoint prims kex r) :
      (KexParam.ecdh (gen_kexecdh_param prims kex r)).value =
        .ok (.ecdh (gen_kexecdh_param prims kex r).toEccKey.point) := by
    rw [KexParam.value, h.valid.export_eq]
    rfl
  have hgen (r : Bytes) : gen_kex_param prims kex r = .ecdh (gen_kexecdh_param prims kex r) := by
    rw [gen_kex_param, hmode]
  have hreadable {r : Bytes} (h : GoodPoint prims kex r) :
      (KexValue.ecdh (gen_kexecdh_param prims kex r).toEccKey.point).Readable kex.mode :=
    ⟨by rw [hmode]; decide, hlen h⟩
  refine ⟨.ecdh (gen_kexecdh_param prims kex r).toEccKey.point,
    .ecdh (gen_kexecdh_param prims kex r').toEccKey.point,
    (grp.coords (((gen_kexecdh_param prims kex r).k * (gen_kexecdh_param prims kex r').k) • grp.base)).1,
    by rw [hgen]; exact hvalue h, by rw [hgen]; exact hvalue h', by rw [hgen]; exact hcomb,
    by rw [hgen]; exact hcomb', hreadable h, hreadable h', ?_⟩
  have hsize : (prims.ecc_curve kex).size ≤ 66 := curve_size_le h.valid.curve_mem
  have hlt := grp.coords_lt (((gen_kexecdh_param prims kex r).k * (gen_kexecdh_param prims kex r').k) •
    grp.base)
  have hbits : mp_count_bits (grp.coords (((gen_kexecdh_param prims kex r).k *
      (gen_kexecdh_param prims kex r').k) • grp.base)).1 ≤ 8 * (prims.ecc_curve kex).size := by
    refine count_bits_le ?_
    rwa [Nat.pow_mul]
  omega

end

/-- What is assumed of the arithmetic on curve25519, for the secrets at hand. -/
structure Curve25519Agrees (prims : KexPrimitives) (r r' : Bytes) : Prop where
  length : (gen_kexcurve25519_param prims r).pub.length = CURVE25519_LEN
  length' : (gen_kexcurve25519_param prims r').pub.length = CURVE25519_LEN
  comm :
    prims.curve25519_donna (gen_kexcurve25519_param prims r).priv (gen_kexcurve25519_param prims r').pub =
    prims.curve25519_donna (gen_kexcurve25519_param prims r').priv (gen_kexcurve25519_param prims r).pub
  length_out : (prims.curve25519_donna (gen_kexcurve25519_param prims r).priv
    (gen_kexcurve25519_param prims r').pub).length = CURVE25519_LEN
  ne_zero : prims.curve25519_donna (gen_kexcurve25519_param prims r).priv
    (gen_kexcurve25519_param prims r').pub ≠ List.replicate CURVE25519_LEN 0

theorem kexcurve25519_agrees (hmode : kex.mode = .CURVE25519) {r r' : Bytes}
    (h : Curve25519Agrees prims r r') : ∃ v v' K, KexAgrees prims kex r r' v v' K := by
  have hgen (r : Bytes) : gen_kex_param prims kex r = .curve25519 (gen_kexcurve25519_param prims r) := by
    rw [gen_kex_param, hmode]
  have hcomb : kexcurve25519_comb_key prims (gen_kexcurve25519_param prims r)
      (gen_kexcurve25519_param prims r').pub = .ok (ofBytes (prims.curve25519_donna
        (gen_kexcurve25519_param prims r).priv (gen_kexcurve25519_param prims r').pub)) := by
    rw [kexcurve25519_comb_key, if_neg (not_not_intro h.length')]
    exact if_neg h.ne_zero
  have hcomb' : kexcurve25519_comb_key prims (gen_kexcurve25519_param prims r')
      (gen_kexcurve25519_param prims r).pub = .ok (ofBytes (prims.curve25519_donna
        (gen_kexcurve25519_param prims r).priv (gen_kexcurve25519_param prims r').pub)) := by
    rw [kexcurve25519_comb_key, if_neg (not_not_intro h.length)]
    dsimp only
    rw [← h.comm]
    exact if_neg h.ne_zero
  refine ⟨.ecdh (gen_kexcurve25519_param prims r).pub, .ecdh (gen_kexcurve25519_param prims r').pub, _,
    by rw [hgen]; rfl, by rw [hgen]; rfl, by rw [hgen]; exact hcomb, by rw [hgen]; exact hcomb',
    ⟨by rw [hmode]; decide, ?_⟩, ⟨by rw [hmode]; decide, ?_⟩, ?_⟩
  · rw [h.length]
    decide
  · rw [h.length']
    decide
  · have hlt := ofBytes_lt (prims.curve25519_donna (gen_kexcurve25519_param prims r).priv
      (gen_kexcurve25519_param prims r').pub)
    rw [h.length_out] at hlt
    have hbits : mp_count_bits (ofBytes (prims.curve25519_donna (gen_kexcurve25519_param prims r).priv
        (gen_kexcurve25519_param prims r').pub)) ≤ 8 * CURVE25519_LEN := by
      refine count_bits_le ?_
      rwa [Nat.pow_mul]
    exact hbits.trans (by decide)

/-! ## The exchange of the values -/

/-- What is assumed of the arithmetic, for the random bytes at hand. -/
inductive KexSound (prims : KexPrimitives) (kex : Kex) (r r' : Bytes) : Prop
  | dh (hmode : kex.mode = .NORMAL_DH) (h : SafeGroup (prims.dh_p kex))
  | ecdh {G : Type} [AddCommGroup G] (hmode : kex.mode = .ECDH)
      (grp : EcdhGroup prims.ecc (prims.ecc_curve kex) G) (h : GoodPoint prims kex r)
      (h' : GoodPoint prims kex r')
  | curve25519 (hmode : kex.mode = .CURVE25519) (h : Curve25519Agrees prims r r')

theorem KexSound.agrees {r r' : Bytes} (h : KexSound prims kex r r') :
    ∃ v v' K, KexAgrees prims kex r r' v v' K := by
  cases h with
  | dh hmode h => exact kexdh_agrees hmode h r r'
  | ecdh hmode grp h h' => exact kexecdh_agrees hmode grp h h'
  | curve25519 hmode h => exact kexcurve25519_agrees hmode h

section

variable {mode : KexMode} {v : KexValue} {b : Buffer} {more : Bytes}

theorem readReplyValue_of_rest (h : v.Readable mode) (hrest : b.rest = putKexValue v ++ more) :
    ∃ b', readReplyValue mode b = .ok (v, b') ∧ b'.rest = more := by
  cases v with
  | dh n =>
    obtain ⟨rfl, hbits⟩ := h
    obtain ⟨b', hget, hmore⟩ := buf_getmpint_of_rest (hbits.trans (by decide)) hrest
    refine ⟨b', ?_, hmore⟩
    rw [readReplyValue, hget, ok_bind]
    rfl
  | ecdh q =>
    obtain ⟨hmode, hlen⟩ := h
    obtain ⟨ret, b', hget, rfl, hmore⟩ := buf_getstringbuf_of_rest (hlen.trans (by decide)) hrest
    refine ⟨b', ?_, hmore⟩
    cases mode with
    | NORMAL_DH => exact absurd rfl hmode
    | ECDH | CURVE25519 =>
      rw [readReplyValue, hget, ok_bind]
      rfl

/-- The server takes nothing behind the value. -/
theorem readKexValue_of_rest (h : v.Readable mode) (hrest : b.rest = putKexValue v) :
    readKexValue mode b = .ok v := by
  rw [← List.append_nil (putKexValue v)] at hrest
  cases v with
  | dh n =>
    obtain ⟨rfl, hbits⟩ := h
    obtain ⟨b', hget, hend⟩ := buf_getmpint_of_rest (hbits.trans (by decide)) hrest
    rw [readKexValue, hget, ok_bind]
    exact if_neg (not_not_intro (pos_eq_len_of_rest_nil hend))
  | ecdh q =>
    obtain ⟨hmode, hlen⟩ := h
    obtain ⟨ret, b', hget, rfl, hend⟩ := buf_getstringbuf_of_rest (hlen.trans (by decide)) hrest
    cases mode with
    | NORMAL_DH => exact absurd rfl hmode
    | ECDH | CURVE25519 =>
      rw [readKexValue, hget, ok_bind]
      exact if_neg (not_not_intro (pos_eq_len_of_rest_nil hend))

end

theorem KexAgrees.svr_comb_key {r r' : Bytes} {v v' : KexValue} {K : Nat}
    (h : KexAgrees prims kex r r' v v' K) : comb_key prims kex v r' = .ok (v', K) := by
  rw [comb_key, h.comb', ok_bind, h.value']
  rfl

def kex_dh_group14_sha1 : Kex := { name := ascii "diffie-hellman-group14-sha1", mode := .NORMAL_DH }

/-- Hash functions that give zeros, and the numbers modulo 23. -/
def smallKexPrimitives : KexPrimitives :=
  { samplePrimitives with
    hash_desc := fun _ => samplePrimitives.sha1
    dh_p := fun _ => 23
    ecc_curve := fun _ => ecc_curve_nistp256
    gen_random_mpint := fun max random => ofBytes random % (max - 1) + 1
    gen_random_mpint_range := by
      intro max random hmax
      have hlt := Nat.mod_lt (ofBytes random) (Nat.sub_pos_of_lt hmax)
      omega
    curve25519_donna := fun _ _ => List.replicate CURVE25519_LEN 1 }

theorem safeGroup_23 : SafeGroup 23 := ⟨by norm_num, by norm_num, by norm_num, by decide, by decide +kernel⟩

/-- The first blocks of the stream of RFC 4253, section 7.2: each block is the hash of what was shared and of
all blocks before it. -/
def keyStream (desc : HashDesc) (hs K1 : Bytes) : Nat → Bytes
  | 0 => K1
  | n + 1 => keyStream desc hs K1 n ++ desc.digest (hs ++ keyStream desc hs K1 n)

section

variable {desc : HashDesc} {hs K1 : Bytes}

theorem length_keyStream (hK1 : K1.length = desc.hashsize) (n : Nat) :
    (keyStream desc hs K1 n).length = (n + 1) * desc.hashsize := by
  induction n with
  | zero => rw [keyStream, hK1, Nat.zero_add, Nat.one_mul]
  | succ n ih => rw [keyStream, List.length_append, ih, desc.length_digest, Nat.succ_mul (n + 1)]

/-- More blocks do not change the ones before them. -/
theorem keyStream_prefix (desc : HashDesc) (hs K1 : Bytes) (n m : Nat) :
    keyStream desc hs K1 n <+: keyStream desc hs K1 (n + m) := by
  induction m with
  | zero => exact List.prefix_rfl
  | succ m ih => exact ih.trans (List.prefix_append _ _)

theorem take_keyStream (hK1 : K1.length = desc.hashsize) {n m outlen : Nat}
    (hn : outlen ≤ (n + 1) * desc.hashsize) :
    (keyStream desc hs K1 (n + m)).take outlen = (keyStream desc hs K1 n).take outlen := by
  obtain ⟨rest, hrest⟩ := keyStream_prefix desc hs K1 n m
  rw [← hrest, List.take_append_of_le_length (by rwa [length_keyStream hK1])]

/-- The loop, from where it has the blocks up to the `j`-th. -/
theorem extendKey_eq (hK1 : K1.length = desc.hashsize) (hpos : 0 < desc.hashsize) {outlen j k : Nat}
    (hk : outlen ≤ (j + k + 1) * desc.hashsize) :
    extendKey desc hs outlen ((j + 1) * desc.hashsize) ((keyStream desc hs K1 j).take outlen) =
      (keyStream desc hs K1 (j + k)).take outlen := by
  induction k generalizing j with
  | zero =>
    unfold extendKey
    exact if_neg fun hmore => absurd hmore.1 (Nat.not_lt.mpr hk)
  | succ k ih =>
    have hlen : (keyStream desc hs K1 j).length = (j + 1) * desc.hashsize := length_keyStream hK1 j
    unfold extendKey
    by_cases hmore : (j + 1) * desc.hashsize < outlen
    · -- all of the blocks so far are in the key
      have hall : (keyStream desc hs K1 j).take outlen = keyStream desc hs K1 j :=
        List.take_of_length_le (by omega)
      have hnext : keyStream desc hs K1 j ++
          (desc.digest (hs ++ keyStream desc hs K1 j)).take (outlen - (j + 1) * desc.hashsize) =
            (keyStream desc hs K1 (j + 1)).take outlen := by
        rw [keyStream, List.take_append, hlen, hall]
      rw [if_pos ⟨hmore, hpos⟩]
      dsimp only
      rw [hall, List.take_of_length_le (Nat.le_of_eq hlen), hnext, ← Nat.succ_mul,
        show j + (k + 1) = j + 1 + k from by omega]
      refine ih ?_
      rwa [show j + 1 + k + 1 = j + (k + 1) + 1 from by omega]
    · rw [if_neg fun hand => hmore hand.1]
      exact (take_keyStream hK1 (Nat.not_lt.mp hmore)).symm

end

/-- **The derived keys.** A key of any length is a prefix of the stream that starts with the hash of the
letter and the session id, however long the hash is. -/
theorem hashkeys_prefix_of_stream (desc : HashDesc) (hs session_id : Bytes) (X : UInt8) (outlen n : Nat)
    (hpos : 0 < desc.hashsize) (hn : outlen ≤ (n + 1) * desc.hashsize) :
    (hashkeys desc hs session_id outlen X).length = outlen ∧
      hashkeys desc hs session_id outlen X <+:
        keyStream desc hs (desc.digest (hs ++ X :: session_id)) n := by
  have hK1 := desc.length_digest (hs ++ X :: session_id)
  have heq : hashkeys desc hs session_id outlen X =
      (keyStream desc hs (desc.digest (hs ++ X :: session_id)) n).take outlen := by
    have hloop : extendKey desc hs outlen ((0 + 1) * desc.hashsize) _ = _ :=
      extendKey_eq hK1 hpos (k := n) (by rwa [Nat.zero_add])
    rw [Nat.zero_add, Nat.one_mul, Nat.zero_add] at hloop
    exact hloop
  rw [heq]
  refine ⟨?_, List.take_prefix _ _⟩
  rw [List.length_take, length_keyStream hK1]
  omega

theorem hashkeys_prefix_of_stream_sha1 :
    (hashkeys samplePrimitives.sha1 [1] [2] 64 65).length = 64 ∧
      hashkeys samplePrimitives.sha1 [1] [2] 64 65 <+:
        keyStream samplePrimitives.sha1 [1] (samplePrimitives.sha1.digest [1, 65, 2]) 3 :=
  hashkeys_prefix_of_stream samplePrimitives.sha1 [1] [2] 65 64 3 (by decide) (by decide)

end SimpleSshd.Dropbear
