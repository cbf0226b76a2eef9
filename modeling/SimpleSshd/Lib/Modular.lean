import Mathlib.FieldTheory.Finite.Basic
import Mathlib.Data.Int.GCD
import Mathlib.Data.Nat.Prime.Basic
import Mathlib.GroupTheory.OrderOfElement

/-!
# Powers and inverses modulo a number

Exponentiation by squaring and the inverse by the extended Euclidean algorithm, as functions that run,
with what they compute. On them rest two kinds of signatures: those where two exponents undo each other
modulo a product of two primes, and those whose check is an equation between powers of one element.
-/

namespace Modular

variable {a b g m n p q x : Nat}

/-! ## Exponentiation -/

/-- The lowest `i` bits of the exponent `x` are still to be done, and `r` is the power so far. -/
def powLoop (g x p : Nat) : Nat → Nat → Nat
  | 0, r => r
  | i + 1, r =>
    let square := r * r % p
    powLoop g x p i (if x.testBit i then square * g % p else square)

def powMod (g x p : Nat) : Nat := powLoop g x p (Nat.log2 x + 1) (1 % p)

/-- One bit more of the exponent. -/
theorem div_two_pow (x i : Nat) :
    x / 2 ^ i = 2 * (x / 2 ^ (i + 1)) + (if x.testBit i then 1 else 0) := by
  have hbit := Nat.toNat_testBit x i
  have hdiv : x / 2 ^ (i + 1) = x / 2 ^ i / 2 := by rw [Nat.pow_succ, Nat.div_div_eq_div_mul]
  cases htest : x.testBit i with
  | false =>
    rw [htest, Bool.toNat_false] at hbit
    rw [hdiv, if_neg Bool.false_ne_true]
    omega
  | true =>
    rw [htest, Bool.toNat_true] at hbit
    rw [hdiv, if_pos rfl]
    omega

theorem powLoop_eq (g x p i : Nat) : powLoop g x p i (g ^ (x / 2 ^ i) % p) = g ^ x % p := by
  induction i with
  | zero => rw [powLoop, Nat.pow_zero, Nat.div_one]
  | succ i ih =>
    have hsquare : g ^ (x / 2 ^ (i + 1)) % p * (g ^ (x / 2 ^ (i + 1)) % p) % p =
        g ^ (2 * (x / 2 ^ (i + 1))) % p := by
      rw [← Nat.mul_mod, ← Nat.pow_add, Nat.two_mul]
    rw [powLoop, hsquare]
    refine Eq.trans (congrArg (powLoop g x p i) ?_) ih
    rw [div_two_pow x i]
    split_ifs
    · rw [Nat.mod_mul_mod, ← Nat.pow_succ]
    · rfl

/-- **Squaring and multiplying gives the power.** -/
theorem powMod_eq (g x p : Nat) : powMod g x p = g ^ x % p := by
  have htop : x / 2 ^ (Nat.log2 x + 1) = 0 := Nat.div_eq_of_lt Nat.lt_log2_self
  have hloop := powLoop_eq g x p (Nat.log2 x + 1)
  rw [htop, Nat.pow_zero] at hloop
  exact hloop

theorem powMod_lt (hp : 0 < p) : powMod g x p < p := by
  rw [powMod_eq]
  exact Nat.mod_lt _ hp

/-! ## Inverses -/

/-- The inverse of `a` modulo `m`, if there is one. -/
def inverse (a m : Nat) : Option Nat :=
  if m ≠ 0 ∧ Nat.gcd a m = 1 then some (Nat.gcdA a m % (m : Int)).toNat else none

theorem inverse_isSome (hm : m ≠ 0) (h : Nat.Coprime a m) : ∃ b, inverse a m = some b :=
  ⟨_, if_pos ⟨hm, h⟩⟩

theorem inverse_spec (h : inverse a m = some b) : a * b ≡ 1 [MOD m] ∧ b < m := by
  unfold inverse at h
  split_ifs at h with hcond
  obtain ⟨hm, hgcd⟩ := hcond
  obtain rfl := Option.some.inj h
  have hpos : (0 : Int) < m := by omega
  have hcast : (((Nat.gcdA a m % (m : Int)).toNat : Nat) : Int) = Nat.gcdA a m % (m : Int) :=
    Int.toNat_of_nonneg (Int.emod_nonneg _ (by omega))
  have hbezout := Nat.gcd_eq_gcd_ab a m
  rw [hgcd] at hbezout
  constructor
  · rw [← Int.natCast_modEq_iff, Nat.cast_mul, hcast]
    have hmod : (a : Int) * (Nat.gcdA a m % (m : Int)) ≡ a * Nat.gcdA a m [ZMOD m] :=
      (Int.mod_modEq _ _).mul_left _
    refine hmod.trans ?_
    rw [hbezout]
    exact (Int.modEq_iff_dvd.mpr ⟨Nat.gcdB a m, by ring⟩)
  · have hlt := Int.emod_lt_of_pos (Nat.gcdA a m) hpos
    omega

/-! ## Two exponents that undo each other -/

/-- Modulo a prime, an exponent that is 1 modulo the prime less one changes nothing. -/
theorem pow_modEq_self_of_prime (hp : p.Prime) (hx : x ≡ 1 [MOD p - 1]) (hpos : 0 < x) (m : Nat) :
    m ^ x ≡ m [MOD p] := by
  have : Fact p.Prime := ⟨hp⟩
  rw [← ZMod.natCast_eq_natCast_iff, Nat.cast_pow]
  by_cases hzero : (m : ZMod p) = 0
  · rw [hzero, zero_pow (Nat.pos_iff_ne_zero.mp hpos)]
  · have hone : (m : ZMod p) ^ (p - 1) = 1 := ZMod.pow_card_sub_one_eq_one hzero
    rw [pow_eq_pow_of_modEq hx hone, pow_one]

/-- **Undoing modulo a product of two primes**, for every number and not only for those without a
common divisor with the product. -/
theorem pow_modEq_self (hp : p.Prime) (hq : q.Prime) (hne : p ≠ q)
    (hx : x ≡ 1 [MOD Nat.lcm (p - 1) (q - 1)]) (hpos : 0 < x) (m : Nat) :
    m ^ x ≡ m [MOD p * q] := by
  have hcoprime : Nat.Coprime p q := (Nat.coprime_primes hp hq).mpr hne
  refine (Nat.modEq_and_modEq_iff_modEq_mul hcoprime).mp ⟨?_, ?_⟩
  · exact pow_modEq_self_of_prime hp (hx.of_dvd (Nat.dvd_lcm_left _ _)) hpos m
  · exact pow_modEq_self_of_prime hq (hx.of_dvd (Nat.dvd_lcm_right _ _)) hpos m

/-- The number `em` is multiplied by a power of `r` before the secret exponent is applied, and by the
inverse of `r` after it: the public exponent gives `em` all the same. -/
theorem unblind {em e d r r' : Nat} (hundo : ∀ m, m ^ (e * d) ≡ m [MOD n])
    (hr : r * r' ≡ 1 [MOD n]) : ((em * r ^ e) ^ d * r') ^ e ≡ em [MOD n] := by
  have hs : (em * r ^ e) ^ d * r' ≡ em ^ d [MOD n] := by
    calc (em * r ^ e) ^ d * r' = em ^ d * (r ^ (e * d) * r') := by
          rw [Nat.mul_pow, ← Nat.pow_mul, Nat.mul_assoc]
      _ ≡ em ^ d * (r * r') [MOD n] := ((hundo r).mul_right r').mul_left _
      _ ≡ em ^ d * 1 [MOD n] := hr.mul_left _
      _ = em ^ d := Nat.mul_one _
  calc ((em * r ^ e) ^ d * r') ^ e ≡ (em ^ d) ^ e [MOD n] := hs.pow e
    _ = em ^ (e * d) := by rw [← Nat.pow_mul, Nat.mul_comm]
    _ ≡ em [MOD n] := hundo em

/-! ## An equation between powers -/

/-- With `s` such that `k * s` is `h + x * r` modulo the order, and `w` its inverse, the powers with
exponents `h * w` and `r * w` of the base and of the public element give the base to the `k`. -/
theorem pow_mul_pow_eq {M : Type*} [Monoid M] {base : M} {h k r s w : Nat} (hbase : base ^ q = 1)
    (hs : k * s ≡ h + x * r [MOD q]) (hw : s * w ≡ 1 [MOD q]) :
    base ^ (h * w % q) * (base ^ x) ^ (r * w % q) = base ^ k := by
  rw [← pow_mul, ← pow_add]
  refine pow_eq_pow_of_modEq ?_ hbase
  calc h * w % q + x * (r * w % q) ≡ h * w + x * (r * w) [MOD q] :=
        (Nat.mod_modEq _ _).add ((Nat.mod_modEq _ _).mul_left x)
    _ = (h + x * r) * w := by ring
    _ ≡ k * s * w [MOD q] := hs.symm.mul_right w
    _ = k * (s * w) := Nat.mul_assoc _ _ _
    _ ≡ k * 1 [MOD q] := hw.mul_left k
    _ = k := Nat.mul_one k

/-- The same with numbers: the element is public as its remainder. -/
theorem pow_mul_pow_modEq {h k r s w : Nat} (hg : g ^ q ≡ 1 [MOD p])
    (hs : k * s ≡ h + x * r [MOD q]) (hw : s * w ≡ 1 [MOD q]) :
    g ^ (h * w % q) * (g ^ x % p) ^ (r * w % q) ≡ g ^ k [MOD p] := by
  have hbase : (g : ZMod p) ^ q = 1 := by
    rw [← Nat.cast_pow, ← Nat.cast_one, ZMod.natCast_eq_natCast_iff]
    exact hg
  refine (Nat.ModEq.mul_left _ ((Nat.mod_modEq _ _).pow _)).trans ?_
  rw [← ZMod.natCast_eq_natCast_iff, Nat.cast_mul, Nat.cast_pow, Nat.cast_pow, Nat.cast_pow, Nat.cast_pow]
  exact pow_mul_pow_eq hbase hs hw

end Modular
