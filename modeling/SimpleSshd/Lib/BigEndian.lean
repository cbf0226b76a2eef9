import SimpleSshd.Lib.Framing
import Mathlib.Tactic.Ring

/-!
# Big-endian numbers in as few bytes as possible

A number is written with the most significant byte first. Where the first bit is the sign, the form of a
number that is not negative begins with a clear bit. Its canonical form is the shortest such form; that
of zero is the empty string.
-/

namespace BigEndian

open Framing

variable {n m : Nat} {s : Bytes}

theorem foldl_eq (bs : Bytes) (acc : Nat) :
    bs.foldl (fun acc b => 256 * acc + b.toNat) acc = acc * 256 ^ bs.length + ofBytes bs := by
  induction bs generalizing acc with
  | nil => simp [ofBytes]
  | cons b bs ih =>
    rw [ofBytes, List.foldl_cons, List.foldl_cons, ih, ih (256 * 0 + b.toNat), List.length_cons]
    ring

theorem ofBytes_cons (c : UInt8) (s : Bytes) :
    ofBytes (c :: s) = c.toNat * 256 ^ s.length + ofBytes s := by
  rw [ofBytes, List.foldl_cons, foldl_eq, Nat.mul_zero, Nat.zero_add]

/-- The lowest `k` bytes of a number. -/
theorem ofBytes_lowest (k n : Nat) :
    ofBytes ((List.range k).reverse.map fun i => UInt8.ofNat (n / 256 ^ i)) = n % 256 ^ k := by
  induction k with
  | zero => rw [Nat.pow_zero, Nat.mod_one]; rfl
  | succ k ih =>
    rw [List.range_succ, List.reverse_append, List.reverse_singleton, List.singleton_append,
      List.map_cons, ofBytes_cons, ih, List.length_map, List.length_reverse, List.length_range,
      UInt8.toNat_ofNat', Nat.mod_pow_succ (b := 256) (k := k), Nat.add_comm, Nat.mul_comm]

/-- Leading zeroes do not count. -/
theorem ofBytes_replicate_append (k : Nat) (s : Bytes) :
    ofBytes (List.replicate k 0 ++ s) = ofBytes s := by
  induction k with
  | zero => rfl
  | succ k ih =>
    rw [List.replicate_succ, List.cons_append, ofBytes_cons, ih, UInt8.toNat_zero, Nat.zero_mul,
      Nat.zero_add]

theorem byte_clear_iff (c : UInt8) : c &&& 0x80 = 0 ↔ c.toNat < 128 := by
  have hall : ∀ v : BitVec 8, v &&& 128#8 = 0#8 ↔ v.toNat < 128 := by decide +kernel
  rw [← UInt8.toBitVec_inj]
  exact hall c.toBitVec

/-- The first bit is clear if the number is less than half of what the bytes could hold. -/
theorem clear_iff_lt (hs : s ≠ []) :
    s.headD 0 &&& 0x80 = 0 ↔ ofBytes s < 2 ^ (8 * s.length - 1) := by
  cases s with
  | nil => exact absurd rfl hs
  | cons c s =>
    have hlt := ofBytes_lt s
    have hhalf : 2 ^ (8 * (c :: s).length - 1) = 128 * 256 ^ s.length := by
      rw [show 8 * (c :: s).length - 1 = 7 + 8 * s.length by rw [List.length_cons]; omega,
        Nat.pow_add, Nat.pow_mul]
    rw [List.headD_cons, byte_clear_iff, hhalf, ofBytes_cons]
    constructor
    · intro hc
      calc c.toNat * 256 ^ s.length + ofBytes s < (c.toNat + 1) * 256 ^ s.length := by linarith
        _ ≤ 128 * 256 ^ s.length := Nat.mul_le_mul_right _ hc
    · intro hsum
      by_contra hc
      have hle : 128 * 256 ^ s.length ≤ c.toNat * 256 ^ s.length :=
        Nat.mul_le_mul_right _ (Nat.le_of_not_lt hc)
      omega

/-- The shortest form of a number that begins with a clear bit. -/
structure Canonical (n : Nat) (s : Bytes) : Prop where
  value : ofBytes s = n
  clear : s.headD 0 &&& 0x80 = 0
  shortest : ∀ t, ofBytes t = n → t.headD 0 &&& 0x80 = 0 → s.length ≤ t.length

theorem canonical_zero : Canonical 0 s ↔ s = [] := by
  constructor
  · intro h
    exact List.length_eq_zero_iff.mp (Nat.le_zero.mp (h.shortest [] rfl rfl))
  · rintro rfl
    exact ⟨rfl, rfl, fun t _ _ => Nat.zero_le _⟩

/-- A form that begins with a clear bit is the shortest if the number needs more than one byte less. -/
theorem canonical_of_le (hvalue : ofBytes s = n) (hclear : s.headD 0 &&& 0x80 = 0)
    (hm : 2 ^ m ≤ n) (hlen : 8 * (s.length - 1) ≤ m + 1) : Canonical n s := by
  refine ⟨hvalue, hclear, fun t ht htclear => ?_⟩
  have hne : t ≠ [] := by
    rintro rfl
    have hpos := Nat.two_pow_pos m
    have hzero : n = 0 := ht.symm
    omega
  have hlt : 2 ^ m < 2 ^ (8 * t.length - 1) := by
    have hbound := (clear_iff_lt hne).mp htclear
    omega
  have hexp := (Nat.pow_lt_pow_iff_right (by decide)).mp hlt
  omega

end BigEndian
