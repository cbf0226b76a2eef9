import SimpleSshd.Dropbear.KeyLine

/-!
# Proofs: base64

What `base64_encode` writes is in the alphabet, and `base64_decode` reads it back.
-/

namespace SimpleSshd.Dropbear

/-! ## The alphabet -/

theorem map_base64_codes {n : Nat} (h : n < 64) : map_base64 (codes_base64 n) = n := by
  revert n
  decide

theorem map_base64_pad : map_base64 PAD = 254 := by decide

/-- A digit is taken. -/
theorem base64_loop_digit {n : Nat} (hn : n < 64) {outlen t y : Nat} (hy : y < 3) (cs out : Bytes) :
    base64_loop outlen (codes_base64 n :: cs) t y out =
      base64_loop outlen cs (t * 64 + n) (y + 1) out := by
  have hdigit : ¬ (map_base64 (codes_base64 n) = 254 ∨ map_base64 (codes_base64 n) = 255) := by
    rw [map_base64_codes hn]
    omega
  rw [base64_loop, if_neg hdigit, map_base64_codes hn]
  dsimp only
  rw [if_neg (by omega)]

/-- The fourth digit of a group. -/
theorem base64_loop_group {n : Nat} (hn : n < 64) {outlen t : Nat} (cs : Bytes) {out : Bytes}
    (hroom : out.length + 3 ≤ outlen) :
    base64_loop outlen (codes_base64 n :: cs) t 3 out = base64_loop outlen cs 0 0
      (out ++ [UInt8.ofNat ((t * 64 + n) / 2 ^ 16), UInt8.ofNat ((t * 64 + n) / 2 ^ 8),
        UInt8.ofNat (t * 64 + n)]) := by
  have hdigit : ¬ (map_base64 (codes_base64 n) = 254 ∨ map_base64 (codes_base64 n) = 255) := by
    rw [map_base64_codes hn]
    omega
  rw [base64_loop, if_neg hdigit, map_base64_codes hn]
  dsimp only
  rw [if_pos rfl, if_neg (by omega)]

theorem base64_loop_pad {outlen t y : Nat} (cs out : Bytes) :
    base64_loop outlen (PAD :: cs) t y out = base64_loop outlen cs t y out := by
  rw [base64_loop, if_pos (Or.inl map_base64_pad)]

/-! ## Reading back -/

theorem ofNat_eq_of_mod {n : Nat} {b : UInt8} (h : n % 256 = b.toNat) : UInt8.ofNat n = b := by
  rw [← UInt8.toNat_inj, UInt8.toNat_ofNat', h]

/-- **What was encoded is decoded** again, after what was written before. -/
theorem base64_loop_encode {outlen : Nat} (bs out : Bytes) (hroom : out.length + bs.length ≤ outlen) :
    base64_loop outlen (base64_encode bs) 0 0 out = some (out ++ bs) := by
  fun_induction base64_encode bs generalizing out with
  | case1 a b c rest ih =>
    have ha := a.toNat_lt
    have hb := b.toNat_lt
    have hc := c.toNat_lt
    rw [List.length_cons, List.length_cons, List.length_cons] at hroom
    rw [base64_loop_digit (by omega) (by omega), base64_loop_digit (by omega) (by omega),
      base64_loop_digit (by omega) (by omega), base64_loop_group (by omega) _ (by omega),
      ofNat_eq_of_mod (b := a) (by omega), ofNat_eq_of_mod (b := b) (by omega),
      ofNat_eq_of_mod (b := c) (by omega), ih _ (by simp; omega)]
    simp
  | case2 a b =>
    have ha := a.toNat_lt
    have hb := b.toNat_lt
    rw [List.length_cons, List.length_cons, List.length_nil] at hroom
    rw [base64_loop_digit (by omega) (by omega), base64_loop_digit (by omega) (by omega),
      base64_loop_digit (by omega) (by omega), base64_loop_pad, base64_loop, base64_finish]
    rw [if_neg (by decide), if_neg (by decide), if_neg (by omega), if_pos (by decide),
      ofNat_eq_of_mod (b := a) (by omega), ofNat_eq_of_mod (b := b) (by omega)]
  | case3 a =>
    have ha := a.toNat_lt
    rw [List.length_cons, List.length_nil] at hroom
    rw [base64_loop_digit (by omega) (by omega), base64_loop_digit (by omega) (by omega),
      base64_loop_pad, base64_loop_pad, base64_loop, base64_finish]
    rw [if_neg (by decide), if_neg (by decide), if_neg (by omega), if_neg (by decide),
      ofNat_eq_of_mod (b := a) (by omega)]
  | case4 =>
    rw [base64_loop, base64_finish, List.append_nil]
    rfl

theorem length_base64_encode (bs : Bytes) : bs.length ≤ (base64_encode bs).length := by
  fun_induction base64_encode bs with
  | case1 a b c rest ih =>
    simp only [List.length_cons]
    omega
  | case2 a b => exact Nat.le_add_left 2 2
  | case3 a => exact Nat.le_add_left 1 3
  | case4 => exact Nat.le_refl 0

/-- **Round trip**, with the room that `cmp_base64_key` allows. -/
theorem base64_decode_encode (bs : Bytes) :
    base64_decode (base64_encode bs) ((base64_encode bs).length * 2) = some bs := by
  have hlen := length_base64_encode bs
  exact base64_loop_encode bs [] (by rw [List.length_nil]; omega)

/-- What is written are letters, digits, `+`, `/` and `=`. -/
theorem mem_base64_encode {bs : Bytes} {c : UInt8} (h : c ∈ base64_encode bs) :
    (∃ n < 64, c = codes_base64 n) ∨ c = PAD := by
  fun_induction base64_encode bs with
  | case1 a b d rest ih =>
    have ha := a.toNat_lt
    have hb := b.toNat_lt
    have hd := d.toNat_lt
    simp only [List.mem_cons] at h
    rcases h with h | h | h | h | h
    · exact .inl ⟨_, by omega, h⟩
    · exact .inl ⟨_, by omega, h⟩
    · exact .inl ⟨_, by omega, h⟩
    · exact .inl ⟨_, by omega, h⟩
    · exact ih h
  | case2 a b =>
    have ha := a.toNat_lt
    have hb := b.toNat_lt
    simp only [List.mem_cons, List.not_mem_nil, or_false] at h
    rcases h with h | h | h | h
    · exact .inl ⟨_, by omega, h⟩
    · exact .inl ⟨_, by omega, h⟩
    · exact .inl ⟨_, by omega, h⟩
    · exact .inr h
  | case3 a =>
    have ha := a.toNat_lt
    simp only [List.mem_cons, List.not_mem_nil, or_false] at h
    rcases h with h | h | h | h
    · exact .inl ⟨_, by omega, h⟩
    · exact .inl ⟨_, by omega, h⟩
    · exact .inr h
    · exact .inr h
  | case4 => cases h

theorem codes_base64_plain : ∀ n < 64, codes_base64 n ≠ 0 ∧ codes_base64 n ≠ SP ∧
    codes_base64 n ≠ QUOTE := by
  decide

/-- None of it has a meaning in a line. -/
theorem base64_encode_plain {bs : Bytes} {c : UInt8} (h : c ∈ base64_encode bs) :
    c ≠ 0 ∧ c ≠ SP ∧ c ≠ QUOTE := by
  rcases mem_base64_encode h with ⟨n, hn, rfl⟩ | rfl
  · exact codes_base64_plain n hn
  · decide

/-! ## How much is decoded -/

theorem base64_loop_length {outlen t y : Nat} {cs out decoded : Bytes} (hroom : out.length ≤ outlen)
    (h : base64_loop outlen cs t y out = some decoded) : decoded.length ≤ outlen := by
  induction cs generalizing t y out with
  | nil =>
    rw [base64_loop, base64_finish] at h
    split_ifs at h with hnone hone hlong hthree
    · cases h
      exact hroom
    · cases h
      rw [List.length_append, List.length_cons, List.length_cons, List.length_nil]
      omega
    · cases h
      rw [List.length_append, List.length_cons, List.length_nil]
      omega
  | cons c cs ih =>
    rw [base64_loop] at h
    dsimp only at h
    split_ifs at h with hskip hgroup hlong
    · exact ih hroom h
    · refine ih ?_ h
      rw [List.length_append, List.length_cons, List.length_cons, List.length_cons, List.length_nil]
      omega
    · exact ih hroom h

theorem base64_decode_length {outlen : Nat} {bs decoded : Bytes}
    (h : base64_decode bs outlen = some decoded) : decoded.length ≤ outlen :=
  base64_loop_length (Nat.zero_le _) h

end SimpleSshd.Dropbear
