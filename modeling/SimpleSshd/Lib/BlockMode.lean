import Mathlib.Data.List.Basic

/-!
# Block modes

A block mode turns a list of whole blocks into a list of the same length and carries a state from each
block to the next. If two modes, seen block by block, undo each other, they do so for any number of
blocks, and the second may be given the blocks in as many pieces as one likes.
-/

namespace BlockMode

variable {α κ κ' : Type*} {n : Nat}

/-- A mode, as a function of the input and the state; it may fail. -/
abbrev Mode (α κ : Type*) := List α → κ → Option (List α × κ)

/-- The first block is treated first, the others with the state it leaves. -/
structure Blockwise (n : Nat) (f : Mode α κ) : Prop where
  nil : ∀ k, f [] k = some ([], k)
  cons : ∀ {block rest k x y k₁ k₂}, block.length = n → n ∣ rest.length →
    f block k = some (x, k₁) → f rest k₁ = some (y, k₂) → f (block ++ rest) k = some (x ++ y, k₂)

/-- `g` undoes what `f` does to one block, and their states stay in step. -/
def Inverse (n : Nat) (f : Mode α κ) (g : Mode α κ') (R : κ → κ' → Prop) : Prop :=
  ∀ ⦃block k k'⦄, block.length = n → R k k' → ∃ c k₁ k₁', f block k = some (c, k₁) ∧
    c.length = n ∧ g c k' = some (block, k₁') ∧ R k₁ k₁'

variable {f : Mode α κ} {g : Mode α κ'} {R : κ → κ' → Prop}

/-- **Any number of blocks** is recovered. -/
theorem Inverse.whole (hinv : Inverse n f g R) (hf : Blockwise n f) (hg : Blockwise n g)
    {xs : List α} {k : κ} {k' : κ'} (hn : n ∣ xs.length) (hR : R k k') :
    ∃ c k₁ k₁', f xs k = some (c, k₁) ∧ c.length = xs.length ∧ g c k' = some (xs, k₁') ∧
      R k₁ k₁' := by
  obtain ⟨m, hm⟩ := hn
  -- over the number of blocks
  induction m generalizing xs k k' with
  | zero =>
    rw [Nat.mul_zero, List.length_eq_zero_iff] at hm
    subst hm
    exact ⟨[], k, k', hf.nil k, rfl, hg.nil k', hR⟩
  | succ m ih =>
    have hle : n ≤ xs.length := by
      rw [hm, Nat.mul_succ]
      omega
    have hblock : (xs.take n).length = n := by
      rw [List.length_take, Nat.min_eq_left hle]
    have hrest : (xs.drop n).length = n * m := by
      rw [List.length_drop, hm, Nat.mul_succ, Nat.add_sub_cancel]
    obtain ⟨x, k₁, k₁', hfx, hx, hgx, hR₁⟩ := hinv hblock hR
    obtain ⟨y, k₂, k₂', hfy, hy, hgy, hR₂⟩ := ih hR₁ hrest
    refine ⟨x ++ y, k₂, k₂', ?_, ?_, ?_, hR₂⟩
    · have hwhole := hf.cons hblock ⟨m, hrest⟩ hfx hfy
      rwa [List.take_append_drop] at hwhole
    · rw [List.length_append, hx, hy, List.length_drop]
      omega
    · have hwhole := hg.cons hx ⟨m, hy.trans hrest⟩ hgx hgy
      rwa [List.take_append_drop] at hwhole

/-- **The first block on its own**: it is recovered from the first block of the result, and the others
from the rest with the state that leaves. -/
theorem Inverse.first (hinv : Inverse n f g R) (hf : Blockwise n f) (hg : Blockwise n g)
    {xs : List α} {k : κ} {k' : κ'} (hn : n ∣ xs.length) (hle : n ≤ xs.length) (hR : R k k') :
    ∃ c k₁ k₀' k₁', f xs k = some (c, k₁) ∧ c.length = xs.length ∧
      g (c.take n) k' = some (xs.take n, k₀') ∧ g (c.drop n) k₀' = some (xs.drop n, k₁') ∧
      R k₁ k₁' := by
  have hblock : (xs.take n).length = n := by
    rw [List.length_take, Nat.min_eq_left hle]
  have hrest : n ∣ (xs.drop n).length := by
    rw [List.length_drop]
    exact Nat.dvd_sub hn (Nat.dvd_refl n)
  obtain ⟨x, k₁, k₁', hfx, hx, hgx, hR₁⟩ := hinv hblock hR
  obtain ⟨y, k₂, k₂', hfy, hy, hgy, hR₂⟩ := hinv.whole hf hg hrest hR₁
  have hwhole := hf.cons hblock hrest hfx hfy
  rw [List.take_append_drop] at hwhole
  refine ⟨x ++ y, k₂, k₁', k₂', hwhole, ?_, ?_, ?_, hR₂⟩
  · rw [List.length_append, hx, hy, List.length_drop]
    omega
  · rwa [List.take_left' hx]
  · rwa [List.drop_left' hx]

end BlockMode
