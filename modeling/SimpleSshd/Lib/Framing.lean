import Mathlib.Data.List.Basic
import Mathlib.Data.List.TakeDrop
import Mathlib.Tactic.Linarith

/-!
# Length-prefixed fields

A field is a 32-bit big-endian length followed by that many bytes. Reading a given number of fields
off a byte string is a prefix code: what is read does not depend on the bytes that follow.
-/

namespace Framing

abbrev Bytes := List UInt8

/-- The big-endian value of a byte string. -/
def ofBytes (bs : Bytes) : Nat := bs.foldl (fun acc b => 256 * acc + b.toNat) 0

/-- A number below 2^32 as four bytes, most significant first. -/
def be32 (n : Nat) : Bytes :=
  [UInt8.ofNat (n / 2 ^ 24), UInt8.ofNat (n / 2 ^ 16), UInt8.ofNat (n / 2 ^ 8), UInt8.ofNat n]

@[simp] theorem length_be32 (n : Nat) : (be32 n).length = 4 := rfl

theorem foldl_lt (bs : Bytes) (acc : Nat) :
    bs.foldl (fun acc b => 256 * acc + b.toNat) acc < (acc + 1) * 256 ^ bs.length := by
  induction bs generalizing acc with
  | nil => simp
  | cons b bs ih =>
    have hb := b.toNat_lt
    calc bs.foldl (fun acc b => 256 * acc + b.toNat) (256 * acc + b.toNat)
        < (256 * acc + b.toNat + 1) * 256 ^ bs.length := ih _
      _ ≤ ((acc + 1) * 256) * 256 ^ bs.length := Nat.mul_le_mul_right _ (by omega)
      _ = (acc + 1) * 256 ^ (b :: bs).length := by
        rw [List.length_cons, Nat.pow_succ, Nat.mul_assoc, Nat.mul_comm 256]

theorem ofBytes_lt (bs : Bytes) : ofBytes bs < 256 ^ bs.length := by
  have h := foldl_lt bs 0
  rwa [Nat.zero_add, Nat.one_mul] at h

theorem ofBytes_be32 {n : Nat} (h : n < 2 ^ 32) : ofBytes (be32 n) = n := by
  simp only [ofBytes, be32, List.foldl_cons, List.foldl_nil, UInt8.toNat_ofNat']
  omega

/-- Read one field: its content and what follows it. -/
def takeField (bs : Bytes) : Option (Bytes × Bytes) :=
  if bs.length < 4 then none
  else if ofBytes (bs.take 4) ≤ (bs.drop 4).length then
    some ((bs.drop 4).take (ofBytes (bs.take 4)), (bs.drop 4).drop (ofBytes (bs.take 4)))
  else none

/-- Read `k` fields. -/
def unframe : Nat → Bytes → Option (List Bytes × Bytes)
  | 0, bs => some ([], bs)
  | k + 1, bs => (takeField bs).bind fun (f, rest) =>
      (unframe k rest).map fun (fs, rest') => (f :: fs, rest')

/-- The encoding of some fields. -/
def frame (fs : List Bytes) : Bytes := fs.flatMap fun f => be32 f.length ++ f

/-- The byte string is `k` fields and nothing else. -/
def Framed (k : Nat) (bs : Bytes) : Prop := ∃ fs, unframe k bs = some (fs, [])

/-- The length of the encoding of some fields. -/
def framedLength (fs : List Bytes) : Nat := (fs.map fun f => 4 + f.length).sum

variable {k : Nat} {bs rest more f : Bytes} {fs : List Bytes}

theorem takeField_eq_some : takeField bs = some (f, rest) ↔
    4 ≤ bs.length ∧ f.length = ofBytes (bs.take 4) ∧ bs.drop 4 = f ++ rest := by
  simp only [takeField]
  split_ifs with h4 hlen
  · constructor
    · intro h; cases h
    · intro h; omega
  · rw [Option.some.injEq, Prod.mk.injEq]
    constructor
    · rintro ⟨rfl, rfl⟩
      exact ⟨by omega, by rw [List.length_take]; omega, (List.take_append_drop _ _).symm⟩
    · rintro ⟨-, hf, hsplit⟩
      rw [hsplit, ← hf]
      exact ⟨List.take_left, List.drop_left⟩
  · constructor
    · intro h; cases h
    · rintro ⟨-, hf, hsplit⟩
      rw [hsplit, List.length_append] at hlen
      omega

/-- A field that was written is read again. -/
theorem takeField_be32 (h : f.length < 2 ^ 32) : takeField (be32 f.length ++ f) = some (f, []) := by
  have htake : (be32 f.length ++ f).take 4 = be32 f.length := List.take_left' (length_be32 _)
  have hdrop : (be32 f.length ++ f).drop 4 = f := List.drop_left' (length_be32 _)
  apply takeField_eq_some.mpr
  refine ⟨?_, ?_, ?_⟩
  · rw [List.length_append, length_be32]
    exact Nat.le_add_right _ _
  · rw [htake, ofBytes_be32 h]
  · rw [hdrop, List.append_nil]

/-- What is read does not depend on what follows. -/
theorem takeField_append (h : takeField bs = some (f, rest)) :
    takeField (bs ++ more) = some (f, rest ++ more) := by
  obtain ⟨h4, hf, hsplit⟩ := takeField_eq_some.mp h
  refine takeField_eq_some.mpr ⟨by rw [List.length_append]; omega, ?_, ?_⟩
  · rw [List.take_append_of_le_length h4]
    exact hf
  · rw [List.drop_append_of_le_length h4, hsplit, List.append_assoc]

theorem takeField_length (h : takeField bs = some (f, rest)) :
    bs.length = 4 + f.length + rest.length := by
  obtain ⟨h4, -, hsplit⟩ := takeField_eq_some.mp h
  have hlen : (bs.drop 4).length = f.length + rest.length := by rw [hsplit, List.length_append]
  rw [List.length_drop] at hlen
  omega

theorem takeField_drop (h : takeField bs = some (f, rest)) : rest = bs.drop (4 + f.length) := by
  obtain ⟨-, -, hsplit⟩ := takeField_eq_some.mp h
  rw [← List.drop_drop, hsplit, List.drop_left]

theorem unframe_succ : unframe (k + 1) bs = some (fs, rest) ↔
    ∃ f mid gs, takeField bs = some (f, mid) ∧ unframe k mid = some (gs, rest) ∧ fs = f :: gs := by
  simp only [unframe, Option.bind_eq_some_iff, Option.map_eq_some_iff, Prod.exists, Prod.mk.injEq]
  constructor
  · rintro ⟨f, mid, hf, gs, r, hgs, rfl, rfl⟩
    exact ⟨f, mid, gs, hf, hgs, rfl⟩
  · rintro ⟨f, mid, gs, hf, hgs, rfl⟩
    exact ⟨f, mid, hf, gs, rest, hgs, rfl, rfl⟩

theorem unframe_append (h : unframe k bs = some (fs, rest)) :
    unframe k (bs ++ more) = some (fs, rest ++ more) := by
  induction k generalizing bs fs with
  | zero =>
    simp only [unframe, Option.some.injEq, Prod.mk.injEq] at h ⊢
    obtain ⟨rfl, rfl⟩ := h
    exact ⟨rfl, rfl⟩
  | succ k ih =>
    obtain ⟨f, mid, gs, hf, hgs, rfl⟩ := unframe_succ.mp h
    exact unframe_succ.mpr ⟨f, mid ++ more, gs, takeField_append hf, ih hgs, rfl⟩

theorem unframe_length (h : unframe k bs = some (fs, rest)) :
    bs.length = framedLength fs + rest.length := by
  induction k generalizing bs fs with
  | zero =>
    simp only [unframe, Option.some.injEq, Prod.mk.injEq] at h
    obtain ⟨rfl, rfl⟩ := h
    simp [framedLength]
  | succ k ih =>
    obtain ⟨f, mid, gs, hf, hgs, rfl⟩ := unframe_succ.mp h
    have h₁ := takeField_length hf
    have h₂ := ih hgs
    simp only [framedLength, List.map_cons, List.sum_cons] at h₂ ⊢
    omega

theorem frame_nil : frame [] = [] := rfl

theorem frame_cons : frame (f :: fs) = be32 f.length ++ f ++ frame fs := List.flatMap_cons

theorem frame_append {gs : List Bytes} : frame (fs ++ gs) = frame fs ++ frame gs :=
  List.flatMap_append

theorem length_frame (fs : List Bytes) : (frame fs).length = framedLength fs := by
  induction fs with
  | nil => rfl
  | cons f fs ih =>
    rw [frame_cons, List.length_append, ih, List.length_append, length_be32]
    simp only [framedLength, List.map_cons, List.sum_cons]

/-- Fields that were written are read again, whatever follows them. -/
theorem unframe_frame (h : ∀ f ∈ fs, f.length < 2 ^ 32) :
    unframe fs.length (frame fs ++ more) = some (fs, more) := by
  induction fs with
  | nil => rfl
  | cons f fs ih =>
    have hfield : takeField (be32 f.length ++ f) = some (f, []) :=
      takeField_be32 (h f List.mem_cons_self)
    have hfs := ih fun g hg => h g (List.mem_cons_of_mem _ hg)
    rw [List.length_cons, frame_cons, List.append_assoc]
    exact unframe_succ.mpr ⟨f, frame fs ++ more, fs, takeField_append hfield, hfs, rfl⟩

/-- The fields of a byte string are a prefix of it, and that prefix has the same fields. -/
theorem takeField_take (h : takeField bs = some (f, rest)) {n : Nat} (hn : 4 + f.length ≤ n) :
    takeField (bs.take n) = some (f, rest.take (n - (4 + f.length))) := by
  obtain ⟨h4, hf, hsplit⟩ := takeField_eq_some.mp h
  have hlen := takeField_length h
  refine takeField_eq_some.mpr ⟨by rw [List.length_take]; omega, ?_, ?_⟩
  · rw [List.take_take, Nat.min_eq_left (by omega)]
    exact hf
  · rw [List.drop_take, hsplit, List.take_append, List.take_of_length_le (by omega)]
    congr 2
    omega

theorem unframe_take (h : unframe k bs = some (fs, rest)) {n : Nat} (hn : framedLength fs ≤ n) :
    unframe k (bs.take n) = some (fs, rest.take (n - framedLength fs)) := by
  induction k generalizing bs fs n with
  | zero =>
    simp only [unframe, Option.some.injEq, Prod.mk.injEq] at h ⊢
    obtain ⟨rfl, rfl⟩ := h
    exact ⟨rfl, by simp [framedLength]⟩
  | succ k ih =>
    obtain ⟨f, mid, gs, hf, hgs, rfl⟩ := unframe_succ.mp h
    have hcons : framedLength (f :: gs) = 4 + f.length + framedLength gs := by
      simp [framedLength]
    rw [hcons] at hn ⊢
    have hrest := ih hgs (n := n - (4 + f.length)) (by omega)
    refine unframe_succ.mpr ⟨f, _, gs, takeField_take hf (by omega), ?_, rfl⟩
    rw [hrest]
    congr 3
    omega

/-- A prefix of a byte string that begins with `k` fields is framed exactly when it ends where the
fields do. -/
theorem framed_take_iff (h : unframe k bs = some (fs, rest)) {n : Nat} (hn : n ≤ bs.length) :
    Framed k (bs.take n) ↔ n = framedLength fs := by
  constructor
  · rintro ⟨gs, hgs⟩
    have hfull : unframe k (bs.take n ++ bs.drop n) = some (gs, [] ++ bs.drop n) :=
      unframe_append hgs
    rw [List.take_append_drop, h, Option.some.injEq, Prod.mk.injEq] at hfull
    obtain ⟨rfl, -⟩ := hfull
    have hlen := unframe_length hgs
    rw [List.length_take, Nat.min_eq_left hn, List.length_nil] at hlen
    omega
  · rintro rfl
    exact ⟨fs, by rw [unframe_take h (Nat.le_refl _), Nat.sub_self, List.take_zero]⟩

end Framing
