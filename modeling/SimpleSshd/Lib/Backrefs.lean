import Mathlib.Data.List.Nodup
import Mathlib.Logic.Function.Basic

/-!
# Requests that refer to their owners

An owner may have a pending request and then points to it; the request refers back to its owner, or to
nobody if it was cancelled. Owners go while their requests are pending, and requests end while their
owners stay. `Linked` says that both sides agree, and the rules below which changes keep it so.
-/

namespace Backrefs

variable {α κ ρ : Type} {key : ρ → κ} {owner : ρ → Option α} {live live' : α → Prop}
  {pointer : α → Option κ} {requests : List ρ} {a : α} {r r' : ρ} {k : κ}

/-! ## Changing requests -/

section Keys

variable [DecidableEq κ]

/-- The request with this key is changed. -/
def modify (key : ρ → κ) (k : κ) (f : ρ → ρ) (requests : List ρ) : List ρ :=
  requests.map fun r => if key r = k then f r else r

/-- The request with this key ends. -/
def discard (key : ρ → κ) (k : κ) (requests : List ρ) : List ρ :=
  requests.filter fun r => decide (key r ≠ k)

theorem mem_discard : r ∈ discard key k requests ↔ r ∈ requests ∧ key r ≠ k := by
  simp [discard]

/-- Every request is an old one, with another key or changed. -/
theorem mem_modify {f : ρ → ρ} (h : r' ∈ modify key k f requests) :
    (r' ∈ requests ∧ key r' ≠ k) ∨ ∃ r ∈ requests, key r = k ∧ r' = f r := by
  obtain ⟨r, hr, rfl⟩ := List.mem_map.mp h
  by_cases hk : key r = k
  · rw [if_pos hk]
    exact .inr ⟨r, hr, hk, rfl⟩
  · rw [if_neg hk]
    exact .inl ⟨hr, hk⟩

theorem mem_modify_of_ne {f : ρ → ρ} (h : r ∈ requests) (hk : key r ≠ k) :
    r ∈ modify key k f requests :=
  List.mem_map.mpr ⟨r, h, if_neg hk⟩

theorem mem_modify_of_eq {f : ρ → ρ} (h : r ∈ requests) (hk : key r = k) :
    f r ∈ modify key k f requests :=
  List.mem_map.mpr ⟨r, h, if_pos hk⟩

/-- The keys stay. -/
theorem map_key_modify {f : ρ → ρ} (hf : ∀ r, key r = k → key (f r) = k) :
    (modify key k f requests).map key = requests.map key := by
  rw [modify, List.map_map]
  refine List.map_congr_left fun r _ => ?_
  by_cases hk : key r = k
  · simp [hk, hf r hk]
  · simp [hk]

theorem map_key_discard :
    (discard key k requests).map key = (requests.map key).filter fun k' => decide (k' ≠ k) := by
  rw [discard, List.filter_map]
  rfl

end Keys

/-! ## Agreement -/

/-- The requests and their owners agree. -/
structure Linked (key : ρ → κ) (owner : ρ → Option α) (live : α → Prop) (pointer : α → Option κ)
    (requests : List ρ) : Prop where
  /-- A request refers to an owner that is there and points to it. -/
  refers : ∀ r ∈ requests, ∀ a, owner r = some a → live a ∧ pointer a = some (key r)
  /-- An owner points to a request that refers to it. -/
  points : ∀ a, live a → ∀ k, pointer a = some k → ∃ r ∈ requests, key r = k ∧ owner r = some a
  distinct : (requests.map key).Nodup

theorem Linked.nil (key : ρ → κ) (owner : ρ → Option α) (hlive : ∀ a, ¬ live a) :
    Linked key owner live pointer [] where
  refers _ hr := absurd hr List.not_mem_nil
  points a ha := absurd ha (hlive a)
  distinct := List.nodup_nil

theorem Linked.eq_of_key (h : Linked key owner live pointer requests) (hr : r ∈ requests)
    (hr' : r' ∈ requests) (hkey : key r = key r') : r = r' :=
  List.inj_on_of_nodup_map h.distinct hr hr' hkey

/-- Only who is there matters. -/
theorem Linked.congr (h : Linked key owner live pointer requests) (hlive : ∀ b, live' b ↔ live b) :
    Linked key owner live' pointer requests where
  refers r hr a ha := ⟨(hlive a).mpr (h.refers r hr a ha).1, (h.refers r hr a ha).2⟩
  points a ha := h.points a ((hlive a).mp ha)
  distinct := h.distinct

/-- **An owner comes**, without a request. -/
theorem Linked.enter (h : Linked key owner live pointer requests) (hnull : pointer a = none)
    (hlive : ∀ b, live' b ↔ live b ∨ b = a) : Linked key owner live' pointer requests where
  refers r hr b hb := ⟨(hlive b).mpr (.inl (h.refers r hr b hb).1), (h.refers r hr b hb).2⟩
  points b hb k hk := by
    rcases (hlive b).mp hb with hold | rfl
    · exact h.points b hold k hk
    · rw [hnull] at hk
      cases hk
  distinct := h.distinct

/-- **An owner that waits for nothing goes.** -/
theorem Linked.leave (h : Linked key owner live pointer requests) (hnull : pointer a = none)
    (hlive : ∀ b, live' b ↔ live b ∧ b ≠ a) : Linked key owner live' pointer requests where
  refers r hr b hb := by
    obtain ⟨hb', hpointer⟩ := h.refers r hr b hb
    refine ⟨(hlive b).mpr ⟨hb', ?_⟩, hpointer⟩
    rintro rfl
    rw [hnull] at hpointer
    cases hpointer
  points b hb := h.points b ((hlive b).mp hb).1
  distinct := h.distinct

section Keys

variable [DecidableEq κ]

/-- A request is found by its key. -/
theorem Linked.find_key (h : Linked key owner live pointer requests) (hr : r ∈ requests) :
    (requests.find? fun r' => decide (key r' = key r)) = some r := by
  cases hfind : requests.find? fun r' => decide (key r' = key r) with
  | none =>
    have hnone := List.find?_eq_none.mp hfind r hr
    simp at hnone
  | some r' =>
    have hkey : key r' = key r := by simpa using List.find?_some hfind
    rw [h.eq_of_key (List.mem_of_find?_eq_some hfind) hr hkey]

/-- **A request changes**, but not in what it refers to. -/
theorem Linked.modify (h : Linked key owner live pointer requests) {f : ρ → ρ}
    (hkey : ∀ r, key r = k → key (f r) = k)
    (howner : ∀ r ∈ requests, key r = k → owner (f r) = owner r) :
    Linked key owner live pointer (modify key k f requests) where
  refers r' hr' b hb := by
    rcases mem_modify hr' with ⟨hold, -⟩ | ⟨r, hr, hk, rfl⟩
    · exact h.refers r' hold b hb
    · rw [hkey r hk, ← hk]
      exact h.refers r hr b ((howner r hr hk).symm.trans hb)
  points b hb k' hk' := by
    obtain ⟨r, hr, hrk, hro⟩ := h.points b hb k' hk'
    by_cases hk : key r = k
    · exact ⟨f r, mem_modify_of_eq hr hk, (hkey r hk).trans (hk.symm.trans hrk),
        (howner r hr hk).trans hro⟩
    · exact ⟨r, mem_modify_of_ne hr hk, hrk, hro⟩
  distinct := (map_key_modify hkey).symm ▸ h.distinct

/-- **A request that refers to nobody ends.** -/
theorem Linked.discard (h : Linked key owner live pointer requests)
    (hnone : ∀ r ∈ requests, key r = k → owner r = none) :
    Linked key owner live pointer (discard key k requests) where
  refers r hr := h.refers r (mem_discard.mp hr).1
  points b hb k' hk' := by
    obtain ⟨r, hr, hrk, hro⟩ := h.points b hb k' hk'
    refine ⟨r, mem_discard.mpr ⟨hr, fun hk => ?_⟩, hrk, hro⟩
    rw [hnone r hr hk] at hro
    cases hro
  distinct := by
    rw [map_key_discard]
    exact h.distinct.filter _

end Keys

variable [DecidableEq α]

/-- **A request begins** for an owner that had none. -/
theorem Linked.append (h : Linked key owner live pointer requests) (ha : live a)
    (hnull : pointer a = none) (howner : owner r = some a) (hnew : key r ∉ requests.map key) :
    Linked key owner live (Function.update pointer a (some (key r))) (requests ++ [r]) where
  refers r' hr' b hb := by
    rcases List.mem_append.mp hr' with hold | hlast
    · obtain ⟨hb', hpointer⟩ := h.refers r' hold b hb
      refine ⟨hb', ?_⟩
      rw [Function.update_of_ne ?_, hpointer]
      rintro rfl
      rw [hnull] at hpointer
      cases hpointer
    · obtain rfl := List.mem_singleton.mp hlast
      rw [howner] at hb
      cases hb
      exact ⟨ha, Function.update_self _ _ _⟩
  points b hb k hk := by
    by_cases hba : b = a
    · subst hba
      rw [Function.update_self] at hk
      exact ⟨r, List.mem_append_right _ (List.mem_singleton_self r), Option.some.inj hk, howner⟩
    · rw [Function.update_of_ne hba] at hk
      obtain ⟨r', hr', hkey⟩ := h.points b hb k hk
      exact ⟨r', List.mem_append_left _ hr', hkey⟩
  distinct := by
    rw [List.map_append]
    refine List.Nodup.append h.distinct (List.nodup_singleton _) ?_
    intro k hold hlast
    exact hnew (List.mem_singleton.mp hlast ▸ hold)

variable [DecidableEq κ]

/-- **A request ends**, and its owner no longer points to it. -/
theorem Linked.complete (h : Linked key owner live pointer requests) (hr : r ∈ requests)
    (howner : owner r = some a) :
    Linked key owner live (Function.update pointer a none) (Backrefs.discard key (key r) requests) where
  refers r' hr' b hb := by
    obtain ⟨hold, hne⟩ := mem_discard.mp hr'
    obtain ⟨hb', hpointer⟩ := h.refers r' hold b hb
    refine ⟨hb', ?_⟩
    rw [Function.update_of_ne ?_, hpointer]
    rintro rfl
    -- the owner points to one request only
    rw [(h.refers r hr b howner).2] at hpointer
    exact hne (Option.some.inj hpointer).symm
  points b hb k hk := by
    have hba : b ≠ a := by
      rintro rfl
      rw [Function.update_self] at hk
      cases hk
    rw [Function.update_of_ne hba] at hk
    obtain ⟨r', hr', hrk, hro⟩ := h.points b hb k hk
    refine ⟨r', mem_discard.mpr ⟨hr', fun hkey => hba ?_⟩, hrk, hro⟩
    rw [h.eq_of_key hr' hr hkey, howner] at hro
    exact (Option.some.inj hro).symm
  distinct := by
    rw [map_key_discard]
    exact h.distinct.filter _

/-- **An owner goes**, and its request is cancelled. -/
theorem Linked.retire (h : Linked key owner live pointer requests) (ha : live a)
    (hk : pointer a = some k) {cancel : ρ → ρ} (hkey : ∀ r, key r = k → key (cancel r) = k)
    (hcancel : ∀ r, owner (cancel r) = none) (hlive : ∀ b, live' b ↔ live b ∧ b ≠ a) :
    Linked key owner live' (Function.update pointer a none)
      (Backrefs.modify key k cancel requests) where
  refers r' hr' b hb := by
    rcases mem_modify hr' with ⟨hold, hne⟩ | ⟨r, hr, -, rfl⟩
    · obtain ⟨hb', hpointer⟩ := h.refers r' hold b hb
      have hba : b ≠ a := by
        rintro rfl
        rw [hk] at hpointer
        exact hne (Option.some.inj hpointer).symm
      exact ⟨(hlive b).mpr ⟨hb', hba⟩, (Function.update_of_ne hba _ _).trans hpointer⟩
    · rw [hcancel] at hb
      cases hb
  points b hb k' hk' := by
    obtain ⟨hb', hba⟩ := (hlive b).mp hb
    rw [Function.update_of_ne hba] at hk'
    obtain ⟨r', hr', hrk, hro⟩ := h.points b hb' k' hk'
    refine ⟨r', mem_modify_of_ne hr' fun hkey' => hba ?_, hrk, hro⟩
    -- otherwise two owners would have one request
    obtain ⟨r, hr, hrk', hro'⟩ := h.points a ha k hk
    rw [h.eq_of_key hr' hr (hkey'.trans hrk'.symm), hro'] at hro
    exact (Option.some.inj hro).symm
  distinct := (map_key_modify hkey).symm ▸ h.distinct

end Backrefs
