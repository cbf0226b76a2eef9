import Mathlib.Data.List.Nodup
import SimpleSshd.Service.Proofs.StepsProofs

/-!
# Proofs: who owns a daemon

Every daemon that is alive and has not been sent `SIGKILL` is tracked in `sshd_pid`, or is in the
hands of exactly one kind of thread: a `do_start` that has forked it and not yet stored it, or a
`stop_sshd` that has taken it out and not yet killed it.
-/

namespace SimpleSshd.Service

variable {digit : Char → Option Nat} {s t : State} {e : Event}

/-! ## Mutual exclusion -/

/-- Only the holder of `lock` is inside a split block, and such a block starts by clearing
`sshd_pid`. -/
structure LockInv (s : State) : Prop where
  holder : ∀ i pc, s.threads[i]? = some pc → pc.critical = true → s.lock = some i
  cleared : s.lock ≠ none → s.sshd_pid = 0

theorem LockInv.init : LockInv {} := by
  refine ⟨fun i pc h hc => ?_, fun h => rfl⟩
  have hmem : pc ∈ [Pc.idle] := List.mem_of_getElem? h
  rw [List.mem_singleton.mp hmem] at hc
  cases hc

/-- Thread `i` goes to `p` and starts the threads `new`. -/
theorem LockInv.set (hi : LockInv s) {i : Nat} {p : Pc} (new : List Pc)
    (ht : t.threads = s.threads.set i p ++ new) (hnew : ∀ q ∈ new, q.critical = false)
    (hothers : ∀ j, j ≠ i → s.lock = some j → t.lock = some j)
    (hcrit : p.critical = true → t.lock = some i) (hclear : t.lock ≠ none → t.sshd_pid = 0) :
    LockInv t := by
  refine ⟨fun j pc hj hc => ?_, hclear⟩
  rw [ht] at hj
  rcases getElem?_set_append hj with ⟨rfl, rfl⟩ | ⟨hne, hj⟩ | hmem
  · exact hcrit hc
  · exact hothers j hne (hi.holder j pc hj hc)
  · rw [hnew pc hmem] at hc
    cases hc

/-- The common case: the section takes no part in the locking. -/
theorem LockInv.setPc (hi : LockInv s) {i : Nat} {p : Pc} (ht : t.threads = s.threads.set i p)
    (hl : t.lock = s.lock) (hcrit : p.critical = true → s.lock = some i)
    (hclear : t.lock ≠ none → t.sshd_pid = 0) : LockInv t :=
  hi.set [] (by rw [ht, List.append_nil]) (by simp) (fun _ _ h => hl.trans h)
    (fun h => hl.trans (hcrit h)) hclear

/-- Thread `i` enters a split block. -/
theorem LockInv.acquire (hi : LockInv s) {i : Nat} {p : Pc} (hfree : s.lock = none)
    (ht : t.threads = s.threads.set i p) (hl : t.lock = some i) (hz : t.sshd_pid = 0) :
    LockInv t := by
  refine hi.set [] (by rw [ht, List.append_nil]) (by simp) ?_ (fun _ => hl) (fun _ => hz)
  intro j _ hj
  rw [hfree] at hj
  cases hj

/-- Thread `i` leaves a split block. -/
theorem LockInv.release (hi : LockInv s) {i : Nat} {p p' : Pc} (hp : s.threads[i]? = some p)
    (hcrit : p.critical = true) (ht : t.threads = s.threads.set i p') (hl : t.lock = none)
    (hp' : p'.critical = false) : LockInv t := by
  refine hi.set [] (by rw [ht, List.append_nil]) (by simp) ?_ (by simp [hp']) (by simp [hl])
  intro j hne hj
  rw [hi.holder i p hp hcrit, Option.some.injEq] at hj
  exact absurd hj.symm hne

theorem Caller.next_critical (k : Caller) : k.next.critical = false := by
  cases k <;> rfl

theorem Command.first_critical (c : Command) : (c.first digit).critical = false := by
  cases c with
  | onCreate file => simp only [Command.first]; split_ifs <;> rfl
  | start => rfl
  | stop => rfl
  | onDestroy => rfl

theorem LockInv.step (hi : LockInv s) (h : Moves digit s e t) : LockInv t := by
  cases h with
  | command h =>
    exact hi.setPc rfl rfl (by rw [Command.first_critical]; simp) hi.cleared
  | stop_enter h hl =>
    refine hi.setPc rfl rfl ?_ (fun _ => rfl)
    split_ifs
    · intro hc; cases hc
    · rw [Caller.next_critical]; simp
  | stop_kill h => exact hi.setPc rfl rfl (by rw [Caller.next_critical]; simp) hi.cleared
  | start_clock h => exact hi.setPc rfl rfl (by simp [Pc.critical]) hi.cleared
  | start_enter h hl => exact hi.acquire hl rfl rfl rfl
  | start_kill h =>
    exact hi.setPc rfl rfl (fun _ => hi.holder _ _ h rfl) hi.cleared
  | start_set h => exact hi.release h rfl rfl rfl rfl
  | start_spawn h =>
    exact hi.set _ rfl (by simp [Pc.critical]) (fun _ _ hj => hj) (by simp [Pc.critical]) hi.cleared
  | file_enter h hl => exact hi.acquire hl rfl rfl rfl
  | file_kill h =>
    exact hi.setPc rfl rfl (fun _ => hi.holder _ _ h rfl) hi.cleared
  | file_set h => exact hi.release h rfl rfl rfl rfl
  | watch_clock h => exact hi.setPc rfl rfl (by simp [Pc.critical]) hi.cleared
  | forget h hl hpid =>
    refine hi.setPc rfl rfl ?_ (fun _ => rfl)
    split_ifs <;> simp [Pc.critical]
  | ignore h hl hpid => exact hi.setPc rfl rfl (by simp [Pc.critical]) hi.cleared
  | fork h hf =>
    refine hi.setPc rfl rfl ?_ hi.cleared
    split_ifs <;> simp [Pc.critical]
  | reap h hd hx ha => exact hi.setPc rfl rfl (by simp [Pc.critical]) hi.cleared
  | nochild h hn => exact hi.setPc rfl rfl (by simp [Pc.critical]) hi.cleared
  | exit hd hx => exact ⟨hi.holder, hi.cleared⟩

/-! ## Ownership -/

/-- A daemon with this pid is accounted for. -/
def Owned (s : State) (pid : Int) : Prop :=
  pid = s.sshd_pid ∨ (∃ pc ∈ s.threads, pc.startHeld = some pid) ∨
    ∃ pc ∈ s.threads, pc.stopHeld = some pid

/-- `start_sshd` does not return the pid of an earlier daemon. -/
def FreshPid (s : State) : Event → Prop
  | .fork _ res => 0 < res → ∀ d ∈ s.procs, d.pid ≠ res
  | _ => True

instance (s : State) : (e : Event) → Decidable (FreshPid s e)
  | .fork _ res => inferInstanceAs (Decidable (0 < res → ∀ d ∈ s.procs, d.pid ≠ res))
  | .command _ | .advance .. | .waitpid .. | .exit _ => .isTrue trivial

structure OwnInv (s : State) : Prop where
  lock : LockInv s
  pid_pos : ∀ d ∈ s.procs, 0 < d.pid
  distinct : (s.procs.map Proc.pid).Nodup
  reaped_exited : ∀ d ∈ s.procs, d.reaped = true → d.exited = true
  /-- Threads work with results of `start_sshd` that were not 0. -/
  known : ∀ pc ∈ s.threads, ∀ p, pc.forked = some p → p ≠ 0 ∧ (0 < p → ∃ d ∈ s.procs, d.pid = p)
  /-- `waitpid` returned because the process had exited. -/
  awaited : ∀ pc ∈ s.threads, ∀ p, pc.awaited = some p → ∀ d ∈ s.procs, d.pid = p →
    d.exited = true
  owned : ∀ d ∈ s.procs, d.exited = false → d.killed = false → Owned s d.pid

theorem OwnInv.init : OwnInv {} := by
  refine ⟨LockInv.init, ?_, List.nodup_nil, ?_, ?_, ?_, ?_⟩
  · intro d hd; cases hd
  · intro d hd; cases hd
  · intro pc hpc p hp
    rw [List.mem_singleton.mp hpc] at hp
    cases hp
  · intro pc _ p _ d hd; cases hd
  · intro d hd; cases hd

/-- Processes go on with their lives. -/
theorem OwnInv.later (hi : OwnInv s) (ht : t.threads = s.threads)
    (hpid : t.sshd_pid = s.sshd_pid) (hl : t.lock = s.lock) (hprocs : Later s.procs t.procs) :
    OwnInv t := by
  refine ⟨⟨?_, ?_⟩, ?_, ?_, ?_, ?_, ?_, ?_⟩
  · rw [ht, hl]
    exact hi.lock.holder
  · rw [hl, hpid]
    exact hi.lock.cleared
  · intro d' hd'
    obtain ⟨d, hd, hpid, -⟩ := hprocs.back d' hd'
    exact hpid ▸ hi.pid_pos d hd
  · rw [hprocs.pids]
    exact hi.distinct
  · intro d' hd'
    obtain ⟨d, hd, -, -, -, hr⟩ := hprocs.back d' hd'
    exact hr (hi.reaped_exited d hd)
  · intro pc hpc a ha
    obtain ⟨hne, hold⟩ := hi.known pc (ht ▸ hpc) a ha
    refine ⟨hne, fun hpos => ?_⟩
    obtain ⟨d, hd, hda⟩ := hold hpos
    obtain ⟨d', hd', hpid⟩ := hprocs.forth hd
    exact ⟨d', hd', hpid.trans hda⟩
  · intro pc hpc a ha d' hd' hda
    obtain ⟨d, hd, hpid, hx, -⟩ := hprocs.back d' hd'
    exact hx (hi.awaited pc (ht ▸ hpc) a ha d hd (hpid.trans hda))
  · intro d' hd' hx hk
    obtain ⟨d, hd, hdpid, hdx, hdk, -⟩ := hprocs.back d' hd'
    rw [Owned, ht, hpid, ← hdpid]
    refine hi.owned d hd ?_ ?_
    · cases hb : d.exited
      · rfl
      · rw [hdx hb] at hx; cases hx
    · cases hb : d.killed
      · rfl
      · rw [hdk hb] at hk; cases hk

/-- Thread `i` goes from `p` to `p'` in a section that starts the threads `new`. What the section
took from `p` or from `sshd_pid` must be in `p'` or in `sshd_pid` afterwards. -/
theorem OwnInv.set (hi : OwnInv s) (hlock : LockInv t) {i : Nat} {p p' : Pc} (new : List Pc)
    (hp : s.threads[i]? = some p) (ht : t.threads = s.threads.set i p' ++ new)
    (hprocs : t.procs = s.procs)
    (hknown : ∀ q ∈ p' :: new, ∀ a, q.forked = some a → p.forked = some a ∨ a < 0)
    (hawaited : ∀ q ∈ p' :: new, ∀ a, q.awaited = some a → ∀ d ∈ s.procs, d.pid = a →
      d.exited = true)
    (howned : ∀ d ∈ s.procs, d.exited = false → d.killed = false →
      d.pid = s.sshd_pid ∨ p.startHeld = some d.pid ∨ p.stopHeld = some d.pid →
      d.pid = t.sshd_pid ∨ p'.startHeld = some d.pid ∨ p'.stopHeld = some d.pid) :
    OwnInv t := by
  have hcase : ∀ pc ∈ t.threads, pc ∈ s.threads ∨ pc ∈ p' :: new := by
    intro pc hpc
    rw [ht] at hpc
    rcases mem_set_append hpc with rfl | h | h
    · exact Or.inr List.mem_cons_self
    · exact Or.inl h
    · exact Or.inr (List.mem_cons_of_mem _ h)
  refine ⟨hlock, hprocs ▸ hi.pid_pos, hprocs ▸ hi.distinct, hprocs ▸ hi.reaped_exited, ?_, ?_, ?_⟩
  · intro pc hpc a ha
    rw [hprocs]
    rcases hcase pc hpc with h | h
    · exact hi.known pc h a ha
    · rcases hknown pc h a ha with hpa | hneg
      · exact hi.known p (List.mem_of_getElem? hp) a hpa
      · exact ⟨by omega, fun _ => by omega⟩
  · intro pc hpc
    rw [hprocs]
    rcases hcase pc hpc with h | h
    · exact hi.awaited pc h
    · exact hawaited pc h
  · intro d hd hx hk
    rw [hprocs] at hd
    have hself : p' ∈ t.threads := by
      rw [ht]
      exact List.mem_append_left _ (mem_set_self hp)
    have hkeep : ∀ pc ∈ s.threads, pc ∈ t.threads ∨ pc = p := by
      intro pc hpc
      rw [ht]
      exact (mem_set_of_mem hp hpc).imp_left (List.mem_append_left _)
    have hmoved : d.pid = s.sshd_pid ∨ p.startHeld = some d.pid ∨ p.stopHeld = some d.pid →
        Owned t d.pid := by
      intro h
      rcases howned d hd hx hk h with h | h | h
      · exact Or.inl h
      · exact Or.inr (Or.inl ⟨p', hself, h⟩)
      · exact Or.inr (Or.inr ⟨p', hself, h⟩)
    -- An owner other than `sshd_pid` and thread `i` is where it was.
    rcases hi.owned d hd hx hk with h | ⟨pc, hpc, h⟩ | ⟨pc, hpc, h⟩
    · exact hmoved (Or.inl h)
    · rcases hkeep pc hpc with hin | rfl
      · exact Or.inr (Or.inl ⟨pc, hin, h⟩)
      · exact hmoved (Or.inr (Or.inl h))
    · rcases hkeep pc hpc with hin | rfl
      · exact Or.inr (Or.inr ⟨pc, hin, h⟩)
      · exact hmoved (Or.inr (Or.inr h))

/-- The common case: no thread is started. -/
theorem OwnInv.setPc (hi : OwnInv s) (hlock : LockInv t) {i : Nat} {p p' : Pc}
    (hp : s.threads[i]? = some p) (ht : t.threads = s.threads.set i p')
    (hprocs : t.procs = s.procs) (hknown : ∀ a, p'.forked = some a → p.forked = some a ∨ a < 0)
    (hawaited : ∀ a, p'.awaited = some a → ∀ d ∈ s.procs, d.pid = a → d.exited = true)
    (howned : ∀ d ∈ s.procs, d.exited = false → d.killed = false →
      d.pid = s.sshd_pid ∨ p.startHeld = some d.pid ∨ p.stopHeld = some d.pid →
      d.pid = t.sshd_pid ∨ p'.startHeld = some d.pid ∨ p'.stopHeld = some d.pid) :
    OwnInv t := by
  refine hi.set hlock [] hp (by rw [ht, List.append_nil]) hprocs ?_ ?_ howned
  · intro q hq
    rw [List.mem_singleton.mp hq]
    exact hknown
  · intro q hq
    rw [List.mem_singleton.mp hq]
    exact hawaited

/-- A block that empties `sshd_pid` hands the daemon to the `stop_sshd` it runs. -/
theorem OwnInv.take (hi : OwnInv s) {p p' : Pc} {d : Proc} (hd : d ∈ s.procs)
    (hstart : p'.startHeld = p.startHeld)
    (hstop : s.sshd_pid ≠ 0 → p'.stopHeld = some s.sshd_pid) (hnone : p.stopHeld = none)
    (h : d.pid = s.sshd_pid ∨ p.startHeld = some d.pid ∨ p.stopHeld = some d.pid) :
    d.pid = t.sshd_pid ∨ p'.startHeld = some d.pid ∨ p'.stopHeld = some d.pid := by
  rcases h with h | h | h
  · have hpos := hi.pid_pos d hd
    exact Or.inr (Or.inr (h ▸ hstop (by omega)))
  · exact Or.inr (Or.inl (hstart.trans h))
  · rw [hnone] at h; cases h

/-- At `q` a thread holds what it held at `p`, apart from what it is about to kill. -/
structure Pc.Keeps (p q : Pc) : Prop where
  startHeld : q.startHeld = p.startHeld
  forked : q.forked = p.forked
  awaited : q.awaited = none

/-- Thread `i` enters a block that begins with `stop_sshd`: if there is a daemon it goes on at `q`,
where it kills it, and else at `r`. -/
theorem OwnInv.enter (hi : OwnInv s) (hlock : LockInv t) {i : Nat} {p q r : Pc}
    (hp : s.threads[i]? = some p) (hnone : p.stopHeld = none)
    (ht : t.threads = s.threads.set i (if s.sshd_pid ≠ 0 then q else r))
    (hprocs : t.procs = s.procs) (hheld : q.stopHeld = some s.sshd_pid) (hq : p.Keeps q)
    (hr : p.Keeps r) : OwnInv t := by
  have hkeeps : p.Keeps (if s.sshd_pid ≠ 0 then q else r) := by
    split_ifs
    · exact hq
    · exact hr
  refine hi.setPc hlock hp ht hprocs ?_ ?_ ?_
  · exact fun a ha => Or.inl (hkeeps.forked.symm.trans ha)
  · intro a ha
    rw [hkeeps.awaited] at ha
    cases ha
  · intro d hd hx hk hown
    refine hi.take hd hkeeps.startHeld ?_ hnone hown
    intro hne
    rw [if_pos hne]
    exact hheld

/-- Inside such a block `sshd_pid` is empty, so nothing is lost when it is assigned. -/
theorem OwnInv.untracked (hi : OwnInv s) {i : Nat} {pc : Pc} (h : s.threads[i]? = some pc)
    (hc : pc.critical = true) {d : Proc} (hd : d ∈ s.procs) : d.pid ≠ s.sshd_pid := by
  have hz : s.sshd_pid = 0 := hi.lock.cleared (by rw [hi.lock.holder _ _ h hc]; simp)
  have hpos := hi.pid_pos d hd
  omega

/-- `kill(old)` settles what the `stop_sshd` of thread `i` held. -/
theorem OwnInv.kill (hi : OwnInv s) (hlock : LockInv t) {i : Nat} {p p' : Pc} {old : Int}
    (hp : s.threads[i]? = some p) (hold : p.stopHeld = some old)
    (ht : t.threads = s.threads.set i p') (hpid : t.sshd_pid = s.sshd_pid)
    (hprocs : t.procs = Service.kill old s.procs) (hstart : p'.startHeld = p.startHeld)
    (hknown : ∀ a, p'.forked = some a → p.forked = some a) (hawaited : p'.awaited = none) :
    OwnInv t := by
  have hk : OwnInv { s with procs := Service.kill old s.procs } :=
    hi.later rfl rfl rfl (later_kill old s.procs)
  refine hk.setPc hlock hp ht hprocs (fun a ha => Or.inl (hknown a ha)) (by simp [hawaited]) ?_
  intro d hd hx hkilled h
  rw [hpid]
  rcases h with h | h | h
  · exact Or.inl h
  · exact Or.inr (Or.inl (hstart.trans h))
  · have hnr : d.reaped = false := by
      cases hb : d.reaped
      · rfl
      · rw [hk.reaped_exited d hd hb] at hx; cases hx
    rw [hold, Option.some.injEq] at h
    exact absurd h.symm (not_killed_of_kill hd hkilled hnr)

theorem Pc.forked_of_awaited {pc : Pc} {a : Int} (h : pc.awaited = some a) :
    pc.forked = some a := by
  cases pc <;> first | exact h | cases h

/-- A new daemon belongs to the `do_start` that forked it. -/
theorem OwnInv.fork (hi : OwnInv s) (hlock : LockInv t) {i : Nat} {res : Int}
    (h : s.threads[i]? = some .start_fork) (hpos : 0 < res)
    (hfresh : ∀ d ∈ s.procs, d.pid ≠ res) (ht : t.threads = s.threads.set i (.start_clock res))
    (hpid : t.sshd_pid = s.sshd_pid)
    (hprocs : t.procs = s.procs ++ [({ pid := res } : Proc)]) : OwnInv t := by
  have hcase : ∀ d ∈ t.procs, d ∈ s.procs ∨ d = { pid := res } := by
    intro d hd
    rw [hprocs] at hd
    rcases List.mem_append.mp hd with hd | hd
    · exact Or.inl hd
    · exact Or.inr (List.mem_singleton.mp hd)
  have hold : ∀ pc ∈ t.threads, pc = .start_clock res ∨ pc ∈ s.threads := by
    intro pc hpc
    rw [ht] at hpc
    exact (List.mem_or_eq_of_mem_set hpc).symm
  refine ⟨hlock, ?_, ?_, ?_, ?_, ?_, ?_⟩
  · intro d hd
    rcases hcase d hd with hd | rfl
    · exact hi.pid_pos d hd
    · exact hpos
  · rw [hprocs, List.map_append, List.map_singleton]
    refine List.nodup_append.mpr ⟨hi.distinct, List.nodup_singleton _, ?_⟩
    intro a ha b hb
    obtain ⟨d, hd, rfl⟩ := List.mem_map.mp ha
    rw [List.mem_singleton.mp hb]
    exact hfresh d hd
  · intro d hd hr
    rcases hcase d hd with hd | rfl
    · exact hi.reaped_exited d hd hr
    · cases hr
  · intro pc hpc a ha
    rw [hprocs]
    rcases hold pc hpc with rfl | hpc
    · obtain rfl : res = a := Option.some.inj ha
      exact ⟨by omega, fun _ => ⟨_, List.mem_append_right _ (List.mem_singleton_self _), rfl⟩⟩
    · obtain ⟨hne, hk⟩ := hi.known pc hpc a ha
      refine ⟨hne, fun ha => ?_⟩
      obtain ⟨d, hd, hda⟩ := hk ha
      exact ⟨d, List.mem_append_left _ hd, hda⟩
  · intro pc hpc a ha d hd hda
    rcases hold pc hpc with rfl | hpc
    · cases ha
    · rcases hcase d hd with hd | rfl
      · exact hi.awaited pc hpc a ha d hd hda
      · -- A watcher knows its daemon from an earlier fork, which returned another pid.
        obtain ⟨d, hd, hpid⟩ := (hi.known pc hpc a (Pc.forked_of_awaited ha)).2 (hda ▸ hpos)
        exact absurd (hpid.trans hda.symm) (hfresh d hd)
  · intro d hd hx hk
    rcases hcase d hd with hd | rfl
    · rw [Owned, hpid, ht]
      rcases hi.owned d hd hx hk with h' | ⟨pc, hpc, h'⟩ | ⟨pc, hpc, h'⟩
      · exact Or.inl h'
      · rcases mem_set_of_mem h hpc with hin | rfl
        · exact Or.inr (Or.inl ⟨pc, hin, h'⟩)
        · cases h'
      · rcases mem_set_of_mem h hpc with hin | rfl
        · exact Or.inr (Or.inr ⟨pc, hin, h'⟩)
        · cases h'
    · exact Or.inr (Or.inl ⟨.start_clock res, ht ▸ mem_set_self h, rfl⟩)

/-- `waitpid` reaps the one process that has this pid. -/
theorem OwnInv.reap (hi : OwnInv s) (hlock : LockInv t) {i j : Nat} {pid : Int} {d : Proc}
    (h : s.threads[i]? = some (.watch_wait pid)) (hd : s.procs[j]? = some d)
    (hx : d.exited = true) (ha : d.awaited pid = true)
    (ht : t.threads = s.threads.set i (.watch_clock pid)) (hsame : t.sshd_pid = s.sshd_pid)
    (hprocs : t.procs = s.procs.set j { d with reaped := true }) : OwnInv t := by
  have hlater := later_reaped hd hx
  have hr : OwnInv { s with procs := s.procs.set j { d with reaped := true } } :=
    hi.later rfl rfl rfl hlater
  refine hr.setPc hlock h ht hprocs (fun _ ha => Or.inl ha) ?_ ?_
  · intro a ha' d' hd' hda
    obtain rfl : pid = a := Option.some.inj ha'
    obtain ⟨d₀, hd₀, hpid, hx₀, -⟩ := hlater.back d' hd'
    have hpos := hi.pid_pos d₀ hd₀
    have hmatch : d.pid = pid := by
      have hcase : pid = d.pid ∨ pid = -1 := by
        simp only [Proc.awaited, Bool.and_eq_true, Bool.or_eq_true, beq_iff_eq] at ha
        exact ha.2
      omega
    obtain rfl : d₀ = d :=
      List.inj_on_of_nodup_map hi.distinct hd₀ (List.mem_of_getElem? hd) (by omega)
    exact hx₀ hx
  · intro d' _ _ _ hown
    rw [hsame]
    exact hown

theorem Caller.next_forked (k : Caller) : k.next.forked = none := by
  cases k <;> rfl

theorem Caller.next_startHeld (k : Caller) : k.next.startHeld = none := by
  cases k <;> rfl

theorem Caller.next_awaited (k : Caller) : k.next.awaited = none := by
  cases k <;> rfl

theorem Command.first_forked (c : Command) : (c.first digit).forked = none := by
  cases c with
  | onCreate file => simp only [Command.first]; split_ifs <;> rfl
  | start => rfl
  | stop => rfl
  | onDestroy => rfl

theorem Command.first_awaited (c : Command) : (c.first digit).awaited = none := by
  cases c with
  | onCreate file => simp only [Command.first]; split_ifs <;> rfl
  | start => rfl
  | stop => rfl
  | onDestroy => rfl

theorem OwnInv.step (hi : OwnInv s) (hfresh : FreshPid s e) (h : Moves digit s e t) :
    OwnInv t := by
  have hlock : LockInv t := hi.lock.step h
  cases h with
  | command h =>
    refine hi.setPc hlock h rfl rfl (by simp [Command.first_forked])
      (by simp [Command.first_awaited]) ?_
    intro d hd hx hk hown
    exact Or.inl (by simpa [Pc.startHeld, Pc.stopHeld] using hown)
  | stop_enter h hl =>
    exact hi.enter hlock h rfl rfl rfl rfl ⟨rfl, rfl, rfl⟩
      ⟨Caller.next_startHeld _, Caller.next_forked _, Caller.next_awaited _⟩
  | stop_kill h =>
    exact hi.kill hlock h rfl rfl rfl rfl (by rw [Caller.next_startHeld]; rfl)
      (by simp [Caller.next_forked]) (Caller.next_awaited _)
  | start_clock h =>
    exact hi.setPc hlock h rfl rfl (fun _ ha => Or.inl ha) (fun _ ha => nomatch ha)
      (fun _ _ _ _ hown => hown)
  | start_enter h hl =>
    exact hi.enter hlock h rfl rfl rfl rfl ⟨rfl, rfl, rfl⟩ ⟨rfl, rfl, rfl⟩
  | start_kill h => exact hi.kill hlock h rfl rfl rfl rfl rfl (fun _ ha => ha) rfl
  | @start_set i now pid u h =>
    refine hi.setPc hlock h rfl rfl (fun _ ha => Or.inl ha) (fun _ ha => nomatch ha) ?_
    intro d hd hx hk hown
    rcases hown with hown | hown | hown
    · exact absurd hown (hi.untracked h rfl hd)
    · exact Or.inl (Option.some.inj hown).symm
    · cases hown
  | @start_spawn i now pid h =>
    refine hi.set hlock [.watch_wait pid] h rfl rfl ?_ ?_ ?_
    · intro q hq a ha
      simp only [List.mem_cons, List.not_mem_nil, or_false] at hq
      rcases hq with rfl | rfl
      · cases ha
      · exact Or.inl ha
    · intro q hq a ha
      simp only [List.mem_cons, List.not_mem_nil, or_false] at hq
      rcases hq with rfl | rfl <;> cases ha
    · intro d hd hx hk hown
      exact Or.inl (by simpa [Pc.startHeld, Pc.stopHeld] using hown)
  | file_enter h hl =>
    exact hi.enter hlock h rfl rfl rfl rfl ⟨rfl, rfl, rfl⟩ ⟨rfl, rfl, rfl⟩
  | file_kill h => exact hi.kill hlock h rfl rfl rfl rfl rfl (fun _ ha => ha) rfl
  | @file_set i now pid h =>
    refine hi.setPc hlock h rfl rfl (fun _ ha => nomatch ha) (fun _ ha => nomatch ha) ?_
    intro d hd hx hk hown
    rcases hown with hown | hown | hown
    · exact absurd hown (hi.untracked h rfl hd)
    · cases hown
    · cases hown
  | watch_clock h =>
    exact hi.setPc hlock h rfl rfl (fun _ ha => Or.inl ha)
      (fun _ ha => hi.awaited _ (List.mem_of_getElem? h) _ ha) (fun _ _ _ _ hown => hown)
  | @forget i now pid u h hl hpid =>
    refine hi.setPc hlock h rfl rfl ?_ ?_ ?_
    · split_ifs <;> exact fun _ ha => nomatch ha
    · split_ifs <;> exact fun _ ha => nomatch ha
    · intro d hd hx hk hown
      -- The daemon that is forgotten is the one whose `waitpid` returned: it has exited.
      rcases hown with hown | hown | hown
      · have hexit := hi.awaited _ (List.mem_of_getElem? h) pid rfl d hd (hown.trans hpid)
        rw [hexit] at hx
        cases hx
      · cases hown
      · cases hown
  | ignore h hl hpid =>
    exact hi.setPc hlock h rfl rfl (fun _ ha => nomatch ha) (fun _ ha => nomatch ha)
      (fun _ _ _ _ hown => hown)
  | @fork i res h hf =>
    by_cases hpos : 0 < res
    · exact hi.fork hlock h hpos (hfresh hpos) (by simp [show res ≠ 0 by omega]) rfl
        (by simp [hpos])
    · -- No process was made: `res` is 0 or -1.
      refine hi.setPc hlock h rfl (by simp [hpos]) ?_ ?_ ?_
      · split_ifs with hz
        · intro a ha
          obtain rfl : res = a := Option.some.inj ha
          exact Or.inr (by omega)
        · exact fun _ ha => nomatch ha
      · split_ifs <;> exact fun _ ha => nomatch ha
      · intro d hd hx hk hown
        exact Or.inl (by simpa [Pc.startHeld, Pc.stopHeld] using hown)
  | reap h hd hx ha => exact hi.reap hlock h hd hx ha rfl rfl rfl
  | @nochild i pid h hn =>
    refine hi.setPc hlock h rfl rfl (fun _ ha => Or.inl ha) ?_ (fun _ _ _ _ hown => hown)
    intro a ha d hd hda
    have hreaped : d.reaped = true := by
      have hnot := hn d hd
      simpa [Proc.awaited, hda, Option.some.inj ha] using hnot
    exact hi.reaped_exited d hd hreaped
  | exit hd hx => exact hi.later rfl rfl rfl (later_exited hd)

/-- The runs in which `start_sshd` returns no pid twice. -/
abbrev FreshRun (digit : Char → Option Nat) : State → List Event → State → Prop :=
  Runs.Run (Runs.guarded (Runs.ofFun (Service.step digit)) FreshPid)

theorem FreshRun.ownInv {es : List Event} (h : FreshRun digit {} es s) : OwnInv s :=
  h.invariant (fun _ _ _ hi hs => hi.step hs.1 (step_moves hs.2)) OwnInv.init

/-- Every thread is between commands or waits for its daemon, and what was killed is gone. -/
def Quiescent (s : State) : Prop :=
  (∀ pc ∈ s.threads, pc = .idle ∨ ∃ pid, pc = .watch_wait pid) ∧
    ∀ d ∈ s.procs, d.killed = true → d.exited = true

theorem OwnInv.tracked (hi : OwnInv s) (hq : Quiescent s) {d : Proc} (hd : d ∈ s.procs)
    (hx : d.exited = false) : d.pid = s.sshd_pid := by
  have hk : d.killed = false := by
    cases hb : d.killed
    · rfl
    · rw [hq.2 d hd hb] at hx; cases hx
  rcases hi.owned d hd hx hk with h | ⟨pc, hpc, h⟩ | ⟨pc, hpc, h⟩
  · exact h
  · rcases hq.1 pc hpc with rfl | ⟨pid, rfl⟩ <;> cases h
  · rcases hq.1 pc hpc with rfl | ⟨pid, rfl⟩ <;> cases h

/-- **No orphaned daemon.** A daemon that is alive and has not been sent `SIGKILL` is tracked, or
forked by a `do_start` that has not entered its synchronized block (or is the one thread inside such
a block), or taken by a `stop_sshd` that is about to kill it. At quiescence at most one daemon is
alive, the tracked one. -/
theorem no_orphaned_daemon {es : List Event} (h : FreshRun digit {} es s) :
    (∀ d ∈ s.procs, d.exited = false → d.killed = false →
      d.pid = s.sshd_pid ∨
      (∃ pc ∈ s.threads, pc.startHeld = some d.pid ∧ (s.lock = none → pc.critical = false)) ∨
      ∃ pc ∈ s.threads, pc.stopHeld = some d.pid) ∧
    (Quiescent s → (∀ d ∈ s.procs, d.exited = false → d.pid = s.sshd_pid) ∧
      (s.procs.filter fun d => !d.exited).length ≤ 1) := by
  have hi : OwnInv s := h.ownInv
  refine ⟨fun d hd hx hk => ?_, fun hq => ⟨fun d hd hx => hi.tracked hq hd hx, ?_⟩⟩
  · rcases hi.owned d hd hx hk with h | ⟨pc, hpc, h⟩ | h
    · exact Or.inl h
    · refine Or.inr (Or.inl ⟨pc, hpc, h, fun hfree => ?_⟩)
      obtain ⟨i, hlt, rfl⟩ := List.getElem_of_mem hpc
      cases hc : s.threads[i].critical
      · rfl
      · rw [hi.lock.holder i _ (List.getElem?_eq_getElem hlt) hc] at hfree
        cases hfree
    · exact Or.inr (Or.inr h)
  · -- Two live daemons would both have the pid `sshd_pid`.
    have hsub : ((s.procs.filter fun d => !d.exited).map Proc.pid).Nodup :=
      hi.distinct.sublist (List.filter_sublist.map Proc.pid)
    have hall : ∀ p ∈ (s.procs.filter fun d => !d.exited).map Proc.pid, p = s.sshd_pid := by
      intro p hp
      obtain ⟨d, hd, rfl⟩ := List.mem_map.mp hp
      obtain ⟨hd, hx⟩ := List.mem_filter.mp hd
      exact hi.tracked hq hd (by simpa using hx)
    rw [List.eq_replicate_of_mem hall, List.nodup_replicate, List.length_map] at hsub
    exact hsub

/-- A start, a crash and the automatic restart. -/
def restartEvents : List Event :=
  [.command .start, .advance 0 0, .fork 0 100, .advance 0 5, .advance 0 5, .advance 0 5,
    .advance 0 5, .exit 0, .waitpid 1 (some 0), .advance 1 6, .advance 1 6, .advance 1 6,
    .fork 1 101, .advance 1 7, .advance 1 7, .advance 1 7, .advance 1 7]

def restartedState : State where
  sshd_pid := 101
  sshd_when := 7
  sshd_duration := 2
  threads := [.idle, .idle, .watch_wait 101]
  procs := [{ pid := 100, exited := true, reaped := true }, { pid := 101 }]

/-- After it the second daemon is the tracked one. -/
theorem no_orphaned_daemon_restart :
    FreshRun asciiDigit {} restartEvents restartedState ∧ Quiescent restartedState ∧
      (∀ d ∈ restartedState.procs, d.exited = false → d.pid = 101) ∧
      (restartedState.procs.filter fun d => !d.exited).length ≤ 1 := by
  have hrun : FreshRun asciiDigit {} restartEvents restartedState :=
    Runs.run_guarded_of_exec (by decide)
  have hq : Quiescent restartedState := by
    constructor <;> simp [restartedState]
  exact ⟨hrun, hq, (no_orphaned_daemon hrun).2 hq⟩

end SimpleSshd.Service
