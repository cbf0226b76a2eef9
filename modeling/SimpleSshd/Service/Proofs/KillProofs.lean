import SimpleSshd.Service.Proofs.StepsProofs

/-!
# Proofs: whom the service kills

The argument of the native `kill` comes from `sshd_pid`, which holds what `start_sshd` returned or
what the pid file said. Both can be negative, and a pid can outlive its daemon: the watcher reaps a
daemon some steps before `maybe_restart` forgets its pid.
-/

namespace SimpleSshd.Service

variable {digit : Char → Option Nat} {s t : State} {e : Event}

/-! ## Positive pids -/

structure PosInv (s : State) : Prop where
  tracked : 0 ≤ s.sshd_pid
  threads : ∀ pc ∈ s.threads, ∀ p ∈ pc.pids, 0 < p

theorem PosInv.init : PosInv {} := by
  refine ⟨Int.le_refl _, fun pc hpc p hp => ?_⟩
  rw [List.mem_singleton.mp hpc] at hp
  cases hp

theorem PosInv.set (hi : PosInv s) {i : Nat} {p : Pc} (new : List Pc)
    (ht : t.threads = s.threads.set i p ++ new) (hpid : 0 ≤ t.sshd_pid)
    (hp : ∀ q ∈ p :: new, ∀ a ∈ q.pids, 0 < a) : PosInv t := by
  refine ⟨hpid, fun pc hpc => ?_⟩
  rw [ht] at hpc
  rcases mem_set_append hpc with rfl | h | h
  · exact hp pc List.mem_cons_self
  · exact hi.threads pc h
  · exact hp pc (List.mem_cons_of_mem _ h)

theorem PosInv.setPc (hi : PosInv s) {i : Nat} {p : Pc} (ht : t.threads = s.threads.set i p)
    (hpid : 0 ≤ t.sshd_pid) (hp : ∀ a ∈ p.pids, 0 < a) : PosInv t :=
  hi.set [] (by rw [ht, List.append_nil]) hpid fun q hq => by
    rw [List.mem_singleton.mp hq]
    exact hp

theorem Caller.next_pids (k : Caller) : k.next.pids = [] := by
  cases k <;> rfl

theorem Command.first_pids {c : Command} (h : Event.sane digit (.command c) = true) :
    ∀ a ∈ (c.first digit).pids, 0 < a := by
  cases c with
  | onCreate file =>
    simp only [Event.sane, decide_eq_true_eq] at h
    simp only [Command.first]
    split_ifs with hne
    · intro a ha
      rw [List.mem_singleton.mp ha]
      omega
    · intro a ha; cases ha
  | start => intro a ha; cases ha
  | stop => intro a ha; cases ha
  | onDestroy => intro a ha; cases ha

theorem PosInv.step (hi : PosInv s) (hsane : e.sane digit = true) (h : Moves digit s e t) :
    PosInv t := by
  have hold : ∀ {i : Nat} {pc : Pc}, s.threads[i]? = some pc → ∀ a ∈ pc.pids, 0 < a :=
    fun h => hi.threads _ (List.mem_of_getElem? h)
  -- What a block takes out of `sshd_pid` is not 0.
  have htake : s.sshd_pid ≠ 0 → 0 < s.sshd_pid := fun hne => by
    have := hi.tracked
    omega
  have hboth : ∀ {i : Nat} {pc : Pc} {pid : Int}, s.threads[i]? = some pc → pid ∈ pc.pids →
      s.sshd_pid ≠ 0 → ∀ a ∈ [pid, s.sshd_pid], 0 < a := by
    intro i pc pid h hpid hne a ha
    rcases List.mem_cons.mp ha with rfl | ha
    · exact hold h _ hpid
    · rw [List.mem_singleton.mp ha]
      exact htake hne
  cases h with
  | command h => exact hi.setPc rfl hi.tracked (Command.first_pids hsane)
  | @stop_enter i now k h hl =>
    refine hi.setPc rfl (Int.le_refl _) ?_
    split_ifs with hne
    · intro a ha
      rw [List.mem_singleton.mp ha]
      exact htake hne
    · simp [Caller.next_pids]
  | stop_kill h => exact hi.setPc rfl hi.tracked (by simp [Caller.next_pids])
  | start_clock h => exact hi.setPc rfl hi.tracked fun a ha => hold h a ha
  | @start_enter i now pid u h hl =>
    refine hi.setPc rfl (Int.le_refl _) ?_
    split_ifs with hne
    · exact hboth h List.mem_cons_self hne
    · exact fun a ha => hold h a ha
  | start_kill h =>
    exact hi.setPc rfl hi.tracked fun a ha => hold h a (List.mem_cons.mpr
      (Or.inl (List.mem_singleton.mp ha)))
  | start_set h => exact hi.setPc rfl (Int.le_of_lt (hold h _ List.mem_cons_self)) fun a ha => hold h a ha
  | start_spawn h =>
    refine hi.set _ rfl hi.tracked ?_
    intro q hq
    simp only [List.mem_cons, List.not_mem_nil, or_false] at hq
    rcases hq with rfl | rfl
    · intro a ha; cases ha
    · exact fun a ha => hold h a ha
  | @file_enter i now pid h hl =>
    refine hi.setPc rfl (Int.le_refl _) ?_
    split_ifs with hne
    · exact hboth h List.mem_cons_self hne
    · exact fun a ha => hold h a ha
  | file_kill h =>
    exact hi.setPc rfl hi.tracked fun a ha => hold h a (List.mem_cons.mpr
      (Or.inl (List.mem_singleton.mp ha)))
  | file_set h =>
    exact hi.setPc rfl (Int.le_of_lt (hold h _ List.mem_cons_self)) fun a ha => nomatch ha
  | watch_clock h => exact hi.setPc rfl hi.tracked fun a ha => hold h a ha
  | forget h hl hpid =>
    refine hi.setPc rfl (Int.le_refl _) ?_
    split_ifs <;> exact fun a ha => nomatch ha
  | ignore h hl hpid => exact hi.setPc rfl hi.tracked fun a ha => nomatch ha
  | @fork i res h hf =>
    simp only [Event.sane, decide_eq_true_eq] at hsane
    refine hi.setPc rfl hi.tracked ?_
    split_ifs with hne
    · intro a ha
      rw [List.mem_singleton.mp ha]
      omega
    · intro a ha; cases ha
  | reap h hd hx ha => exact hi.setPc rfl hi.tracked fun a ha => hold h a ha
  | nochild h hn => exact hi.setPc rfl hi.tracked fun a ha => hold h a ha
  | exit hd hx => exact ⟨hi.tracked, hi.threads⟩

/-- Where the argument of a `kill` comes from. -/
theorem killArg_held {p : Int} (h : killArg s e = some p) :
    ∃ pc ∈ s.threads, pc.stopHeld = some p ∧ p ∈ pc.pids := by
  cases e with
  | advance i now =>
    simp only [killArg] at h
    split at h
    case h_1 k pid hpc =>
      cases h
      exact ⟨_, List.mem_of_getElem? hpc, rfl, List.mem_cons_self⟩
    case h_2 pid u old hpc =>
      cases h
      exact ⟨_, List.mem_of_getElem? hpc, rfl, List.mem_cons_of_mem _ List.mem_cons_self⟩
    case h_3 pid old hpc =>
      cases h
      exact ⟨_, List.mem_of_getElem? hpc, rfl, List.mem_cons_of_mem _ List.mem_cons_self⟩
    case h_4 => cases h
  | _ => cases h

/-- **`kill` is called with positive pids** in every run in which no `fork` fails and no pid file holds
a negative number. -/
theorem kill_positive {es : List Event} {p : Int} (h : Reaches digit es s)
    (hes : ∀ e ∈ es, e.sane digit = true) (hk : killArg s e = some p) : 0 < p := by
  have hi : PosInv s :=
    (h.guard_events hes).invariant (fun _ _ _ hi hs => hi.step hs.1 (step_moves hs.2)) PosInv.init
  obtain ⟨pc, hpc, -, hp⟩ := killArg_held hk
  exact hi.threads pc hpc p hp

/-- A start, then a stop: the pid that is killed is the child's. -/
theorem kill_positive_stop : ∃ s : State,
    Reaches asciiDigit [.command .start, .advance 0 0, .fork 0 100, .advance 0 5, .advance 0 5,
      .advance 0 5, .advance 0 5, .command .stop, .advance 0 8] s ∧
      killArg s (.advance 0 8) = some 100 ∧ (0 : Int) < 100 := by
  have h : Reaches asciiDigit [.command .start, .advance 0 0, .fork 0 100, .advance 0 5,
      .advance 0 5, .advance 0 5, .advance 0 5, .command .stop, .advance 0 8]
      { sshd_when := 5, threads := [.stop_kill .stop 100, .watch_wait 100],
        procs := [{ pid := 100 }] } :=
    Runs.run_of_exec (by decide)
  exact ⟨_, h, rfl, kill_positive (e := .advance 0 8) h (by decide) rfl⟩

/-- **`kill(-1)` is reachable**, by a `fork` that fails and a stop after it, and so is `kill(-5)`, by a
pid file with that number. -/
theorem kill_negative :
    (∃ s t : State, Reaches asciiDigit [.command .start, .advance 0 0, .fork 0 (-1), .advance 0 5,
        .advance 0 5, .advance 0 5, .advance 0 5, .command .stop, .advance 0 8] s ∧
      step asciiDigit s (.advance 0 9) = some t ∧ killArg s (.advance 0 9) = some (-1)) ∧
    ∃ s t : State, Reaches asciiDigit [.command (.onCreate (some ['-', '5', '\n'])), .advance 0 0,
        .advance 0 5, .advance 0 5] s ∧
      step asciiDigit s (.advance 0 6) = some t ∧ killArg s (.advance 0 6) = some (-5) := by
  constructor
  · have h : Reaches asciiDigit [.command .start, .advance 0 0, .fork 0 (-1), .advance 0 5,
        .advance 0 5, .advance 0 5, .advance 0 5, .command .stop, .advance 0 8]
        { sshd_when := 5, threads := [.stop_kill .stop (-1), .watch_wait (-1)] } :=
      Runs.run_of_exec (by decide)
    exact ⟨_, _, h, rfl, rfl⟩
  · have h : Reaches asciiDigit [.command (.onCreate (some ['-', '5', '\n'])), .advance 0 0,
        .advance 0 5, .advance 0 5]
        { sshd_when := 5, threads := [.stop_kill .onCreate (-5)] } :=
      Runs.run_of_exec (by decide)
    exact ⟨_, _, h, rfl, rfl⟩

/-! ## Recycled pids -/

/-- No `stop_sshd` reads `sshd_pid` while it names a reaped daemon, and no `waitpid` reaps a daemon
that a `stop_sshd` has read and not yet killed. -/
def ReadsLive (s : State) : Event → Prop
  | .advance i _ => (∃ pc ∈ s.threads[i]?, pc.atStopBlock = true) → ¬ Stale s.procs s.sshd_pid
  | .waitpid _ (some j) => ∀ d ∈ s.procs[j]?, ∀ pc ∈ s.threads, pc.stopHeld ≠ some d.pid
  | _ => True

instance (s : State) (e : Event) : Decidable (ReadsLive s e) := by
  unfold ReadsLive
  split <;> infer_instance

/-- A pid becomes stale only when a process that has it is reaped. -/
theorem not_stale_of_pids {ds ds' : List Proc} {p : Int} (h : ¬ Stale ds p)
    (hnew : (∃ d ∈ ds', d.pid = p) → (∃ d ∈ ds, d.pid = p) ∨ ∃ d ∈ ds', d.pid = p ∧ d.reaped = false)
    (hold : ∀ d ∈ ds, d.pid = p → d.reaped = false → ∃ d' ∈ ds', d'.pid = p ∧ d'.reaped = false) :
    ¬ Stale ds' p := by
  rintro ⟨hex, hall⟩
  have hlive : ∃ d ∈ ds', d.pid = p ∧ d.reaped = false := by
    rcases hnew hex with hex | hlive
    · have hn : ¬ ∀ d ∈ ds, d.pid = p → d.reaped = true := fun hall => h ⟨hex, hall⟩
      push Not at hn
      obtain ⟨d, hd, hdp, hr⟩ := hn
      exact hold d hd hdp (by simpa using hr)
    · exact hlive
  obtain ⟨d, hd, hdp, hr⟩ := hlive
  rw [hall d hd hdp] at hr
  cases hr

theorem not_stale_kill {ds : List Proc} {p : Int} (q : Int) (h : ¬ Stale ds p) :
    ¬ Stale (kill q ds) p := by
  refine not_stale_of_pids h ?_ ?_
  · rintro ⟨d', hd', rfl⟩
    obtain ⟨d, hd, hpid, -⟩ := (later_kill q ds).back d' hd'
    exact Or.inl ⟨d, hd, hpid⟩
  · intro d hd hdp hr
    refine ⟨_, List.mem_map_of_mem hd, ?_⟩
    split_ifs <;> exact ⟨hdp, hr⟩

theorem not_stale_fork {ds : List Proc} {p : Int} (res : Int) (h : ¬ Stale ds p) :
    ¬ Stale (ds ++ [{ pid := res }]) p := by
  refine not_stale_of_pids h ?_ ?_
  · rintro ⟨d, hd, rfl⟩
    rcases List.mem_append.mp hd with hd | hd
    · exact Or.inl ⟨d, hd, rfl⟩
    · rw [List.mem_singleton.mp hd]
      exact Or.inr ⟨_, List.mem_append_right _ (List.mem_singleton_self _), rfl, rfl⟩
  · exact fun d hd hdp hr => ⟨d, List.mem_append_left _ hd, hdp, hr⟩

theorem not_stale_set {ds : List Proc} {p : Int} {j : Nat} {d x : Proc} (hd : ds[j]? = some d)
    (hpid : x.pid = d.pid) (hx : d.pid = p → x.reaped = d.reaped) (h : ¬ Stale ds p) :
    ¬ Stale (ds.set j x) p := by
  refine not_stale_of_pids h ?_ ?_
  · rintro ⟨d', hd', rfl⟩
    rcases List.mem_or_eq_of_mem_set hd' with hd' | rfl
    · exact Or.inl ⟨d', hd', rfl⟩
    · exact Or.inl ⟨d, List.mem_of_getElem? hd, hpid.symm⟩
  · intro y hy hyp hr
    rcases mem_set_of_mem hd hy with hin | rfl
    · exact ⟨y, hin, hyp, hr⟩
    · obtain ⟨hj, -⟩ := List.getElem?_eq_some_iff.mp hd
      exact ⟨x, List.mem_set hj x, hpid.trans hyp, (hx hyp).trans hr⟩

/-- What a `stop_sshd` is about to kill is not stale. -/
def HeldLive (s : State) : Prop :=
  ∀ pc ∈ s.threads, ∀ p, pc.stopHeld = some p → ¬ Stale s.procs p

theorem HeldLive.set (hi : HeldLive s) {i : Nat} {p' : Pc} (new : List Pc)
    (ht : t.threads = s.threads.set i p' ++ new)
    (hprocs : ∀ pc ∈ s.threads, ∀ p, pc.stopHeld = some p → ¬ Stale s.procs p → ¬ Stale t.procs p)
    (hp : ∀ q ∈ p' :: new, ∀ p, q.stopHeld = some p → ¬ Stale t.procs p) : HeldLive t := by
  intro pc hpc p hheld
  rw [ht] at hpc
  rcases mem_set_append hpc with rfl | h | h
  · exact hp pc List.mem_cons_self p hheld
  · exact hprocs pc h p hheld (hi pc h p hheld)
  · exact hp pc (List.mem_cons_of_mem _ h) p hheld

/-- The common case: the thread goes to a place where it holds nothing to kill. -/
theorem HeldLive.setPc (hi : HeldLive s) {i : Nat} {p' : Pc} (ht : t.threads = s.threads.set i p')
    (hprocs : ∀ p, ¬ Stale s.procs p → ¬ Stale t.procs p) (hp : p'.stopHeld = none) :
    HeldLive t := by
  refine hi.set [] (by rw [ht, List.append_nil]) (fun _ _ p _ => hprocs p) ?_
  intro q hq p hheld
  rw [List.mem_singleton.mp hq, hp] at hheld
  cases hheld

/-- A block of `stop_sshd` takes what is in `sshd_pid`. -/
theorem HeldLive.take (hi : HeldLive s) {i : Nat} {p' : Pc} (ht : t.threads = s.threads.set i p')
    (hprocs : t.procs = s.procs) (hlive : ¬ Stale s.procs s.sshd_pid)
    (hp : ∀ p, p'.stopHeld = some p → p = s.sshd_pid) : HeldLive t := by
  refine hi.set [] (by rw [ht, List.append_nil]) (fun _ _ p _ h => hprocs ▸ h) ?_
  intro q hq p hheld
  rw [List.mem_singleton.mp hq] at hheld
  rw [hprocs, hp p hheld]
  exact hlive

theorem Caller.next_stopHeld (k : Caller) : k.next.stopHeld = none := by
  cases k <;> rfl

theorem HeldLive.step (hi : HeldLive s) (hok : ReadsLive s e) (h : Moves digit s e t) :
    HeldLive t := by
  have hkeep : ∀ p, ¬ Stale s.procs p → ¬ Stale s.procs p := fun _ h => h
  cases h with
  | @command c h =>
    refine hi.setPc rfl hkeep ?_
    cases c with
    | onCreate file => simp only [Command.first]; split_ifs <;> rfl
    | start => rfl
    | stop => rfl
    | onDestroy => rfl
  | @stop_enter i now k h hl =>
    refine hi.take rfl rfl (hok ⟨_, h, rfl⟩) ?_
    intro p hp
    split_ifs at hp
    · exact (Option.some.inj hp).symm
    · rw [Caller.next_stopHeld] at hp; cases hp
  | stop_kill h => exact hi.setPc rfl (fun _ => not_stale_kill _) (Caller.next_stopHeld _)
  | start_clock h => exact hi.setPc rfl hkeep rfl
  | start_enter h hl =>
    refine hi.take rfl rfl (hok ⟨_, h, rfl⟩) ?_
    intro p hp
    split_ifs at hp
    · exact (Option.some.inj hp).symm
    · cases hp
  | start_kill h => exact hi.setPc rfl (fun _ => not_stale_kill _) rfl
  | start_set h => exact hi.setPc rfl hkeep rfl
  | start_spawn h =>
    refine hi.set _ rfl (fun _ _ p _ => hkeep p) ?_
    intro q hq p hp
    simp only [List.mem_cons, List.not_mem_nil, or_false] at hq
    rcases hq with rfl | rfl <;> cases hp
  | file_enter h hl =>
    refine hi.take rfl rfl (hok ⟨_, h, rfl⟩) ?_
    intro p hp
    split_ifs at hp
    · exact (Option.some.inj hp).symm
    · cases hp
  | file_kill h => exact hi.setPc rfl (fun _ => not_stale_kill _) rfl
  | file_set h => exact hi.setPc rfl hkeep rfl
  | watch_clock h => exact hi.setPc rfl hkeep rfl
  | forget h hl hpid => exact hi.setPc rfl hkeep (by split_ifs <;> rfl)
  | ignore h hl hpid => exact hi.setPc rfl hkeep rfl
  | @fork i res h hf =>
    refine hi.setPc rfl ?_ (by split_ifs <;> rfl)
    intro p hp
    simp only [State.setPc_procs]
    split_ifs
    · exact not_stale_fork res hp
    · exact hp
  | @reap i j pid d h hd hx ha =>
    refine hi.set [] (List.append_nil _).symm ?_ ?_
    · -- The pid reaped is not one that is about to be killed.
      intro pc hpc p hheld hp
      refine not_stale_set hd rfl ?_ hp
      rintro rfl
      exact absurd hheld (hok d hd pc hpc)
    · intro q hq p hp
      rw [List.mem_singleton.mp hq] at hp
      cases hp
  | nochild h hn => exact hi.setPc rfl hkeep rfl
  | exit hd hx => exact fun pc hpc p hheld => not_stale_set hd rfl (fun _ => rfl) (hi pc hpc p hheld)

end SimpleSshd.Service
