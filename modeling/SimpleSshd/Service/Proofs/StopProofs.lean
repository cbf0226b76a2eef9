import SimpleSshd.Service.Proofs.OwnershipProofs

/-!
# Proofs: a stop request is final, unless it falls into a restart

A watcher decides to restart under the lock and acts on it after releasing the lock. A stop whose
block runs in between finds `sshd_pid` empty, and the watcher then starts a daemon that nobody asked
for. Where no thread is between that decision and the assignment of `sshd_pid`, a stop is final.
-/

namespace SimpleSshd.Service

/-- When the block of a stop runs, no thread is inside `do_start` with `sshd_pid` still to assign. -/
def StopAlone (s : State) : Event → Prop
  | .advance i _ => s.threads[i]? = some (.stop_enter .stop) →
      ∀ pc ∈ s.threads, pc.willAssign = false
  | _ => True

instance (s : State) : (e : Event) → Decidable (StopAlone s e)
  | .advance i _ => inferInstanceAs (Decidable (s.threads[i]? = some (.stop_enter .stop) →
      ∀ pc ∈ s.threads, pc.willAssign = false))
  | .command _ | .fork .. | .waitpid .. | .exit _ => .isTrue trivial

/-- The main thread's stop leaves `stop_sshd`. -/
def StopReturns (s : State) (e : Event) (t : State) : Prop :=
  (∃ now, e = .advance 0 now) ∧ (∃ pc, s.threads[0]? = some pc ∧ pc.inStop = true) ∧
    t.threads[0]? = some .idle

/-- The states after a stop has finished executing `stop_sshd`, no start command having been issued
since. `ok` restricts the steps of the run. -/
inductive AfterStop (digit : Char → Option Nat) (ok : State → Event → Prop) : State → Prop
  | returned {es : List Event} {s t : State} {e : Event}
      (h : Runs.Run (Runs.guarded (Runs.ofFun (step digit)) ok) {} es s)
      (hs : Runs.guarded (Runs.ofFun (step digit)) ok s e t) (hr : StopReturns s e t) :
      AfterStop digit ok t
  | later {t u : State} {e : Event} (h : AfterStop digit ok t)
      (hs : Runs.guarded (Runs.ofFun (step digit)) ok t e u) (he : e.startless = true) :
      AfterStop digit ok u

variable {digit : Char → Option Nat} {ok : State → Event → Prop} {s t u : State} {e : Event}

theorem AfterStop.run {fs : List Event} (h : AfterStop digit ok t)
    (hr : Runs.Run (Runs.guarded (Runs.ofFun (step digit)) ok) t fs u)
    (hfs : ∀ e ∈ fs, e.startless = true) : AfterStop digit ok u := by
  induction hr with
  | nil => exact h
  | cons hs _ ih =>
    exact ih (h.later hs (hfs _ List.mem_cons_self)) fun e he => hfs e (List.mem_cons_of_mem _ he)

/-- The run up to the stop, the step by which the stop returns and the run after it. -/
theorem AfterStop.of_exec [∀ s e, Decidable (ok s e)] (es : List Event) (s : State) (e : Event)
    (fs : List Event)
    (h : Runs.exec (fun s e => if ok s e then step digit s e else none) {} es = some s)
    (hok : ok s e) (hs : step digit s e = some t) (hr : StopReturns s e t)
    (hrest : Runs.exec (fun s e => if ok s e then step digit s e else none) t fs = some u)
    (hfs : ∀ e ∈ fs, e.startless = true) : AfterStop digit ok u :=
  (AfterStop.returned (Runs.run_guarded_of_exec h) ⟨hok, hs⟩ hr).run
    (Runs.run_guarded_of_exec hrest) hfs

/-! ## Commands run on the main thread -/

def Pc.mainOnly (pc : Pc) : Bool := pc.inOnCreate || pc.inStop

def MainInv (s : State) : Prop :=
  ∀ i pc, s.threads[i]? = some pc → pc.mainOnly = true → i = 0

theorem MainInv.init : MainInv {} := by
  intro i pc h hm
  have hmem : pc ∈ [Pc.idle] := List.mem_of_getElem? h
  rw [List.mem_singleton.mp hmem] at hm
  cases hm

theorem MainInv.set (hi : MainInv s) {i : Nat} {p : Pc} (new : List Pc)
    (ht : t.threads = s.threads.set i p ++ new) (hnew : ∀ q ∈ new, q.mainOnly = false)
    (hp : p.mainOnly = true → i = 0) : MainInv t := by
  intro j pc hj hm
  rw [ht] at hj
  rcases getElem?_set_append hj with ⟨rfl, rfl⟩ | ⟨-, hj⟩ | hmem
  · exact hp hm
  · exact hi j pc hj hm
  · rw [hnew pc hmem] at hm
    cases hm

theorem MainInv.setPc (hi : MainInv s) {i : Nat} {p : Pc} (ht : t.threads = s.threads.set i p)
    (hp : p.mainOnly = true → i = 0) : MainInv t :=
  hi.set [] (by rw [ht, List.append_nil]) (by simp) hp

theorem Caller.next_mainOnly (k : Caller) : k.next.mainOnly = false := by
  cases k <;> rfl

theorem MainInv.step (hi : MainInv s) (h : Moves digit s e t) : MainInv t := by
  cases h with
  | command h => exact hi.setPc rfl fun _ => rfl
  | @stop_enter i now k h hl =>
    refine hi.setPc rfl fun hm => ?_
    split_ifs at hm
    · exact hi i _ h (by cases k <;> first | rfl | cases hm)
    · rw [Caller.next_mainOnly] at hm; cases hm
  | stop_kill h => exact hi.setPc rfl (by simp [Caller.next_mainOnly])
  | start_clock h => exact hi.setPc rfl fun hm => nomatch hm
  | start_enter h hl =>
    refine hi.setPc rfl ?_
    split_ifs <;> exact fun hm => nomatch hm
  | start_kill h => exact hi.setPc rfl fun hm => nomatch hm
  | start_set h => exact hi.setPc rfl fun hm => nomatch hm
  | start_spawn h => exact hi.set _ rfl (by simp [Pc.mainOnly, Pc.inOnCreate, Pc.inStop]) nofun
  | file_enter h hl => exact hi.setPc rfl fun _ => hi _ _ h rfl
  | file_kill h => exact hi.setPc rfl fun _ => hi _ _ h rfl
  | file_set h => exact hi.setPc rfl fun _ => hi _ _ h rfl
  | watch_clock h => exact hi.setPc rfl fun hm => nomatch hm
  | forget h hl hpid =>
    refine hi.setPc rfl ?_
    split_ifs <;> exact fun hm => nomatch hm
  | ignore h hl hpid => exact hi.setPc rfl fun hm => nomatch hm
  | fork h hf =>
    refine hi.setPc rfl ?_
    split_ifs <;> exact fun hm => nomatch hm
  | reap h hd hx ha => exact hi.setPc rfl fun hm => nomatch hm
  | nochild h hn => exact hi.setPc rfl fun hm => nomatch hm
  | exit hd hx => exact hi

/-! ## Nobody is about to start a daemon -/

structure Quiet (s : State) : Prop where
  none_tracked : s.sshd_pid = 0
  threads : ∀ pc ∈ s.threads, pc.willAssign = false ∧ pc.inOnCreate = false

/-- The places a thread can go to while nobody starts a daemon. -/
def Pc.passive : Pc → Bool
  | .idle | .stop_enter .stop | .watch_wait _ | .watch_clock _ | .watch_enter .. => true
  | _ => false

theorem Pc.passive_spec {pc : Pc} (h : pc.passive = true) :
    pc.willAssign = false ∧ pc.inOnCreate = false ∧ pc.stopHeld = none := by
  cases pc with
  | idle => exact ⟨rfl, rfl, rfl⟩
  | stop_enter k => cases k <;> first | exact ⟨rfl, rfl, rfl⟩ | cases h
  | watch_wait pid => exact ⟨rfl, rfl, rfl⟩
  | watch_clock pid => exact ⟨rfl, rfl, rfl⟩
  | watch_enter pid now => exact ⟨rfl, rfl, rfl⟩
  | _ => cases h

/-- A caller that is neither `do_start` nor `onCreate` is done after `stop_sshd`. -/
theorem Caller.next_passive {k : Caller} (h : Pc.willAssign (.stop_enter k) = false) :
    k.next.passive = true := by
  cases k <;> first | rfl | cases h

theorem Quiet.moves (hq : Quiet s) (hi : OwnInv s) (h : Moves digit s e t)
    (he : e.startless = true) :
    t.sshd_pid = 0 ∧ ∀ pc ∈ t.threads, pc ∈ s.threads ∨ pc.passive = true := by
  have hset : ∀ {i : Nat} {p : Pc}, p.passive = true →
      ∀ pc ∈ s.threads.set i p, pc ∈ s.threads ∨ pc.passive = true := by
    intro i p hp pc hpc
    rcases List.mem_or_eq_of_mem_set hpc with h | rfl
    · exact Or.inl h
    · exact Or.inr hp
  -- Threads inside `do_start` or `onCreate` are ruled out.
  have hbusy : ∀ {i : Nat} {pc : Pc}, s.threads[i]? = some pc →
      pc.willAssign = false ∧ pc.inOnCreate = false :=
    fun h => hq.threads _ (List.mem_of_getElem? h)
  have hz := hq.none_tracked
  cases h with
  | @command c h =>
    refine ⟨hz, hset ?_⟩
    cases c with
    | onCreate file => cases he
    | start => cases he
    | stop => rfl
    | onDestroy => rfl
  | stop_enter h hl =>
    rw [if_neg (by simp [hz])]
    exact ⟨rfl, hset (Caller.next_passive (hbusy h).1)⟩
  | @stop_kill i now pid k h =>
    refine ⟨hz, hset (Caller.next_passive (k := k) ?_)⟩
    have hk := (hbusy h).1
    cases k <;> first | rfl | cases hk
  | start_clock h => cases (hbusy h).1
  | start_enter h hl => cases (hbusy h).1
  | start_kill h => cases (hbusy h).1
  | start_set h => cases (hbusy h).1
  | start_spawn h =>
    refine ⟨hz, fun pc hpc => ?_⟩
    rcases mem_set_append hpc with rfl | hin | hnew
    · exact Or.inr rfl
    · exact Or.inl hin
    · rw [List.mem_singleton.mp hnew]
      exact Or.inr rfl
  | file_enter h hl => cases (hbusy h).2
  | file_kill h => cases (hbusy h).2
  | file_set h => cases (hbusy h).2
  | watch_clock h => exact ⟨hz, hset rfl⟩
  | forget h hl hpid =>
    -- A watcher's pid is not 0, so no watcher takes the empty `sshd_pid` for its own.
    obtain ⟨hne, -⟩ := hi.known _ (List.mem_of_getElem? h) _ rfl
    exact absurd (hpid.symm.trans hz) hne
  | ignore h hl hpid => exact ⟨hz, hset rfl⟩
  | fork h hf => cases (hbusy h).1
  | reap h hd hx ha => exact ⟨hz, hset rfl⟩
  | nochild h hn => exact ⟨hz, hset rfl⟩
  | exit hd hx => exact ⟨hz, fun pc hpc => Or.inl hpc⟩

theorem Quiet.step (hq : Quiet s) (hi : OwnInv s) (h : Moves digit s e t)
    (he : e.startless = true) : Quiet t := by
  obtain ⟨hz, hthreads⟩ := hq.moves hi h he
  refine ⟨hz, fun pc hpc => ?_⟩
  rcases hthreads pc hpc with hin | hp
  · exact hq.threads pc hin
  · exact ⟨(Pc.passive_spec hp).1, (Pc.passive_spec hp).2.1⟩

/-! ## The stop -/

/-- Between the block of a stop and its `kill`, nobody is about to start a daemon. -/
structure StopInv (s : State) : Prop where
  own : OwnInv s
  main : MainInv s
  stopping : ∀ pid, s.threads[0]? = some (.stop_kill .stop pid) → Quiet s

theorem StopInv.init : StopInv {} :=
  ⟨OwnInv.init, MainInv.init, fun _ h => nomatch h⟩

/-- The block of a stop empties `sshd_pid` while nobody is about to assign it. -/
theorem quiet_of_stop_enter (hm : MainInv s)
    (hw : ∀ pc ∈ s.threads, pc.willAssign = false) {p : Pc} (hp : p.willAssign = false)
    (hc : p.inOnCreate = false) (ht : t.threads = s.threads.set 0 p) (hz : t.sshd_pid = 0) :
    Quiet t := by
  refine ⟨hz, fun pc hpc => ?_⟩
  obtain ⟨j, hj⟩ := List.mem_iff_getElem?.mp hpc
  rw [ht] at hj
  rcases getElem?_set_cases hj with ⟨-, rfl⟩ | ⟨hne, hj⟩
  · exact ⟨hp, hc⟩
  · refine ⟨hw pc (List.mem_of_getElem? hj), ?_⟩
    cases hb : pc.inOnCreate
    · rfl
    · exact absurd (hm j pc hj (by simp [Pc.mainOnly, hb])) hne

/-- The main thread is where it was unless the section put it there. -/
theorem main_unmoved {i : Nat} {p q : Pc} (h : (s.threads.set i p)[0]? = some q) (hp : p ≠ q) :
    s.threads[0]? = some q := by
  rcases getElem?_set_cases h with ⟨-, hq⟩ | ⟨-, h⟩
  · exact absurd hq.symm hp
  · exact h

theorem Moves.startless (h : Moves digit s e t) (h0 : s.threads[0]? ≠ some .idle) :
    e.startless = true := by
  cases h with
  | command h => exact absurd h h0
  | _ => rfl

/-- The main thread comes to stand before the `kill` of a stop by executing its block. -/
theorem Moves.stop_kill_origin (h : Moves digit s e t) {pid : Int}
    (h0 : t.threads[0]? = some (.stop_kill .stop pid)) :
    s.threads[0]? = some (.stop_kill .stop pid) ∨
      s.threads[0]? = some (.stop_enter .stop) ∧ ∃ now, e = .advance 0 now := by
  cases h with
  | @command c h =>
    left
    refine main_unmoved h0 ?_
    cases c with
    | onCreate file => simp only [Command.first]; split_ifs <;> simp
    | start => simp [Command.first]
    | stop => simp [Command.first]
    | onDestroy => simp [Command.first]
  | @stop_enter i now k h hl =>
    rcases getElem?_set_cases h0 with ⟨rfl, hq⟩ | ⟨-, h'⟩
    · right
      split_ifs at hq
      · cases hq
        exact ⟨h, now, rfl⟩
      · cases k <;> cases hq
    · exact Or.inl h'
  | @stop_kill i now pid k h =>
    exact Or.inl (main_unmoved h0 (by cases k <;> simp [Caller.next]))
  | start_enter h hl => exact Or.inl (main_unmoved h0 (by split_ifs <;> simp))
  | start_spawn h =>
    rcases getElem?_set_append h0 with ⟨-, hq⟩ | ⟨-, h'⟩ | hnew
    · cases hq
    · exact Or.inl h'
    · simp at hnew
  | file_enter h hl => exact Or.inl (main_unmoved h0 (by split_ifs <;> simp))
  | forget h hl hpid => exact Or.inl (main_unmoved h0 (by split_ifs <;> simp))
  | fork h hf => exact Or.inl (main_unmoved h0 (by split_ifs <;> simp))
  | exit hd hx => exact Or.inl h0
  | _ => exact Or.inl (main_unmoved h0 (by simp))

/-- What the block of a stop does. -/
theorem Moves.stop_block {now : Int} (h : Moves digit s (.advance 0 now) t)
    (h0 : s.threads[0]? = some (.stop_enter .stop)) :
    t.sshd_pid = 0 ∧ ∃ p, p.willAssign = false ∧ p.inOnCreate = false ∧
      t.threads = s.threads.set 0 p := by
  cases h with
  | @stop_enter i now k h hl =>
    rw [h0] at h
    cases h
    refine ⟨rfl, _, ?_, ?_, rfl⟩ <;> split_ifs <;> rfl
  | _ h => rw [h0] at h; cases h

theorem StopInv.step (hi : StopInv s) (hfresh : FreshPid s e) (halone : StopAlone s e)
    (h : Moves digit s e t) : StopInv t := by
  refine ⟨hi.own.step hfresh h, hi.main.step h, fun pid h0 => ?_⟩
  rcases h.stop_kill_origin h0 with hs | ⟨hs, now, rfl⟩
  · exact (hi.stopping pid hs).step hi.own h (h.startless (by rw [hs]; simp))
  · obtain ⟨hz, p, hp, hc, ht⟩ := h.stop_block hs
    exact quiet_of_stop_enter hi.main (halone hs) hp hc ht hz

/-- Once the stop is over, no `stop_sshd` is left that has still to kill. -/
theorem Quiet.none_held (hq : Quiet s) (hm : MainInv s) (h0 : s.threads[0]? = some .idle) :
    ∀ pc ∈ s.threads, pc.stopHeld = none := by
  intro pc hpc
  obtain ⟨hw, hc⟩ := hq.threads pc hpc
  cases pc with
  | stop_kill k pid =>
    cases k with
    | onCreate => cases hc
    | do_start => cases hw
    | stop =>
      -- Only the main thread executes commands, and it is idle.
      obtain ⟨j, hj⟩ := List.mem_iff_getElem?.mp hpc
      rw [hm j _ hj rfl, h0] at hj
      cases hj
  | start_kill pid now old => cases hw
  | file_kill pid old => cases hc
  | _ => rfl

/-- Nothing is tracked, nobody is about to start a daemon and nobody still has one to kill. -/
structure Over (s : State) : Prop where
  own : OwnInv s
  quiet : Quiet s
  none_held : ∀ pc ∈ s.threads, pc.stopHeld = none

theorem Over.step (hi : Over s) (hfresh : FreshPid s e) (h : Moves digit s e t)
    (he : e.startless = true) : Over t := by
  refine ⟨hi.own.step hfresh h, hi.quiet.step hi.own h he, fun pc hpc => ?_⟩
  rcases (hi.quiet.moves hi.own h he).2 pc hpc with hin | hp
  · exact hi.none_held pc hin
  · exact (Pc.passive_spec hp).2.2

theorem Over.dead (hi : Over s) {d : Proc} (hd : d ∈ s.procs) :
    d.exited = true ∨ d.killed = true := by
  by_contra hcon
  simp only [not_or, Bool.not_eq_true] at hcon
  have hpos := hi.own.pid_pos d hd
  rcases hi.own.owned d hd hcon.1 hcon.2 with h | ⟨pc, hpc, h⟩ | ⟨pc, hpc, h⟩
  · rw [hi.quiet.none_tracked] at h
    omega
  · have hw := (hi.quiet.threads pc hpc).1
    cases pc <;> first | (cases hw; done) | cases h
  · rw [hi.none_held pc hpc] at h
    cases h

theorem StopInv.returns (hi : StopInv s) (hfresh : FreshPid s e) (halone : StopAlone s e)
    (h : Moves digit s e t) (hr : StopReturns s e t) : Over t := by
  have ht : StopInv t := hi.step hfresh halone h
  obtain ⟨⟨now, rfl⟩, ⟨pc, h0, hstop⟩, hidle⟩ := hr
  have hq : Quiet t := by
    cases pc with
    | stop_enter k =>
      cases k with
      | stop =>
        obtain ⟨hz, p, hp, hc, ht⟩ := h.stop_block h0
        exact quiet_of_stop_enter hi.main (halone h0) hp hc ht hz
      | onCreate => cases hstop
      | do_start => cases hstop
    | stop_kill k pid =>
      cases k with
      | stop => exact (hi.stopping pid h0).step hi.own h (h.startless (by rw [h0]; simp))
      | onCreate => cases hstop
      | do_start => cases hstop
    | _ => cases hstop
  exact ⟨ht.own, hq, hq.none_held ht.main hidle⟩

/-- **A stop is final** in every run in which `start_sshd` returns no pid twice and no thread is
inside `do_start`, with `sshd_pid` still to assign, when the block of a stop runs. -/
theorem stop_final
    (h : AfterStop digit (fun s e => FreshPid s e ∧ StopAlone s e) u) :
    u.sshd_pid = 0 ∧ ∀ d ∈ u.procs, d.exited = true ∨ d.killed = true := by
  have hover : Over u := by
    induction h with
    | returned h hs hr =>
      have hi : StopInv _ :=
        h.invariant (fun _ _ _ hi hs => hi.step hs.1.1 hs.1.2 (step_moves hs.2)) StopInv.init
      exact hi.returns hs.1.1 hs.1.2 (step_moves hs.2) hr
    | later _ hs he ih => exact ih.step hs.1.1 (step_moves hs.2) he
  exact ⟨hover.quiet.none_tracked, fun d hd => hover.dead hd⟩

/-- One start, then a stop while the daemon runs; the daemon dies and its watcher goes away. -/
theorem stop_final_plain : ∃ u : State,
    AfterStop asciiDigit (fun s e => FreshPid s e ∧ StopAlone s e) u ∧ u.sshd_pid = 0 ∧
      u.procs = [{ pid := 100, exited := true, killed := true, reaped := true }] ∧
      ∀ d ∈ u.procs, d.exited = true ∨ d.killed = true := by
  have h : AfterStop asciiDigit (fun s e => FreshPid s e ∧ StopAlone s e)
      { sshd_when := 5, threads := [.idle, .idle],
        procs := [{ pid := 100, exited := true, killed := true, reaped := true }] } :=
    AfterStop.of_exec
      [.command .start, .advance 0 0, .fork 0 100, .advance 0 5, .advance 0 5, .advance 0 5,
        .advance 0 5, .command .stop, .advance 0 8]
      { sshd_when := 5, threads := [.stop_kill .stop 100, .watch_wait 100],
        procs := [{ pid := 100 }] }
      (.advance 0 8) [.exit 0, .waitpid 1 (some 0), .advance 1 9, .advance 1 9]
      (by decide) (by decide) rfl ⟨⟨8, rfl⟩, ⟨_, rfl, rfl⟩, rfl⟩ (by decide) (by decide)
  exact ⟨_, h, (stop_final h).1, rfl, (stop_final h).2⟩

/-- **A stop need not be final.** The daemon has died and its watcher has decided to restart it; the
stop finds `sshd_pid` empty and returns; the watcher starts a daemon, which keeps running. -/
theorem stop_not_final : ∃ u : State,
    AfterStop asciiDigit (fun _ _ => True) u ∧
      (∀ pc ∈ u.threads, pc.inDoStart = false ∧ pc.inMaybeRestart = false) ∧
      u.sshd_pid = 101 ∧ ∃ d ∈ u.procs, d.pid = 101 ∧ d.exited = false ∧ d.killed = false := by
  refine ⟨restartedState, ?_, by decide, rfl, { pid := 101 }, by decide, rfl, rfl, rfl⟩
  exact AfterStop.of_exec
    [.command .start, .advance 0 0, .fork 0 100, .advance 0 5, .advance 0 5, .advance 0 5,
      .advance 0 5, .exit 0, .waitpid 1 (some 0), .advance 1 6, .advance 1 6, .command .stop]
    { sshd_when := 5, threads := [.stop_enter .stop, .stop_enter .do_start],
      procs := [{ pid := 100, exited := true, reaped := true }] }
    (.advance 0 6)
    [.advance 1 6, .fork 1 101, .advance 1 7, .advance 1 7, .advance 1 7, .advance 1 7]
    (by decide) trivial rfl ⟨⟨6, rfl⟩, ⟨_, rfl, rfl⟩, rfl⟩ (by decide) (by decide)

end SimpleSshd.Service
