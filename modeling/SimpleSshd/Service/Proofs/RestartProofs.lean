import SimpleSshd.Lib.History
import SimpleSshd.Service.Proofs.StepsProofs

/-!
# Proofs: a daemon that dies at once is not restarted for ever

`maybe_restart` gives up when the last two starts and its own time are close together. It knows them
from `sshd_when` and `sshd_duration`, in which 0 stands for nothing to compare with. A run is recorded
here with every reading of the clock and every start. While only the watchers start daemons, there is
at most one thread that does anything, and the two fields are about the last two starts of the record.
-/

namespace SimpleSshd.Service

open Runs History

variable {digit : Char → Option Nat} {s t : State} {e : Event} {ts : List Pc}

/-! ## The record of a run -/

inductive Record
  /-- `currentTimeMillis` returned this. -/
  | read (now : Int)
  /-- `do_start` put a daemon into `sshd_pid` that was started at this time. -/
  | start (time : Int)
  deriving DecidableEq, Repr

/-- What a section adds to the record. -/
def Pc.record (now : Int) : Pc → Option Record
  | .start_clock _ | .watch_clock _ | .file_set _ => some (.read now)
  | .start_set _ time => some (.start time)
  | _ => none

def record (s : State) : Event → Option Record
  | .advance i now => s.threads[i]?.bind (Pc.record now)
  | _ => none

theorem record_advance {i : Nat} {now : Int} {p : Pc} (h : s.threads[i]? = some p) :
    record s (.advance i now) = p.record now := by
  rw [record, h, Option.bind_some]

/-- A state with the record of the run so far, newest first. -/
structure Logged where
  state : State := {}
  log : List Record := []
  deriving DecidableEq, Repr

def Logged.step (digit : Char → Option Nat) (l : Logged) (e : Event) : Option Logged :=
  (Service.step digit l.state e).map fun t => ⟨t, (record l.state e).toList ++ l.log⟩

def Record.time : Record → Option Int
  | .read _ => none
  | .start time => some time

/-- The times of the starts, newest first. -/
def starts (log : List Record) : List Int := log.filterMap Record.time

/-- The clock does not go back, and the user gives no command once a daemon was started. -/
structure Undisturbed (l : Logged) (e : Event) : Prop where
  clock : ∀ now, record l.state e = some (.read now) → ∀ r, .read r ∈ l.log → r ≤ now
  commands : ∀ c, e = .command c → starts l.log = []

/-- The runs of the service in which daemons are only restarted by their watchers. -/
def Watched (digit : Char → Option Nat) (es : List Event) (l : Logged) : Prop :=
  Run (guarded (ofFun (Logged.step digit)) Undisturbed) {} es l

/-- They are runs of the service. -/
theorem Watched.reaches {es : List Event} {l : Logged} (h : Watched digit es l) :
    Reaches digit es l.state := by
  have hrun : ∀ {l₀ es l}, Run (guarded (ofFun (Logged.step digit)) Undisturbed) l₀ es l →
      Run (ofFun (Service.step digit)) l₀.state es l.state := by
    intro l₀ es l h
    induction h with
    | nil l => exact .nil l.state
    | cons hstep _ ih =>
      obtain ⟨t, ht, rfl⟩ := Option.map_eq_some_iff.mp hstep.2
      exact .cons ht ih
  exact hrun h

/-! ## At most one thread is busy -/

def Alone (ts : List Pc) : Prop :=
  ∀ (i j : Nat) (p q : Pc), ts[i]? = some p → ts[j]? = some q → p ≠ .idle → q ≠ .idle → i = j

theorem alone_of_unique {i : Nat} (h : ∀ j q, ts[j]? = some q → q ≠ .idle → j = i) : Alone ts := by
  intro j k p q hj hk hp hq
  rw [h j p hj hp, h k q hk hq]

theorem alone_of_length (h : ts.length = 1) : Alone ts := by
  apply alone_of_unique
  intro j q hj _
  have hlt := (List.getElem?_eq_some_iff.mp hj).1
  change j = 0
  omega

theorem Alone.set (h : Alone ts) {i : Nat} {p : Pc} (hi : ts[i]? = some p) (hp : p ≠ .idle)
    (p' : Pc) : Alone (ts.set i p') := by
  apply alone_of_unique
  intro j q hj hq
  rcases getElem?_set_cases hj with ⟨hji, -⟩ | ⟨-, hj⟩
  · exact hji
  · exact h j i q p hj hi hq hp

/-- The busy thread ends when it has started another one. -/
theorem Alone.spawn (h : Alone ts) {i : Nat} {p : Pc} (hi : ts[i]? = some p) (hp : p ≠ .idle)
    (p' : Pc) : Alone (ts.set i .idle ++ [p']) := by
  apply alone_of_unique
  intro j q hj hq
  by_cases hlt : j < (ts.set i .idle).length
  · rw [List.getElem?_append_left hlt] at hj
    rcases getElem?_set_cases hj with ⟨-, rfl⟩ | ⟨hji, hj⟩
    · exact absurd rfl hq
    · exact absurd (h j i q p hj hi hq hp) hji
  · have hle := (List.getElem?_eq_some_iff.mp hj).1
    rw [List.length_append, List.length_singleton] at hle
    change j = (ts.set i .idle).length
    omega

/-- All the others are idle. -/
theorem Alone.mem_set (h : Alone ts) {i : Nat} {p : Pc} (hi : ts[i]? = some p) (hp : p ≠ .idle)
    {p' q : Pc} (hq : q ∈ ts.set i p') : q = p' ∨ q = .idle := by
  obtain ⟨j, hj⟩ := List.mem_iff_getElem?.mp hq
  rcases getElem?_set_cases hj with ⟨-, rfl⟩ | ⟨hji, hj⟩
  · exact .inl rfl
  · by_cases hidle : q = .idle
    · exact .inr hidle
    · exact absurd (h j i q p hj hi hidle hp) hji

/-! ## What the fields are about -/

/-- A start at `c` is not too early after the starts before it. -/
structure Limited (c : Int) (before : List Int) : Prop where
  ordered : ∀ b ∈ before, b ≤ c
  limited : ∀ a b earlier, before = b :: a :: earlier → a ≠ 0 → b ≠ 0 → a ≠ b →
    MIN_DURATION ≤ b - a ∨ MIN_DURATION ≤ c - b

/-- `maybe_restart` was right to restart the daemon. -/
def Granted (log : List Record) : Prop :=
  ∀ a b earlier, starts log = b :: a :: earlier → a ≠ 0 → b ≠ 0 → a ≠ b →
    MIN_DURATION ≤ b - a ∨ ∃ r, .read r ∈ log ∧ MIN_DURATION ≤ r - b

/-- What is known where a thread stands. -/
def Pc.Knows (log : List Record) : Pc → Prop
  | .stop_enter .do_start | .stop_kill .do_start _ | .start_fork | .start_clock _ => Granted log
  | .start_enter _ now | .start_kill _ now _ | .start_set _ now =>
    .read now ∈ log ∧ Limited now (starts log)
  | .file_enter _ | .file_kill .. | .file_set _ => starts log = []
  | .start_spawn _ => starts log ≠ []
  | .watch_enter _ now => .read now ∈ log
  | _ => True

/-- The invariant of the runs in which only the watchers start daemons. -/
structure RestartInv (l : Logged) : Prop where
  alone : Alone l.state.threads
  first : starts l.log = [] → l.state.threads.length = 1
  last : ∀ b earlier, starts l.log = b :: earlier → l.state.sshd_when = b
  interval : ∀ a b earlier, starts l.log = b :: a :: earlier →
    l.state.sshd_duration = if a ≠ 0 then b - a else 0
  read : ∀ b ∈ starts l.log, .read b ∈ l.log
  knows : ∀ pc ∈ l.state.threads, pc.Knows l.log
  limited : Justified Limited (starts l.log)

variable {log : List Record}

theorem RestartInv.init : RestartInv {} where
  alone := alone_of_length rfl
  first _ := rfl
  last _ _ h := by cases h
  interval _ _ _ h := by cases h
  read _ h := by cases h
  knows pc h := by
    rw [List.mem_singleton.mp h]
    trivial
  limited := justified_nil

theorem Granted.read (h : Granted log) (now : Int) : Granted (.read now :: log) := by
  intro a b earlier hstarts ha hb hab
  apply (h a b earlier hstarts ha hb hab).imp_right
  rintro ⟨r, hr, hlong⟩
  exact ⟨r, List.mem_cons_of_mem _ hr, hlong⟩

theorem Pc.Knows.read {pc : Pc} (h : pc.Knows log) (now : Int) : pc.Knows (.read now :: log) := by
  cases pc with
  | stop_enter k => cases k with
    | do_start => exact Granted.read h now
    | onCreate => trivial
    | stop => trivial
  | stop_kill k pid => cases k with
    | do_start => exact Granted.read h now
    | onCreate => trivial
    | stop => trivial
  | start_fork => exact Granted.read h now
  | start_clock pid => exact Granted.read h now
  | start_enter pid u => exact ⟨List.mem_cons_of_mem _ h.1, h.2⟩
  | start_kill pid u old => exact ⟨List.mem_cons_of_mem _ h.1, h.2⟩
  | start_set pid u => exact ⟨List.mem_cons_of_mem _ h.1, h.2⟩
  | file_enter pid => exact h
  | file_kill pid old => exact h
  | file_set pid => exact h
  | watch_enter pid u => exact List.mem_cons_of_mem _ h
  | start_spawn pid => exact h
  | idle => trivial
  | watch_wait pid => trivial
  | watch_clock pid => trivial

/-- The clock is read. -/
theorem RestartInv.reads (hi : RestartInv ⟨s, log⟩) (now : Int) :
    RestartInv ⟨s, .read now :: log⟩ where
  alone := hi.alone
  first := hi.first
  last := hi.last
  interval := hi.interval
  read b hb := List.mem_cons_of_mem _ (hi.read b hb)
  knows pc hpc := (hi.knows pc hpc).read now
  limited := hi.limited

/-- Thread `i` goes to `p'`, and the fields stay as they are once there was a start. -/
theorem RestartInv.set (hi : RestartInv ⟨s, log⟩) {i : Nat} {p' : Pc}
    (ht : t.threads = s.threads.set i p') (halone : Alone (s.threads.set i p'))
    (hfields : starts log ≠ [] →
      t.sshd_when = s.sshd_when ∧ t.sshd_duration = s.sshd_duration)
    (hknows : p'.Knows log) : RestartInv ⟨t, log⟩ where
  alone := by
    rw [ht]
    exact halone
  first hnone := by
    rw [ht, List.length_set]
    exact hi.first hnone
  last b earlier hstarts := by
    have hsome : starts log ≠ [] := by
      rw [hstarts]
      exact List.cons_ne_nil _ _
    exact (hfields hsome).1.trans (hi.last b earlier hstarts)
  interval a b earlier hstarts := by
    have hsome : starts log ≠ [] := by
      rw [hstarts]
      exact List.cons_ne_nil _ _
    exact (hfields hsome).2.trans (hi.interval a b earlier hstarts)
  read := hi.read
  knows pc hpc := by
    rw [ht] at hpc
    rcases List.mem_or_eq_of_mem_set hpc with hmem | rfl
    · exact hi.knows pc hmem
    · exact hknows
  limited := hi.limited

/-- The busy thread goes on. -/
theorem RestartInv.move (hi : RestartInv ⟨s, log⟩) {i : Nat} {p p' : Pc}
    (h : s.threads[i]? = some p) (hp : p ≠ .idle) (ht : t.threads = s.threads.set i p')
    (hwhen : t.sshd_when = s.sshd_when) (hduration : t.sshd_duration = s.sshd_duration)
    (hknows : p'.Knows log) : RestartInv ⟨t, log⟩ :=
  hi.set ht (hi.alone.set h hp p') (fun _ => ⟨hwhen, hduration⟩) hknows

/-- A daemon is started. The other threads are idle, so nothing that they know becomes wrong. -/
theorem RestartInv.start (hi : RestartInv ⟨s, log⟩) {i : Nat} {pid now : Int}
    (h : s.threads[i]? = some (.start_set pid now))
    (ht : t.threads = s.threads.set i (.start_spawn pid)) (hwhen : t.sshd_when = now)
    (hduration : t.sshd_duration = if s.sshd_when ≠ 0 then now - s.sshd_when else 0) :
    RestartInv ⟨t, .start now :: log⟩ := by
  obtain ⟨hread, hlimited⟩ := hi.knows _ (List.mem_of_getElem? h)
  have hp : Pc.start_set pid now ≠ .idle := by simp
  constructor
  · change Alone t.threads
    rw [ht]
    exact hi.alone.set h hp _
  · intro hnone
    cases hnone
  · intro b earlier hstarts
    obtain ⟨rfl, -⟩ := List.cons.inj hstarts
    exact hwhen
  · intro a b earlier hstarts
    obtain ⟨rfl, hbefore⟩ := List.cons.inj hstarts
    have hlast : s.sshd_when = a := hi.last a earlier hbefore
    change t.sshd_duration = _
    rw [hduration, hlast]
  · intro b hb
    rcases List.mem_cons.mp hb with rfl | hb
    · exact List.mem_cons_of_mem _ hread
    · exact List.mem_cons_of_mem _ (hi.read b hb)
  · intro pc hpc
    change pc ∈ t.threads at hpc
    rw [ht] at hpc
    rcases hi.alone.mem_set h hp hpc with rfl | rfl
    · exact List.cons_ne_nil _ _
    · trivial
  · exact justified_cons.mpr ⟨hlimited, hi.limited⟩

/-- The watcher of the daemon begins, and the thread that started it ends. -/
theorem RestartInv.spawn (hi : RestartInv ⟨s, log⟩) {i : Nat} {pid : Int}
    (h : s.threads[i]? = some (.start_spawn pid)) :
    RestartInv ⟨{ s with threads := s.threads.set i .idle ++ [.watch_wait pid] }, log⟩ where
  alone := hi.alone.spawn h (by simp) _
  first hnone := absurd hnone (hi.knows _ (List.mem_of_getElem? h))
  last := hi.last
  interval := hi.interval
  read := hi.read
  knows pc hpc := by
    rcases mem_set_append hpc with rfl | hmem | hnew
    · trivial
    · exact hi.knows pc hmem
    · rw [List.mem_singleton.mp hnew]
      trivial
  limited := hi.limited

/-! ## The decision -/

/-- **`maybe_restart` decides by the last two starts.** -/
theorem RestartInv.granted (hi : RestartInv ⟨s, log⟩) {now : Int} (hread : .read now ∈ log)
    (h : do_restart s now = true) : Granted log := by
  intro a b earlier hstarts ha hb hab
  have hwhen : s.sshd_when = b := hi.last b (a :: earlier) hstarts
  have hduration : s.sshd_duration = b - a := by
    have hinterval := hi.interval a b earlier hstarts
    rw [if_pos ha] at hinterval
    exact hinterval
  simp only [do_restart, hwhen, hduration, Bool.or_eq_true, beq_iff_eq, decide_eq_true_eq] at h
  rcases h with ((hzero | hnever) | hlong) | hlate
  · omega
  · exact absurd hnever hb
  · exact .inl hlong
  · exact .inr ⟨now, hread, hlate⟩

/-- The time of a start is not earlier than what was read before. -/
theorem RestartInv.limits (hi : RestartInv ⟨s, log⟩) (h : Granted log) {now : Int}
    (hclock : ∀ r, .read r ∈ log → r ≤ now) : Limited now (starts log) where
  ordered b hb := hclock b (hi.read b hb)
  limited a b earlier hstarts ha hb hab := by
    apply (h a b earlier hstarts ha hb hab).imp_right
    rintro ⟨r, hr, hlong⟩
    have hle := hclock r hr
    omega

/-! ## One event -/

theorem Caller.next_knows {k : Caller} (h : (Pc.stop_enter k).Knows log) : k.next.Knows log := by
  cases k with
  | do_start => exact h
  | onCreate => trivial
  | stop => trivial

theorem Command.first_knows (c : Command) (hnone : starts log = []) :
    (c.first digit).Knows log := by
  cases c with
  | onCreate file =>
    simp only [Command.first]
    split_ifs
    · exact hnone
    · trivial
  | start =>
    intro a b earlier hstarts
    cases hnone.symm.trans hstarts
  | stop => trivial
  | onDestroy => trivial

theorem RestartInv.step (hi : RestartInv ⟨s, log⟩) (hok : Undisturbed ⟨s, log⟩ e)
    (h : Moves digit s e t) : RestartInv ⟨t, (record s e).toList ++ log⟩ := by
  cases h with
  | @command c h =>
    have hnone : starts log = [] := hok.commands c rfl
    have halone : Alone (s.threads.set 0 (c.first digit)) := by
      apply alone_of_length
      rw [List.length_set]
      exact hi.first hnone
    exact hi.set rfl halone (fun _ => ⟨rfl, rfl⟩) (Command.first_knows c hnone)
  | @stop_enter i now k h hl =>
    have hknows := hi.knows _ (List.mem_of_getElem? h)
    rw [record_advance h]
    refine hi.move h (by simp) rfl rfl rfl ?_
    split_ifs
    · cases k with
      | do_start => exact hknows
      | onCreate => trivial
      | stop => trivial
    · exact Caller.next_knows hknows
  | @stop_kill i now pid k h =>
    have hknows := hi.knows _ (List.mem_of_getElem? h)
    rw [record_advance h]
    refine hi.move h (by simp) rfl rfl rfl ?_
    cases k with
    | do_start => exact hknows
    | onCreate => trivial
    | stop => trivial
  | @start_clock i now pid h =>
    have hgranted : Granted log := hi.knows _ (List.mem_of_getElem? h)
    have hlimited := hi.limits hgranted (hok.clock now (record_advance h))
    rw [record_advance h]
    exact (hi.reads now).move h (by simp) rfl rfl rfl ⟨List.mem_cons_self, hlimited⟩
  | @start_enter i now pid u h hl =>
    have hknows := hi.knows _ (List.mem_of_getElem? h)
    rw [record_advance h]
    refine hi.move h (by simp) rfl rfl rfl ?_
    split_ifs
    · exact hknows
    · exact hknows
  | @start_kill i now pid u old h =>
    have hknows := hi.knows _ (List.mem_of_getElem? h)
    rw [record_advance h]
    exact hi.move h (by simp) rfl rfl rfl hknows
  | @start_set i now pid u h =>
    rw [record_advance h]
    exact hi.start h rfl rfl rfl
  | @start_spawn i now pid h =>
    rw [record_advance h]
    exact hi.spawn h
  | @file_enter i now pid h hl =>
    have hknows : starts log = [] := hi.knows _ (List.mem_of_getElem? h)
    rw [record_advance h]
    refine hi.move h (by simp) rfl rfl rfl ?_
    split_ifs
    · exact hknows
    · exact hknows
  | @file_kill i now pid old h =>
    have hknows : starts log = [] := hi.knows _ (List.mem_of_getElem? h)
    rw [record_advance h]
    exact hi.move h (by simp) rfl rfl rfl hknows
  | @file_set i now pid h =>
    have hnone : starts log = [] := hi.knows _ (List.mem_of_getElem? h)
    rw [record_advance h]
    exact (hi.reads now).set rfl (hi.alone.set h (by simp) _) (fun hsome => absurd hnone hsome) trivial
  | @watch_clock i now pid h =>
    rw [record_advance h]
    exact (hi.reads now).move h (by simp) rfl rfl rfl List.mem_cons_self
  | @forget i now pid u h hl hpid =>
    have hread : .read u ∈ log := hi.knows _ (List.mem_of_getElem? h)
    rw [record_advance h]
    refine hi.move h (by simp) rfl rfl rfl ?_
    split_ifs with hrestart
    · exact hi.granted hread hrestart
    · trivial
  | @ignore i now pid u h hl hpid =>
    rw [record_advance h]
    exact hi.move h (by simp) rfl rfl rfl trivial
  | @fork i res h hf =>
    have hknows : Granted log := hi.knows _ (List.mem_of_getElem? h)
    refine hi.move h (by simp) rfl rfl rfl ?_
    split_ifs
    · exact hknows
    · trivial
  | reap h hd hx ha => exact hi.move h (by simp) rfl rfl rfl trivial
  | nochild h hn => exact hi.move h (by simp) rfl rfl rfl trivial
  | exit hd hx => exact ⟨hi.alone, hi.first, hi.last, hi.interval, hi.read, hi.knows, hi.limited⟩

/-! ## A daemon that terminates -/

/-- The event happens at the time `c`, and is not a command. -/
def Event.At (c : Int) : Event → Prop
  | .command _ => False
  | .advance _ now => now = c
  | _ => True

theorem Event.At.record_eq {c r : Int} (he : e.At c) (hr : record s e = some (.read r)) : r = c := by
  cases e with
  | advance i now =>
    obtain ⟨p, -, hp⟩ := Option.bind_eq_some_iff.mp hr
    have hnow : r = now := by
      cases p <;> simp_all [Pc.record]
    exact hnow.trans he
  | command c => cases hr
  | fork i res => cases hr
  | waitpid i j => cases hr
  | exit j => cases hr

/-- While the clock stands still, it does not go back. -/
theorem undisturbed_run {c : Int} {es : List Event} {l l' : Logged}
    (h : Run (ofFun (Logged.step digit)) l es l') (hes : ∀ e ∈ es, e.At c)
    (hlog : ∀ r, .read r ∈ l.log → r ≤ c) :
    Run (guarded (ofFun (Logged.step digit)) Undisturbed) l es l' := by
  induction h with
  | nil l => exact .nil l
  | @cons l m l' e es hstep hrest ih =>
    have he := hes e List.mem_cons_self
    have hok : Undisturbed l e := by
      constructor
      · intro now hnow r hr
        rw [he.record_eq hnow]
        exact hlog r hr
      · rintro d rfl
        cases he
    have hnext : ∀ r, .read r ∈ m.log → r ≤ c := by
      obtain ⟨t, -, rfl⟩ := Option.map_eq_some_iff.mp hstep
      intro r hr
      rcases List.mem_append.mp hr with hnew | hold
      · exact Int.le_of_eq (he.record_eq (Option.mem_toList.mp hnew))
      · exact hlog r hold
    exact .cons ⟨hok, hstep⟩ (ih (fun e he => hes e (List.mem_cons_of_mem _ he)) hnext)

/-- The thread that was started last stands at `p`. -/
def lastAt (ts : List Pc) (p : Pc) (s : State) : State := { s with threads := ts ++ [p] }

theorem lastAt_getElem? (ts : List Pc) (p : Pc) (s : State) :
    (lastAt ts p s).threads[ts.length]? = some p :=
  List.getElem?_concat_length

theorem lastAt_setPc (ts : List Pc) (p q : Pc) (s : State) :
    (lastAt ts p s).setPc ts.length q = lastAt ts q s := by
  have hset : (ts ++ [p]).set ts.length q = ts ++ [q] := by
    rw [List.set_append_right _ _ (Nat.le_refl _), Nat.sub_self]
    rfl
  simp only [lastAt, State.setPc, hset]

/-- It executes its next section. -/
theorem step_lastAt (ts : List Pc) {p : Pc} {now : Int}
    (h : advance (lastAt ts p s) ts.length now p = some t) :
    Logged.step digit ⟨lastAt ts p s, log⟩ (.advance ts.length now) =
      some ⟨t, (p.record now).toList ++ log⟩ := by
  have hthread := lastAt_getElem? ts p s
  simp only [Logged.step, step, hthread, Option.bind_some, h, Option.map_some, record]

/-- It decides to restart the daemon. -/
theorem lastAt_watch_enter {pid now u : Int} (hlock : s.lock = none) (hpid : s.sshd_pid = pid)
    (h : do_restart s now = true) :
    advance (lastAt ts (.watch_enter pid now) s) ts.length u (.watch_enter pid now) =
      some (lastAt ts (.stop_enter .do_start) { s with sshd_pid := 0 }) := by
  have hlock' : (lastAt ts (.watch_enter pid now) s).lock = none := hlock
  have hpid' : (lastAt ts (.watch_enter pid now) s).sshd_pid = pid := hpid
  have hrestart : do_restart (lastAt ts (.watch_enter pid now) s) now = true := h
  simp only [advance]
  rw [if_pos hlock', if_pos hpid', if_pos hrestart]
  exact congrArg some (lastAt_setPc ts _ _ { s with sshd_pid := 0 })

/-- There is no daemon to stop. -/
theorem lastAt_stop_enter {u : Int} (hlock : s.lock = none) (hpid : s.sshd_pid = 0) :
    advance (lastAt ts (.stop_enter .do_start) s) ts.length u (.stop_enter .do_start) =
      some (lastAt ts .start_fork s) := by
  have hlock' : (lastAt ts (.stop_enter .do_start) s).lock = none := hlock
  have hpid' : ¬ (lastAt ts (.stop_enter .do_start) s).sshd_pid ≠ 0 := not_not.mpr hpid
  simp only [advance]
  rw [if_pos hlock', if_neg hpid', ← hpid]
  exact congrArg some (lastAt_setPc ts _ _ s)

theorem lastAt_start_enter {pid now u : Int} (hlock : s.lock = none) (hpid : s.sshd_pid = 0) :
    advance (lastAt ts (.start_enter pid now) s) ts.length u (.start_enter pid now) =
      some (lastAt ts (.start_set pid now) { s with lock := some ts.length }) := by
  have hlock' : (lastAt ts (.start_enter pid now) s).lock = none := hlock
  have hpid' : ¬ (lastAt ts (.start_enter pid now) s).sshd_pid ≠ 0 := not_not.mpr hpid
  simp only [advance]
  rw [if_pos hlock', if_neg hpid', ← hpid]
  exact congrArg some (lastAt_setPc ts _ _ { s with lock := some ts.length })

theorem lastAt_start_set {pid now u : Int} :
    advance (lastAt ts (.start_set pid now) s) ts.length u (.start_set pid now) =
      some (lastAt ts (.start_spawn pid) { s with
        sshd_pid := pid
        sshd_duration := if s.sshd_when ≠ 0 then now - s.sshd_when else 0
        sshd_when := now
        lock := none }) :=
  congrArg some (lastAt_setPc ts _ _ { s with
    sshd_pid := pid
    sshd_duration := if s.sshd_when ≠ 0 then now - s.sshd_when else 0
    sshd_when := now
    lock := none })

theorem lastAt_start_spawn {pid u : Int} :
    advance (lastAt ts (.start_spawn pid) s) ts.length u (.start_spawn pid) =
      some (lastAt (ts ++ [.idle]) (.watch_wait pid) s) := by
  have hidle := congrArg State.threads (lastAt_setPc ts (.start_spawn pid) .idle s)
  simp only [State.setPc_threads] at hidle
  simp only [advance, hidle]
  rfl

theorem lastAt_fork (ts : List Pc) {pid : Int} (hpid : 0 < pid)
    (hprocs : ∀ d ∈ s.procs, d.reaped = true) :
    Logged.step digit ⟨lastAt ts .start_fork s, log⟩ (.fork ts.length pid) =
      some ⟨lastAt ts (.start_clock pid) { s with procs := s.procs ++ [{ pid }] }, log⟩ := by
  have hthread := lastAt_getElem? ts .start_fork s
  have hforkable : forkable (lastAt ts .start_fork s).procs pid = true := by
    simp only [forkable, Bool.and_eq_true, Bool.or_eq_true, decide_eq_true_eq, List.all_eq_true]
    exact ⟨by omega, .inr fun d hd => .inr (hprocs d hd)⟩
  simp only [Logged.step, step]
  rw [if_pos ⟨hthread, hforkable⟩, if_pos (Int.ne_of_gt hpid), if_pos hpid]
  exact congrArg (fun t => some (Logged.mk t log))
    (lastAt_setPc ts _ _ { s with procs := s.procs ++ [{ pid }] })

/-- A daemon is running, and the last thread waits for it. -/
def waiting (ts : List Pc) (ds : List Proc) (pid time interval : Int) : State :=
  lastAt ts (.watch_wait pid)
    { sshd_pid := pid, sshd_when := time, sshd_duration := interval, procs := ds ++ [{ pid }] }

/-- A daemon that has terminated, and for which its watcher has waited. -/
def gone (pid : Int) : Proc := { pid, exited := true, reaped := true }

theorem reaped_gone {ds : List Proc} (pid : Int) (h : ∀ d ∈ ds, d.reaped = true) :
    ∀ d ∈ ds ++ [gone pid], d.reaped = true := by
  intro d hd
  rcases List.mem_append.mp hd with hold | hlast
  · exact h d hold
  · rw [List.mem_singleton.mp hlast]
    rfl

/-- The daemon terminates and is started again, all at the time `c`. -/
def restarting (i j : Nat) (pid c : Int) : List Event :=
  [.exit j, .waitpid i (some j), .advance i c, .advance i c, .advance i c, .fork i pid, .advance i c,
    .advance i c, .advance i c, .advance i c]

theorem run_gone (s : State) (ds : List Proc) (pid : Int) :
    Run (ofFun (Logged.step digit))
      ⟨lastAt ts (.watch_wait pid) { s with procs := ds ++ [{ pid }] }, log⟩
      [.exit ds.length, .waitpid ts.length (some ds.length)]
      ⟨lastAt ts (.watch_clock pid) { s with procs := ds ++ [gone pid] }, log⟩ := by
  have hexit : Logged.step digit
      ⟨lastAt ts (.watch_wait pid) { s with procs := ds ++ [{ pid }] }, log⟩ (.exit ds.length) =
      some ⟨lastAt ts (.watch_wait pid) { s with procs := ds ++ [{ pid, exited := true }] }, log⟩ := by
    simp [Logged.step, step, lastAt, record]
  have hwaitpid : Logged.step digit
      ⟨lastAt ts (.watch_wait pid) { s with procs := ds ++ [{ pid, exited := true }] }, log⟩
        (.waitpid ts.length (some ds.length)) =
      some ⟨lastAt ts (.watch_clock pid) { s with procs := ds ++ [gone pid] }, log⟩ := by
    simp [Logged.step, step, lastAt, State.setPc, Proc.awaited, gone, record]
  exact .cons hexit (.single hwaitpid)

/-- **A daemon that terminates is started again if `maybe_restart` decides so.** -/
theorem run_restarting (ds : List Proc) (ts : List Pc) {pid c time interval : Int} (hpid : 0 < pid)
    (hds : ∀ d ∈ ds, d.reaped = true)
    (hrestart : do_restart (waiting ts ds pid time interval) c = true) :
    Run (ofFun (Logged.step digit)) ⟨waiting ts ds pid time interval, log⟩
      (restarting ts.length ds.length pid c)
      ⟨waiting (ts ++ [.idle]) (ds ++ [gone pid]) pid c (if time ≠ 0 then c - time else 0),
        .start c :: .read c :: .read c :: log⟩ := by
  let s : State := { sshd_pid := pid, sshd_when := time, sshd_duration := interval }
  refine (run_gone s ds pid).append ?_
  refine .cons (step_lastAt ts (congrArg some (lastAt_setPc ts _ (.watch_enter pid c) _))) ?_
  refine .cons (step_lastAt ts (lastAt_watch_enter rfl rfl hrestart)) ?_
  refine .cons (step_lastAt ts (lastAt_stop_enter rfl rfl)) ?_
  refine .cons (lastAt_fork ts hpid (reaped_gone pid hds)) ?_
  refine .cons (step_lastAt ts (congrArg some (lastAt_setPc ts _ (.start_enter pid c) _))) ?_
  refine .cons (step_lastAt ts (lastAt_start_enter rfl rfl)) ?_
  refine .cons (step_lastAt ts lastAt_start_set) ?_
  exact .single (step_lastAt ts lastAt_start_spawn)

theorem Watched.restart {es : List Event} {ts : List Pc} {ds : List Proc} {pid c time interval : Int}
    (h : Watched digit es ⟨waiting ts ds pid time interval, log⟩) (hpid : 0 < pid)
    (hds : ∀ d ∈ ds, d.reaped = true) (hclock : ∀ r, .read r ∈ log → r ≤ c)
    (hrestart : do_restart (waiting ts ds pid time interval) c = true) :
    Watched digit (es ++ restarting ts.length ds.length pid c)
      ⟨waiting (ts ++ [.idle]) (ds ++ [gone pid]) pid c (if time ≠ 0 then c - time else 0),
        .start c :: .read c :: .read c :: log⟩ := by
  refine Run.append h (undisturbed_run (run_restarting ds ts hpid hds hrestart) ?_ hclock)
  simp [restarting, Event.At]

/-- The user starts the daemon at the time `c`. -/
def starting (pid c : Int) : List Event :=
  [.advance 0 c, .fork 0 pid, .advance 0 c, .advance 0 c, .advance 0 c, .advance 0 c]

theorem watched_first {pid c : Int} (hpid : 0 < pid) :
    Watched digit (.command .start :: starting pid c)
      ⟨waiting [.idle] [] pid c 0, [.start c, .read c]⟩ := by
  have hrun : Run (ofFun (Logged.step digit)) ⟨lastAt [] (.stop_enter .do_start) {}, []⟩
      (starting pid c) ⟨waiting [.idle] [] pid c 0, [.start c, .read c]⟩ := by
    refine .cons (step_lastAt [] (lastAt_stop_enter rfl rfl)) ?_
    refine .cons (lastAt_fork [] hpid (List.forall_mem_nil _)) ?_
    refine .cons (step_lastAt [] (congrArg some (lastAt_setPc [] _ (.start_enter pid c) _))) ?_
    refine .cons (step_lastAt [] (lastAt_start_enter rfl rfl)) ?_
    refine .cons (step_lastAt [] lastAt_start_set) ?_
    exact .single (step_lastAt [] lastAt_start_spawn)
  have hnow : ∀ e ∈ starting pid c, e.At c := by
    simp [starting, Event.At]
  have hguarded := undisturbed_run hrun hnow (fun r hr => by cases hr)
  have hcommand : Undisturbed {} (.command .start) := by
    constructor
    · intro now hread
      cases hread
    · intro c hc
      rfl
  exact .cons ⟨hcommand, rfl⟩ hguarded

/-! ## The runs -/

theorem Watched.inv {es : List Event} {l : Logged} (h : Watched digit es l) : RestartInv l := by
  refine Run.invariant ?_ h RestartInv.init
  rintro ⟨s, log⟩ e l' hi ⟨hok, hstep⟩
  obtain ⟨t, ht, rfl⟩ := Option.map_eq_some_iff.mp hstep
  exact hi.step hok (step_moves ht)

/-- **While only the watchers start daemons, a restart comes 10 seconds after the last start, or that
start came 10 seconds after the one before it**, unless these two fell on the same millisecond or on the
zero of the clock. So no three starts in a row lie within 10 seconds. -/
theorem restart_limited {es : List Event} {l : Logged} (h : Watched digit es l) {a b c : Int}
    {earlier : List Int} (hstarts : c :: b :: a :: earlier <:+ starts l.log) (ha : a ≠ 0) (hb : b ≠ 0)
    (hab : a ≠ b) : (MIN_DURATION ≤ b - a ∨ MIN_DURATION ≤ c - b) ∧ MIN_DURATION ≤ c - a := by
  have hc : Limited c (b :: a :: earlier) := h.inv.limited c _ hstarts
  have hb' : Limited b (a :: earlier) :=
    h.inv.limited b _ ((List.suffix_cons c _).trans hstarts)
  have hlong := hc.limited a b earlier rfl ha hb hab
  have hbc := hc.ordered b List.mem_cons_self
  have hle := hb'.ordered a List.mem_cons_self
  refine ⟨hlong, ?_⟩
  omega

/-- A daemon that ran for 11 seconds is restarted, although the next one dies after half a second. -/
theorem restart_limited_long : ∃ es l, Watched asciiDigit es l ∧
    starts l.log = [12500, 12000, 1000] ∧
      (MIN_DURATION ≤ (12000 : Int) - 1000 ∨ MIN_DURATION ≤ (12500 : Int) - 12000) ∧
      MIN_DURATION ≤ (12500 : Int) - 1000 := by
  have hfirst : Watched asciiDigit (.command .start :: starting 7 1000)
      ⟨waiting [.idle] [] 7 1000 0, [.start 1000, .read 1000]⟩ := watched_first (by decide)
  have hsecond := hfirst.restart (c := 12000) (by decide) (List.forall_mem_nil _) (by simp) rfl
  have hthird := hsecond.restart (c := 12500) (by decide) (by simp [gone]) (by simp) rfl
  exact ⟨_, _, hthird, rfl, restart_limited hthird List.suffix_rfl (by decide) (by decide) (by decide)⟩

/-- As long as the clock stands still, the daemon is started again and again. -/
theorem restart_storm (c : Int) (n : Nat) :
    ∃ es ts ds log, Watched digit es ⟨waiting ts ds 7 c 0, log⟩ ∧ (∀ d ∈ ds, d.reaped = true) ∧
      (∀ r, .read r ∈ log → r ≤ c) ∧ starts log = List.replicate (n + 1) c := by
  induction n with
  | zero =>
    refine ⟨_, _, _, _, watched_first (by decide), List.forall_mem_nil _, ?_, rfl⟩
    simp
  | succ n ih =>
    obtain ⟨es, ts, ds, log, hrun, hds, hclock, hstarts⟩ := ih
    have hnext := hrun.restart (c := c) (by decide) hds hclock rfl
    have hzero : (if c ≠ 0 then c - c else 0) = 0 := by
      rw [Int.sub_self, ite_self]
    rw [hzero] at hnext
    refine ⟨_, _, _, _, hnext, reaped_gone 7 hds, ?_, congrArg (c :: ·) hstarts⟩
    simpa using hclock

/-- **Three starts in the same millisecond: the interval between the first two is 0, which
`maybe_restart` takes for no interval at all.** -/
theorem restarted_at_once :
    ∃ es l, Watched asciiDigit es l ∧ starts l.log = [1000, 1000, 1000] ∧
      ¬ (MIN_DURATION ≤ (1000 : Int) - 1000 ∨ MIN_DURATION ≤ (1000 : Int) - 1000) := by
  obtain ⟨es, ts, ds, log, hrun, -, -, hstarts⟩ := restart_storm 1000 2
  exact ⟨es, _, hrun, hstarts, by decide⟩

end SimpleSshd.Service
