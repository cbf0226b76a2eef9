import Mathlib.Algebra.Group.Nat.Defs
import SimpleSshd.Lib.Runs

/-!
# `SimpleSSHDService`: the daemon's life cycle as a step relation

The service keeps the pid of the running daemon in the static field `sshd_pid`, guarded by `lock`.
The Android main thread handles one command after another; every successful `start_sshd` leaves a
watcher thread behind that sits in `waitpid` and then calls `maybe_restart`. A state records the
static fields, who holds `lock`, where every thread stands in the code and what the kernel knows
about the daemons. An event is one atomic section of one thread, or the exit of a daemon.

A synchronized block that only touches the static fields is one event. The blocks of `do_start` and
`read_pidfile` call `stop_sshd` (the lock is reentrant) and hence `kill`, so they are split at that
call and hold `lock` in between.
-/

namespace SimpleSshd.Service

/-- Restarting twice within this many milliseconds makes `maybe_restart` give up. -/
def MIN_DURATION : Int := 10000

/-- Who called `stop_sshd` outside the lock, i.e. what runs after it returns. -/
inductive Caller
  | onCreate
  /-- `onStartCommand` with the `stop` extra, or `onDestroy`. -/
  | stop
  | do_start
  deriving DecidableEq, Repr

/-- Where a thread stands in the code, with the values of its local variables. -/
inductive Pc
  /-- The main thread between two commands, or a watcher thread that has ended. -/
  | idle
  /-- At the synchronized block of `stop_sshd`. -/
  | stop_enter (k : Caller)
  /-- `stop_sshd` has left the block with `pid != 0` and is about to call `kill(pid)`. -/
  | stop_kill (k : Caller) (pid : Int)
  /-- In `do_start`, about to call `start_sshd`. -/
  | start_fork
  /-- `start_sshd` returned `pid`; the clock is read next. -/
  | start_clock (pid : Int)
  /-- At the synchronized block of `do_start`. -/
  | start_enter (pid now : Int)
  /-- Inside that block, in the nested `stop_sshd`, about to call `kill(old)`. -/
  | start_kill (pid now old : Int)
  /-- Inside that block, about to assign `sshd_pid`. -/
  | start_set (pid now : Int)
  /-- After that block, about to start the watcher thread. -/
  | start_spawn (pid : Int)
  /-- At the synchronized block of `read_pidfile`. -/
  | file_enter (pid : Int)
  /-- Inside that block, in the nested `stop_sshd`, about to call `kill(old)`. -/
  | file_kill (pid old : Int)
  /-- Inside that block, about to assign `sshd_pid`. -/
  | file_set (pid : Int)
  /-- A watcher inside `waitpid(pid)`. -/
  | watch_wait (pid : Int)
  /-- `waitpid` has returned; `maybe_restart` reads the clock next. -/
  | watch_clock (pid : Int)
  /-- At the synchronized block of `maybe_restart`. -/
  | watch_enter (pid now : Int)
  deriving DecidableEq, Repr

/-- A child process forked by `start_sshd`. -/
structure Proc where
  pid : Int
  /-- The process has terminated (it is a zombie until it is reaped). -/
  exited : Bool := false
  /-- `SIGKILL` was sent to it. -/
  killed : Bool := false
  /-- Some `waitpid` has returned its status; from here on the kernel may reuse `pid`. -/
  reaped : Bool := false
  deriving DecidableEq, Repr

structure State where
  sshd_pid : Int := 0
  sshd_when : Int := 0
  sshd_duration : Int := 0
  /-- The thread inside a synchronized block that is split over several events. -/
  lock : Option Nat := none
  /-- Thread 0 is the Android main thread, the others are watchers. -/
  threads : List Pc := [.idle]
  procs : List Proc := []
  deriving DecidableEq, Repr

/-! ## Java and native library calls -/

/-- The value of a non-empty string of digits; `digit` is `Character.digit(c, 10)`. -/
def digits (digit : Char → Option Nat) (ds : List Char) : Option Nat :=
  if ds.isEmpty then none
  else ds.foldlM (fun acc c => (digit c).map fun d => 10 * acc + d) 0

/-- `Integer.valueOf(String)`: `none` stands for the `NumberFormatException`. -/
def valueOf (digit : Char → Option Nat) : List Char → Option Int
  | '-' :: ds => (digits digit ds).bind fun n => if n ≤ 2 ^ 31 then some (-n) else none
  | '+' :: ds => (digits digit ds).bind fun n => if n < 2 ^ 31 then some n else none
  | ds => (digits digit ds).bind fun n => if n < 2 ^ 31 then some n else none

/-- `BufferedReader.readLine()`: `none` at the end of the file. -/
def readLine (content : List Char) : Option (List Char) :=
  if content.isEmpty then none else some (content.takeWhile fun c => c ≠ '\n' ∧ c ≠ '\r')

/-- The pid that `read_pidfile` puts into `sshd_pid`. A missing file, a file without a number and
the number 0 all leave the fields alone, which is written 0 here. -/
def read_pidfile (digit : Char → Option Nat) (file : Option (List Char)) : Int :=
  ((file.bind readLine).bind (valueOf digit)).getD 0

/-- Does `kill(pid, SIGKILL)` reach this process? A pid of -1 means every process of the user;
process groups (`pid < -1`) other than the app's own are none of our processes. -/
def Proc.signalled (pid : Int) (d : Proc) : Bool := !d.reaped && (pid == d.pid || pid == -1)

/-- The native `kill`. -/
def kill (pid : Int) (procs : List Proc) : List Proc :=
  procs.map fun d => if d.signalled pid then { d with killed := true } else d

/-- Does `waitpid(pid)` wait for this process? -/
def Proc.awaited (pid : Int) (d : Proc) : Bool := !d.reaped && (pid == d.pid || pid == -1)

/-- What `start_sshd` can return: 0 when the JNI setup fails, -1 when `fork` fails, else the pid of
the child, which no process has that is still running or not yet reaped. -/
def forkable (procs : List Proc) (res : Int) : Bool :=
  -1 ≤ res && (res ≤ 0 || procs.all fun d => d.pid != res || d.reaped)

/-! ## Events -/

/-- What Android makes the main thread do. -/
inductive Command
  /-- `onCreate`, which finds `dropbear.pid` with this content. -/
  | onCreate (pidfile : Option (List Char))
  /-- `onStartCommand` without the `stop` extra. -/
  | start
  /-- `onStartCommand` with the `stop` extra. -/
  | stop
  | onDestroy
  deriving DecidableEq, Repr

inductive Event
  /-- The main thread takes up a command. -/
  | command (c : Command)
  /-- Thread `i` executes its next atomic section; `now` is what `currentTimeMillis` returns in it. -/
  | advance (i : Nat) (now : Int)
  /-- Thread `i` calls `start_sshd`, which returns `res`. -/
  | fork (i : Nat) (res : Int)
  /-- `waitpid` of thread `i` returns: it reaped the `j`-th child, or there was none to wait for. -/
  | waitpid (i : Nat) (j : Option Nat)
  /-- The `j`-th child terminates. -/
  | exit (j : Nat)
  deriving DecidableEq, Repr

/-! ## The atomic sections -/

namespace State

def setPc (s : State) (i : Nat) (pc : Pc) : State := { s with threads := s.threads.set i pc }

variable (s : State) (i : Nat) (pc : Pc)

@[simp] theorem setPc_threads : (s.setPc i pc).threads = s.threads.set i pc := rfl
@[simp] theorem setPc_sshd_pid : (s.setPc i pc).sshd_pid = s.sshd_pid := rfl
@[simp] theorem setPc_lock : (s.setPc i pc).lock = s.lock := rfl
@[simp] theorem setPc_procs : (s.setPc i pc).procs = s.procs := rfl

end State

/-- What the caller of `stop_sshd` does next. -/
def Caller.next : Caller → Pc
  | .do_start => .start_fork
  | .onCreate | .stop => .idle

/-- `do_restart` of `maybe_restart`. -/
def do_restart (s : State) (now : Int) : Bool :=
  s.sshd_duration == 0 || s.sshd_when == 0 || MIN_DURATION ≤ s.sshd_duration ||
    MIN_DURATION ≤ now - s.sshd_when

/-- The first section of a command. -/
def Command.first (digit : Char → Option Nat) : Command → Pc
  | .onCreate file =>
    if read_pidfile digit file ≠ 0 then .file_enter (read_pidfile digit file)
    else .stop_enter .onCreate
  | .start => .stop_enter .do_start
  | .stop | .onDestroy => .stop_enter .stop

/-- The next atomic section of thread `i`, which stands at the given place. Blocks wait for `lock`;
`start_sshd` and `waitpid` have events of their own. -/
def advance (s : State) (i : Nat) (now : Int) : Pc → Option State
  | .stop_enter k =>
    if s.lock = none then
      some ({ s with sshd_pid := 0 }.setPc i
        (if s.sshd_pid ≠ 0 then .stop_kill k s.sshd_pid else k.next))
    else none
  | .stop_kill k pid => some ({ s with procs := kill pid s.procs }.setPc i k.next)
  | .start_clock pid => some (s.setPc i (.start_enter pid now))
  | .start_enter pid t =>
    if s.lock = none then
      some ({ s with sshd_pid := 0, lock := some i }.setPc i
        (if s.sshd_pid ≠ 0 then .start_kill pid t s.sshd_pid else .start_set pid t))
    else none
  | .start_kill pid t old => some ({ s with procs := kill old s.procs }.setPc i (.start_set pid t))
  | .start_set pid t =>
    some ({ s with
      sshd_pid := pid
      sshd_duration := if s.sshd_when ≠ 0 then t - s.sshd_when else 0
      sshd_when := t
      lock := none }.setPc i (.start_spawn pid))
  | .start_spawn pid =>
    some { s with threads := s.threads.set i .idle ++ [.watch_wait pid] }
  | .file_enter pid =>
    if s.lock = none then
      some ({ s with sshd_pid := 0, lock := some i }.setPc i
        (if s.sshd_pid ≠ 0 then .file_kill pid s.sshd_pid else .file_set pid))
    else none
  | .file_kill pid old => some ({ s with procs := kill old s.procs }.setPc i (.file_set pid))
  | .file_set pid =>
    some ({ s with sshd_pid := pid, sshd_when := now, sshd_duration := 0, lock := none }.setPc i
      (.stop_enter .onCreate))
  | .watch_clock pid => some (s.setPc i (.watch_enter pid now))
  | .watch_enter pid t =>
    if s.lock = none then
      if s.sshd_pid = pid then
        some ({ s with sshd_pid := 0 }.setPc i
          (if do_restart s t then .stop_enter .do_start else .idle))
      else some (s.setPc i .idle)
    else none
  | .idle | .start_fork | .watch_wait _ => none

/-- One event; `none` when it cannot happen in this state. -/
def step (digit : Char → Option Nat) (s : State) : Event → Option State
  | .command c =>
    if s.threads[0]? = some .idle then some (s.setPc 0 (c.first digit)) else none
  | .advance i now => s.threads[i]?.bind (advance s i now)
  | .fork i res =>
    if s.threads[i]? = some .start_fork ∧ forkable s.procs res then
      some ({ s with procs := if 0 < res then s.procs ++ [({ pid := res } : Proc)] else s.procs }.setPc i
        (if res ≠ 0 then .start_clock res else .idle))
    else none
  | .waitpid i j =>
    match s.threads[i]? with
    | some (.watch_wait pid) =>
      match j with
      | some j =>
        match s.procs[j]? with
        | some d =>
          if d.exited ∧ d.awaited pid then
            some ({ s with procs := s.procs.set j { d with reaped := true } }.setPc i
              (.watch_clock pid))
          else none
        | none => none
      | none =>
        if s.procs.all fun d => !d.awaited pid then some (s.setPc i (.watch_clock pid)) else none
    | _ => none
  | .exit j =>
    match s.procs[j]? with
    | some d =>
      if d.exited then none else some { s with procs := s.procs.set j { d with exited := true } }
    | none => none

/-- The argument of the native `kill` call that an event makes, if it makes one. -/
def killArg (s : State) : Event → Option Int
  | .advance i _ =>
    match s.threads[i]? with
    | some (.stop_kill _ pid) => some pid
    | some (.start_kill _ _ old) => some old
    | some (.file_kill _ old) => some old
    | _ => none
  | _ => none

/-- The runs of the service from its class initialisation on. -/
def Reaches (digit : Char → Option Nat) (es : List Event) (s : State) : Prop :=
  Runs.Run (Runs.ofFun (step digit)) {} es s

/-! ## What a thread holds -/

/-- The daemon a `do_start` has forked and not yet put into `sshd_pid`. -/
def Pc.startHeld : Pc → Option Int
  | .start_clock pid | .start_enter pid _ | .start_kill pid _ _ | .start_set pid _ => some pid
  | _ => none

/-- The pid a `stop_sshd` has taken out of `sshd_pid` and is about to kill. -/
def Pc.stopHeld : Pc → Option Int
  | .stop_kill _ pid => some pid
  | .start_kill _ _ old => some old
  | .file_kill _ old => some old
  | _ => none

/-- The result of `start_sshd` that a `do_start` or a watcher works with. -/
def Pc.forked : Pc → Option Int
  | .start_spawn pid | .watch_wait pid | .watch_clock pid | .watch_enter pid _ => some pid
  | pc => pc.startHeld

/-- The daemon whose `waitpid` has returned to this watcher. -/
def Pc.awaited : Pc → Option Int
  | .watch_clock pid | .watch_enter pid _ => some pid
  | _ => none

/-- The pids in the local variables of a thread. -/
def Pc.pids : Pc → List Int
  | .stop_kill _ pid | .start_clock pid | .start_enter pid _ | .start_set pid _ | .start_spawn pid
  | .file_enter pid | .file_set pid | .watch_wait pid | .watch_clock pid | .watch_enter pid _ =>
    [pid]
  | .start_kill pid _ old | .file_kill pid old => [pid, old]
  | .idle | .stop_enter _ | .start_fork => []

/-- At a block of `stop_sshd`, which reads `sshd_pid`. -/
def Pc.atStopBlock : Pc → Bool
  | .stop_enter _ | .start_enter .. | .file_enter _ => true
  | _ => false

/-- Inside a synchronized block that is split over several events. -/
def Pc.critical : Pc → Bool
  | .start_kill .. | .start_set .. | .file_kill .. | .file_set .. => true
  | _ => false

/-- Inside `do_start` and still to assign `sshd_pid`. -/
def Pc.willAssign : Pc → Bool
  | .stop_enter .do_start | .stop_kill .do_start _ | .start_fork | .start_clock _
  | .start_enter .. | .start_kill .. | .start_set .. => true
  | _ => false

/-- Inside `do_start`. -/
def Pc.inDoStart : Pc → Bool
  | .start_spawn _ => true
  | pc => pc.willAssign

/-- Inside `maybe_restart` (the part of it before `do_start`). -/
def Pc.inMaybeRestart : Pc → Bool
  | .watch_clock _ | .watch_enter .. => true
  | _ => false

/-- Inside `onCreate`. -/
def Pc.inOnCreate : Pc → Bool
  | .file_enter _ | .file_kill .. | .file_set _ | .stop_enter .onCreate
  | .stop_kill .onCreate _ => true
  | _ => false

/-- Inside the `stop_sshd` of a stop command. -/
def Pc.inStop : Pc → Bool
  | .stop_enter .stop | .stop_kill .stop _ => true
  | _ => false

/-- The event gives the service no reason to start a daemon. -/
def Event.startless : Event → Bool
  | .command .start | .command (.onCreate _) => false
  | _ => true

/-- The operating system does not answer with a negative pid: no `fork` failed and no pid file holds a
negative number. -/
def Event.sane (digit : Char → Option Nat) : Event → Bool
  | .fork _ res => 0 ≤ res
  | .command (.onCreate file) => 0 ≤ read_pidfile digit file
  | _ => true

/-- Some daemon had this pid, and every one that had it has been reaped: the kernel is free to give
the pid to a stranger. -/
def Stale (ds : List Proc) (p : Int) : Prop :=
  (∃ d ∈ ds, d.pid = p) ∧ ∀ d ∈ ds, d.pid = p → d.reaped = true

instance (ds : List Proc) (p : Int) : Decidable (Stale ds p) := by
  unfold Stale; infer_instance

/-- `Character.digit(c, 10)` on ASCII. -/
def asciiDigit (c : Char) : Option Nat :=
  if '0' ≤ c ∧ c ≤ '9' then some (c.toNat - '0'.toNat) else none

end SimpleSshd.Service
