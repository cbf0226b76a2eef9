import SimpleSshd.Lib.Descriptors
import SimpleSshd.Lib.Runs
import SimpleSshd.Lib.Slots
import SimpleSshd.Dropbear.Buffer

/-!
# `svr-main.c`: the process that listens

`main_noinetd` waits for connections and forks a child for each. For a child that has not
authenticated yet it holds the read end of a pipe: the child closes the other end when it has, or when
it exits. Two arrays hold these pipes and the hosts that the children talk to.

The state has, beside the two arrays, what the kernel knows: the descriptors that were created in the
loop and are open, and the calls of `fork`. One iteration of the loop is one event for `select` and
one for every listening socket that it reports.
-/

namespace SimpleSshd.Dropbear

open Descriptors Slots

def MAX_UNAUTH_CLIENTS : Nat := 30
def MAX_UNAUTH_PER_IP : Nat := 5

/-- What a descriptor that was created in the loop refers to. A pipe goes with the call of `fork` that
comes after it, and has its number. -/
inductive Handle
  | connection (remote_host : Bytes)
  | readEnd (pipe : Nat)
  | writeEnd (pipe : Nat)
  deriving DecidableEq, Repr

/-- A call of `fork`: for which host, with which pipe, and the child's pid if it succeeded. -/
structure Fork where
  remote_host : Bytes
  readEnd : Nat
  writeEnd : Nat
  pid : Option Nat
  deriving DecidableEq, Repr

structure Daemon where
  listensocks : List Nat
  /-- Nothing in a slot that is -1. -/
  childpipes : List (Option Nat)
  preauth_addrs : List (Option Bytes)
  /-- The sockets that `select` reported and that were not handled yet. -/
  pending : List Nat
  fds : Table Handle
  forks : List Fork

def Daemon.start (listensocks : List Nat) : Daemon where
  listensocks := listensocks
  childpipes := List.replicate MAX_UNAUTH_CLIENTS none
  preauth_addrs := List.replicate MAX_UNAUTH_CLIENTS none
  pending := []
  fds := ∅
  forks := []

/-! ## Descriptors -/

/-- A descriptor is created. -/
def Daemon.newfd (d : Daemon) (n : Numbering) (what : Handle) : Nat × Daemon :=
  let fd := number d.fds d.listensocks n
  (fd, { d with fds := d.fds.insert fd what })

def Daemon.m_close (d : Daemon) (fd : Nat) : Daemon := { d with fds := d.fds.erase fd }

/-! ## Clients that have authenticated or gone -/

/-- How `select` returns, and whether a signal has set `ses.exitflag`. -/
inductive Selected
  | exitflag
  | timeout
  | eintr
  | error
  | ready (readable : List Nat)
  deriving DecidableEq, Repr

def Daemon.releaseSlot (readable : List Nat) (d : Daemon) (i : Nat) : Daemon :=
  match lookup d.childpipes i with
  | none => d
  | some fd =>
    if fd ∈ readable then
      { d.m_close fd with
        childpipes := clear d.childpipes i
        preauth_addrs := clear d.preauth_addrs i }
    else d

/-- The slots of the clients whose pipe can be read, and so was closed by them. -/
def Daemon.release (d : Daemon) (readable : List Nat) : Daemon :=
  (List.range MAX_UNAUTH_CLIENTS).foldl (Daemon.releaseSlot readable) d

def Daemon.select (d : Daemon) : Selected → Except Exit Daemon
  | .exitflag => dropbear_exit "Terminated by signal"
  | .timeout => pure d
  | .eintr => pure d
  | .error => dropbear_exit "Listening socket error"
  | .ready readable =>
    pure { d.release readable with pending := d.listensocks.filter (· ∈ readable) }

/-! ## New clients -/

/-- The variables of the pass over the slots. -/
structure Counts where
  num_unauthed_for_addr : Nat := 0
  num_unauthed_total : Nat := 0
  conn_idx : Nat := 0
  deriving DecidableEq, Repr

def Daemon.countSlot (d : Daemon) (remote_host : Bytes) (c : Counts) (j : Nat) :
    Except Exit Counts :=
  match lookup d.childpipes j with
  | some _ =>
    match lookup d.preauth_addrs j with
    | some addr => pure { c with
        num_unauthed_total := c.num_unauthed_total + 1
        num_unauthed_for_addr := c.num_unauthed_for_addr + if remote_host = addr then 1 else 0 }
    | none => .error .fault
  -- a free slot
  | none => pure { c with conn_idx := j }

def Daemon.countSlots (d : Daemon) (remote_host : Bytes) : Except Exit Counts :=
  (List.range MAX_UNAUTH_CLIENTS).foldlM (d.countSlot remote_host) {}

/-- What the kernel answers for a listening socket. -/
structure Answer where
  /-- The address of the client as `getaddrstring` writes it, unless `accept` fails. -/
  accept : Option Bytes
  /-- `seedrandom` can read the random device. -/
  seeded : Bool := true
  /-- `pipe` succeeds. -/
  pipe : Bool := true
  /-- The pid of the child, unless `fork` fails. -/
  fork : Option Nat
  numbering : Numbering

/-- The part between `accept` and `out`. -/
def Daemon.accepted (d : Daemon) (remote_host : Bytes) (a : Answer) : Except Exit Daemon := do
  let c ← d.countSlots remote_host
  if c.num_unauthed_total ≥ MAX_UNAUTH_CLIENTS ∨ c.num_unauthed_for_addr ≥ MAX_UNAUTH_PER_IP then
    pure d
  else if !a.seeded then dropbear_exit "Failure reading random device %s"
  else if !a.pipe then pure d
  else
    let (readEnd, d) := d.newfd a.numbering (.readEnd d.forks.length)
    let (writeEnd, d) := d.newfd a.numbering (.writeEnd d.forks.length)
    let d := { d with forks := d.forks ++ [{ remote_host, readEnd, writeEnd, pid := a.fork }] }
    match a.fork with
    | none => pure d
    | some _ =>
      -- the parent
      let d := { d with childpipes := place d.childpipes c.conn_idx readEnd }
      let d := d.m_close writeEnd
      pure { d with preauth_addrs := place d.preauth_addrs c.conn_idx remote_host }

/-- A listening socket that `select` reported. -/
def Daemon.socket (d : Daemon) (a : Answer) : Except Exit Daemon :=
  match a.accept with
  | none => pure d
  | some remote_host => do
    let (childsock, d) := d.newfd a.numbering (.connection remote_host)
    let d ← d.accepted remote_host a
    -- out:
    pure (d.m_close childsock)

/-! ## The loop -/

inductive DaemonEvent
  | select (outcome : Selected)
  | socket (a : Answer)

def DaemonEvent.Possible (d : Daemon) : DaemonEvent → Prop
  | .select _ => d.pending = []
  | .socket _ => d.pending ≠ []

instance DaemonEvent.decidablePossible (d : Daemon) : (e : DaemonEvent) → Decidable (e.Possible d)
  | .select _ => inferInstanceAs (Decidable (_ = _))
  | .socket _ => inferInstanceAs (Decidable (_ ≠ _))

def daemonStep (d : Daemon) : DaemonEvent → Except Exit Daemon
  | .select outcome => d.select outcome
  | .socket a => Daemon.socket { d with pending := d.pending.tail } a

def DaemonStep (d : Daemon) (e : DaemonEvent) (d' : Daemon) : Prop :=
  e.Possible d ∧ daemonStep d e = .ok d'

/-- The events `es` lead from the start of the loop to `d`. -/
def DaemonRun (listensocks : List Nat) (es : List DaemonEvent) (d : Daemon) : Prop :=
  Runs.Run DaemonStep (Daemon.start listensocks) es d

/-- A step, if it is possible and does not end the process. -/
def stepDaemon (d : Daemon) (e : DaemonEvent) : Option Daemon :=
  if e.Possible d then (daemonStep d e).toOption else none

def runDaemon (listensocks : List Nat) (es : List DaemonEvent) : Option Daemon :=
  Runs.exec stepDaemon (Daemon.start listensocks) es

theorem daemonRun_of_runDaemon {listensocks : List Nat} {es : List DaemonEvent} {d : Daemon}
    (h : runDaemon listensocks es = some d) : DaemonRun listensocks es d := by
  refine (Runs.run_of_exec h).mono fun d e d' hstep => ?_
  unfold Runs.ofFun stepDaemon at hstep
  split_ifs at hstep with hpossible
  exact ⟨hpossible, Fallible.toOption_eq_some hstep⟩

end SimpleSshd.Dropbear
