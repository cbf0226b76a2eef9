import SimpleSshd.Lib.Runs

/-!
# `svr_ensure_hostkey`: first connections racing for the host key file

With `-R` the daemon starts without host keys. A session process that needs one reads the key file,
and if that fails it generates a key, writes it to a temporary file of its own, publishes that with
`link` (or with `rename`, if the file system has no hard links) and reads the file again. The
processes run side by side; an event is one file system operation of one of them.

The temporary file's name contains the pid, so no two processes share one, and it is kept with its
process here.
-/

namespace SimpleSshd.HostKey

abbrev Bytes := List UInt8

def MAX_PRIVKEY_SIZE : Nat := 1700

/-- What `link` does: fail with `EEXIST` if the name is taken, or always fail with another error
(`/sdcard`). -/
inductive FileSystem
  | hard_links
  | no_hard_links
  deriving DecidableEq, Repr

/-- What `buf_get_priv_key` does with the content of a file: exit, return failure or find a key. -/
inductive Parsed (Key : Type)
  | exit
  | failure
  | success (key : Key)
  deriving DecidableEq, Repr

/-- Where a process stands in `svr_ensure_hostkey`. -/
inductive Pc
  /-- Not inside `svr_ensure_hostkey`. -/
  | idle
  /-- At the first `readhostkey`. -/
  | read_first
  /-- In `signkey_generate`, at `buf_writefile`. -/
  | write
  | link
  | rename
  /-- At the `out` label of `signkey_generate`, with the value of `ret`. -/
  | unlink (ret : Bool)
  /-- At the second `readhostkey`. -/
  | read_again
  /-- The process has called `dropbear_exit`. -/
  | exited
  deriving DecidableEq, Repr

structure Process (Key : Type) where
  pc : Pc := .idle
  /-- `svr_opts.hostkey`, the slot of the key type at hand. -/
  hostkey : Option Key := none
  /-- The content of `<filename>.tmp<pid>`. -/
  temp : Option Bytes := none
  deriving DecidableEq, Repr

structure State (Key : Type) where
  /-- The content of the key file. -/
  keyfile : Option Bytes := none
  procs : List (Process Key) := []
  deriving DecidableEq, Repr

inductive Event
  /-- The daemon forks a process for a new connection. -/
  | connect
  /-- Process `i` calls `svr_ensure_hostkey`. -/
  | call (i : Nat)
  /-- Process `i` opens and reads the key file; `ok` says whether the system calls succeed. -/
  | read (i : Nat) (ok : Bool)
  /-- Process `i` has generated a key, `buf`, and writes it to its temporary file. `open` fails
  (`none`), or that many bytes are written before `write` fails or is done. -/
  | write (i : Nat) (buf : Bytes) (written : Option Nat)
  | link (i : Nat)
  /-- Process `i` calls `rename`, which succeeds or not. -/
  | rename (i : Nat) (ok : Bool)
  | unlink (i : Nat)
  deriving DecidableEq, Repr

section Model

variable {Key : Type} (fs : FileSystem) (buf_get_priv_key : Bytes → Parsed Key)

/-- `buf_readfile` fills a buffer of `MAX_PRIVKEY_SIZE` bytes. -/
def readhostkey (ok : Bool) (keyfile : Option Bytes) : Parsed Key :=
  match ok, keyfile with
  | true, some content => buf_get_priv_key (content.take MAX_PRIVKEY_SIZE)
  | _, _ => .failure

def State.set (s : State Key) (i : Nat) (p : Process Key) : State Key :=
  { s with procs := s.procs.set i p }

/-- The result of `readhostkey` in `svr_ensure_hostkey`: `next` is what follows a failure. -/
def afterRead (p : Process Key) (next : Pc) : Parsed Key → Process Key
  | .exit => { p with pc := .exited }
  | .failure => { p with pc := next }
  | .success key => { p with pc := .idle, hostkey := some key }

/-- One event of process `i`, which is `p`; `none` when it cannot happen. -/
def act (s : State Key) (i : Nat) (p : Process Key) : Event → Option (State Key)
  | .connect => none
  | .call _ =>
    if p.pc = .idle then
      some (if p.hostkey.isSome then s else s.set i { p with pc := .read_first })
    else none
  | .read _ ok =>
    match p.pc with
    | .read_first =>
      some (s.set i (afterRead p .write (readhostkey buf_get_priv_key ok s.keyfile)))
    | .read_again =>
      some (s.set i (afterRead p .exited (readhostkey buf_get_priv_key ok s.keyfile)))
    | _ => none
  | .write _ buf written =>
    if p.pc = .write then
      match written with
      | none => some (s.set i { p with pc := .unlink false })
      | some n =>
        some (s.set i { p with
          pc := if buf.length ≤ n then .link else .unlink false
          temp := some (buf.take n) })
    else none
  | .link _ =>
    if p.pc = .link then
      match fs, s.keyfile with
      | .hard_links, none => some ({ s with keyfile := p.temp }.set i { p with pc := .unlink true })
      | .hard_links, some _ => some (s.set i { p with pc := .unlink true })
      | .no_hard_links, _ => some (s.set i { p with pc := .rename })
    else none
  | .rename _ ok =>
    if p.pc = .rename then
      if ok then
        some ({ s with keyfile := p.temp }.set i { p with pc := .unlink true, temp := none })
      else some (s.set i { p with pc := .unlink false })
    else none
  | .unlink _ =>
    match p.pc with
    | .unlink ret =>
      some (s.set i { p with pc := if ret then .read_again else .exited, temp := none })
    | _ => none

/-- The process that an event is about. -/
def Event.process : Event → Option Nat
  | .connect => none
  | .call i | .read i _ | .write i _ _ | .link i | .rename i _ | .unlink i => some i

def step (s : State Key) (e : Event) : Option (State Key) :=
  match e.process with
  | none => some { s with procs := s.procs ++ [{}] }
  | some i => s.procs[i]?.bind fun p => act fs buf_get_priv_key s i p e

/-- A `rename` does not replace a key file that is there. Nothing is asked of a file system with hard
links. -/
def RenameFresh (s : State Key) : Event → Prop
  | .rename _ _ => fs = .hard_links ∨ s.keyfile = none
  | _ => True

instance (s : State Key) (e : Event) : Decidable (RenameFresh fs s e) := by
  cases e <;> unfold RenameFresh <;> infer_instance

end Model

end SimpleSshd.HostKey
