import SimpleSshd.Dropbear.ChannelRun
import SimpleSshd.Lib.Pipes

/-!
# A command and its pipes

The other side of the descriptors of a session without a terminal: the command and whoever else has its
output open write to two pipes, and what `read` answers is what is in them. A descriptor that `select`
reports has data or has reached its end; nothing of that kind is known about those that are read while
flushing. An exit is recorded only for a command that has exited.
-/

namespace SimpleSshd.Dropbear

open Fallible Pipes Runs

/-- The two pipes of a command, and whether it still runs. -/
structure World where
  out : Pipe UInt8
  err : Pipe UInt8
  alive : Bool

namespace World

def new : World where
  out := .new
  err := .new
  alive := true

/-- The pipe behind `readfd` or `errfd`. -/
def pipe (w : World) (isextended : Bool) : Pipe UInt8 := if isextended then w.err else w.out

def setPipe (w : World) (isextended : Bool) (p : Pipe UInt8) : World :=
  if isextended then { w with err := p } else { w with out := p }

end World

inductive WorldEvent
  /-- The command writes, or another process that has the pipe open. -/
  | writes (isextended : Bool) (data : Bytes) (command : Bool)
  /-- The last process that had the pipe open has closed it. -/
  | hangup (isextended : Bool)
  /-- The command exits. -/
  | exits

namespace World

def step (w : World) : WorldEvent → Option World
  | .writes isextended data command =>
    if (w.pipe isextended).hungup = false ∧ (command = true → w.alive = true) then
      some (w.setPipe isextended ((w.pipe isextended).write data command))
    else none
  | .hangup isextended => some (w.setPipe isextended (w.pipe isextended).hangup)
  | .exits => some { w with alive := false }

/-- Without data `read` returns 0 or `EAGAIN`. Unless the channel is flushed this is the end. -/
def AtEnd (w : World) (call : ReadCall) : Prop :=
  (w.pipe call.isextended).available = [] ∧
    ((w.pipe call.isextended).hungup = true ∨ call.flushing = true)

instance (w : World) (call : ReadCall) : Decidable (w.AtEnd call) :=
  inferInstanceAs (Decidable (_ ∧ _))

/-- What `read` can answer: what is in the pipe, as much as is asked for. -/
def CanAnswer (w : World) (call : ReadCall) : ReadAnswer → Prop
  | .bytes data => data = (w.pipe call.isextended).available ∧ (data ≠ [] ∨ w.AtEnd call)
  | .EINTR => True
  | .EAGAIN => w.AtEnd call
  | .error => False

instance (w : World) (call : ReadCall) : (answer : ReadAnswer) → Decidable (w.CanAnswer call answer)
  | .bytes _ => inferInstanceAs (Decidable (_ ∧ _))
  | .EINTR => inferInstanceAs (Decidable True)
  | .EAGAIN => inferInstanceAs (Decidable (w.AtEnd call))
  | .error => inferInstanceAs (Decidable False)

/-- The pipes after the call. -/
def consume (w : World) (call : ReadCall) : World :=
  match call.answer with
  | .bytes _ => w.setPipe call.isextended ((w.pipe call.isextended).read call.maxlen)
  | _ => w

/-- The calls of `read` in one event of the channel. Before each of them something may happen. -/
def serve (w : World) : List ReadCall → List (List WorldEvent) → Option World
  | [], _ => some w
  | call :: calls, between =>
    (exec step w (between.headD [])).bind fun w =>
      if w.CanAnswer call call.answer then (w.consume call).serve calls between.tail else none

end World

/-- A channel and the command behind it. -/
structure Exec where
  channel : Channel
  world : World

inductive ExecEvent
  | world (e : WorldEvent)
  /-- An event of the channel, and what happens between its calls of `read`. -/
  | channel (e : ChannelEvent) (between : List (List WorldEvent))

/-- An exit is recorded. -/
def ChannelEvent.isExit : ChannelEvent → Bool
  | .childExited _ => true
  | _ => false

/-- The calls of `read` since an earlier state. -/
def Channel.callsSince (channel before : Channel) : List ReadCall :=
  channel.trace.reads.drop before.trace.reads.length

def execStep (opts : Opts) (x : Exec) : ExecEvent → Option Exec
  | .world e =>
    if x.channel.trace.started = [] then none
    else (x.world.step e).map fun w => { x with world := w }
  | .channel e between =>
    if e.isExit = true → x.world.alive = false then
      (stepChannel opts x.channel e).bind fun c =>
        (x.world.serve (c.callsSince x.channel) between).map fun w => { channel := c, world := w }
    else none

/-- The events `es` lead from a created channel to `x`. -/
def ExecRun (opts : Opts) (es : List ExecEvent) (x : Exec) : Prop :=
  ∃ c₀, Created opts c₀ ∧ Run (ofFun (execStep opts)) { channel := c₀, world := .new } es x

/-- A session whose peer announced this window and this maximum packet size. -/
def runExec (opts : Opts) (transwindow transmaxpacket : Nat) (es : List ExecEvent) : Option Exec :=
  (recv_msg_channel_open opts 0 .svrchansess 0 transwindow transmaxpacket false).toOption.bind
    fun c => exec (execStep opts) { channel := c, world := .new } es

theorem execRun_of_runExec {opts : Opts} {transwindow transmaxpacket : Nat} {es : List ExecEvent}
    {x : Exec} (h : runExec opts transwindow transmaxpacket es = some x) : ExecRun opts es x := by
  obtain ⟨c₀, hopen, hexec⟩ := Option.bind_eq_some_iff.mp h
  exact ⟨c₀, .incoming 0 .svrchansess 0 transwindow transmaxpacket false (by decide)
    (toOption_eq_some hopen), run_of_exec hexec⟩

end SimpleSshd.Dropbear
