import SimpleSshd.Dropbear.ProcessPacket

/-!
# `common-session.c`: the order of `session_loop`

`SessionStep` allows the calls of `session_loop` in any order. An iteration of the loop makes them in
a fixed one: it sets up the descriptors, which may find that a connection has failed, checks the
timeouts, processes a packet if a whole one was read, flushes the reply queue, serves the channels
and writes to the socket. In between it sleeps in `select`, for as long as `select_timeout` says unless
something happens.
-/

namespace SimpleSshd.Dropbear

inductive LoopPhase
  /-- `set_connect_fds`, which answers for the connections that have failed. -/
  | connects
  | timeouts
  | input
  | flush
  /-- `handle_connect_fds`, `loophandler` and `channelio`. -/
  | channels
  | write
  deriving DecidableEq, Repr

def LoopPhase.next : LoopPhase → LoopPhase
  | .connects => .timeouts
  | .timeouts => .input
  | .input => .flush
  | .flush => .channels
  | .channels => .write
  | .write => .connects

/-- The calls of each phase. -/
def LoopPhase.calls : LoopPhase → Event → Bool
  | .connects, .channels _ _ => true
  | .timeouts, .timeouts _ _ => true
  | .input, .ident _ => true
  | .input, .packet _ _ _ _ => true
  | .flush, .flush _ => true
  | .channels, .channels _ _ => true
  | .write, .write _ => true
  | _, _ => false

structure Loop where
  phase : LoopPhase
  ses : Session

/-- A phase of the loop. The input may bring no whole packet. -/
inductive LoopStep (cfg : Config) : Loop → Option Event → Loop → Prop
  | call {phase : LoopPhase} {e : Event} {s s' : Session} (hphase : phase.calls e = true)
      (h : SessionStep cfg s e s') : LoopStep cfg ⟨phase, s⟩ (some e) ⟨phase.next, s'⟩
  | idle {s : Session} : LoopStep cfg ⟨.input, s⟩ none ⟨.flush, s⟩

/-! ## Sleeping -/

def update_timeout (limit now last_event timeout : Int) : Int :=
  if last_event > 0 ∧ limit > 0 then min timeout (last_event + limit - now) else timeout

def select_timeout (cfg : Config) (now : Nat) (s : Session) : Int :=
  let timeout : Int := KEX_REKEY_TIMEOUT
  let timeout := if !s.kexstate.sentkexinit then
    update_timeout KEX_REKEY_TIMEOUT now s.kexstate.lastkextime timeout else timeout
  -- only relevant before authdone
  let timeout := if !s.authstate.authdone then
    update_timeout AUTH_TIMEOUT now s.connect_time timeout else timeout
  let timeout := if s.authstate.authdone then
    update_timeout cfg.keepalive_secs now
      (max s.last_packet_time_keepalive_recv s.out.last_packet_time_keepalive_sent) timeout
    else timeout
  let timeout := update_timeout cfg.idle_timeout_secs now s.out.last_packet_time_idle timeout
  -- clamp negative timeouts to zero
  max timeout 0

end SimpleSshd.Dropbear
