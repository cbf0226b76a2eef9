import SimpleSshd.Dropbear.CircBuffer

/-!
# `common-channel.c`: a channel of the server

A channel connects the peer to the local descriptors of a process or a socket. `CHANNEL_DATA` goes to
`writefd`, through a ring buffer while the descriptor does not take it; what is read from `readfd` and
`errfd` is sent to the peer. The peer may send as much as the receive window says, and
`CHANNEL_WINDOW_ADJUST` opens it again by what has been written.

What the kernel answers to `read` and `write` and which descriptors `select` reports are arguments of
the functions that ask. Messages to the peer are collected in the order in which they are handed to
`encrypt_packet`. This is the server without `writev`: a channel has no `extrabuf`, so `errfd` is only
read from, and no `read_mangler`. That `close` reports an I/O error, which ends the process, is left
out.
-/

namespace SimpleSshd.Dropbear

open Wire (add32 sub32 RECV_MAX_PAYLOAD_LEN)

/-! ## Options and limits -/

def MAX_RECV_WINDOW : Nat := 1024 * 1024
def DEFAULT_RECV_WINDOW : Nat := 24576
def TRANS_MAX_WINDOW : Nat := 500000000
def TRANS_MAX_WIN_INCR : Nat := 500000000
def RECV_MAX_CHANNEL_DATA_LEN : Nat := RECV_MAX_PAYLOAD_LEN - (1 + 4 + 4)

/-- `opts` and `svr_opts`, as far as channels read them. -/
structure Opts where
  recv_window : Nat
  recv_window_pos : 0 < recv_window
  recv_window_le : recv_window ≤ MAX_RECV_WINDOW
  /-- `svr_opts.forced_command`. -/
  forced_command : Option Bytes
  conf_lib : Bytes
  deriving DecidableEq, Repr

/-- Without `-W`. -/
def Opts.default (forced_command : Option Bytes) (conf_lib : Bytes) : Opts where
  recv_window := DEFAULT_RECV_WINDOW
  recv_window_pos := by decide
  recv_window_le := by decide
  forced_command := forced_command
  conf_lib := conf_lib

/-- With `-W`, whose argument is this number for `atol`. -/
def Opts.withRecvWindow (opts : Opts) (recv_window_arg : Int) : Except Exit Opts :=
  let recv_window := (recv_window_arg % 2 ^ 32).toNat
  if h : recv_window = 0 ∨ recv_window > MAX_RECV_WINDOW then dropbear_exit "Bad recv window '%s'"
  else pure { opts with
    recv_window := recv_window
    recv_window_pos := by omega
    recv_window_le := by omega }

/-- A window adjust is sent for this many bytes. -/
def RECV_WINDOWEXTEND (opts : Opts) : Nat := opts.recv_window / 3

/-! ## Types of channels -/

/-- The `struct ChanType`s of the server. -/
inductive ChanType
  | svrchansess
  | svr_chan_tcpdirect
  | svr_chan_tcpremote
  deriving DecidableEq, Repr

namespace ChanType

/-- Whether the directions of the descriptor are shut down one by one. -/
def sepfds : ChanType → Bool
  | svrchansess => false
  | svr_chan_tcpdirect => true
  | svr_chan_tcpremote => true

def name : ChanType → String
  | svrchansess => "session"
  | svr_chan_tcpdirect => "direct-tcpip"
  | svr_chan_tcpremote => "forwarded-tcpip"

/-- There is a `check_close` handler, `sesscheckclose`. -/
def check_close : ChanType → Bool
  | svrchansess => true
  | svr_chan_tcpdirect => false
  | svr_chan_tcpremote => false

/-- There is a `reqhandler`, `chansessionrequest`. -/
def reqhandler : ChanType → Bool
  | svrchansess => true
  | svr_chan_tcpdirect => false
  | svr_chan_tcpremote => false

/-- There is a `closehandler`, `closechansess`. -/
def closehandler : ChanType → Bool
  | svrchansess => true
  | svr_chan_tcpdirect => false
  | svr_chan_tcpremote => false

end ChanType

/-! ## Sessions -/

/-- How a process ended. -/
inductive ExitStatus
  | exitstatus (status : Nat)
  | exitsignal (signal : Nat) (core : Bool)
  deriving DecidableEq, Repr

/-- `struct exitinfo` of a process that has exited. -/
structure ExitInfo where
  exitpid : Nat
  status : ExitStatus
  deriving DecidableEq, Repr

/-- `struct ChanSess`, the `typedata` of a session. A C string is the bytes before its NUL. -/
structure ChanSess where
  cmd : Option Bytes
  original_command : Option Bytes
  /-- Zero before a command was started. -/
  pid : Nat
  master : Int
  slave : Int
  tty : Option Bytes
  term : Option Bytes
  /-- `none` for `exitpid == -1`. -/
  exit : Option ExitInfo
  deriving DecidableEq, Repr

def signames : List (Nat × String) :=
  [(6, "ABRT"), (14, "ALRM"), (8, "FPE"), (1, "HUP"), (4, "ILL"), (2, "INT"), (9, "KILL"),
    (13, "PIPE"), (3, "QUIT"), (11, "SEGV"), (15, "TERM"), (10, "USR1"), (12, "USR2")]

/-! ## Messages -/

def SSH_MSG_CHANNEL_EXTENDED_DATA : UInt8 := 95
def SSH_EXTENDED_DATA_STDERR : Nat := 1

/-- What a channel sends. -/
inductive ChannelMsg
  | CHANNEL_OPEN (name : String) (index recv_window maxpacket : Nat)
  | CHANNEL_OPEN_CONFIRMATION (remotechan index recvwindow recvmaxpacket : Nat)
  | CHANNEL_OPEN_FAILURE (remotechan reason : Nat)
  | CHANNEL_WINDOW_ADJUST (remotechan incr : Nat)
  | CHANNEL_DATA (remotechan : Nat) (data : Bytes)
  | CHANNEL_EXTENDED_DATA (remotechan : Nat) (data : Bytes)
  | CHANNEL_EOF (remotechan : Nat)
  | CHANNEL_CLOSE (remotechan : Nat)
  | CHANNEL_SUCCESS (remotechan : Nat)
  | CHANNEL_FAILURE (remotechan : Nat)
  /-- The `CHANNEL_REQUEST` "exit-status". -/
  | exitstatus (remotechan status : Nat)
  /-- The `CHANNEL_REQUEST` "exit-signal". -/
  | exitsignal (remotechan : Nat) (signame : String) (core : Bool)
  /-- The `CHANNEL_REQUEST` "keepalive@openssh.com". -/
  | keepalive (remotechan : Nat)
  deriving DecidableEq, Repr

/-- How much a message lets the peer send. -/
def ChannelMsg.credit : ChannelMsg → Nat
  | .CHANNEL_WINDOW_ADJUST _ incr => incr
  | _ => 0

/-- The data a message carries for the peer. -/
def ChannelMsg.data : ChannelMsg → Bytes
  | .CHANNEL_DATA _ data => data
  | .CHANNEL_EXTENDED_DATA _ data => data
  | _ => []

/-! ## Channels -/

def FD_UNINIT : Int := -2
def FD_CLOSED : Int := -1

/-- What the kernel makes of a call of `read`. -/
inductive ReadAnswer
  /-- As many of these as there is room for; none at the end of the file. -/
  | bytes (bytes : Bytes)
  | EINTR
  | EAGAIN
  /-- Any other error. -/
  | error
  deriving DecidableEq, Repr

/-- The bytes that were read, if there is room for `maxlen`. -/
def ReadAnswer.data (answer : ReadAnswer) (maxlen : Nat) : Bytes :=
  match answer with
  | .bytes bs => bs.take maxlen
  | _ => []

/-- `len <= 0 && (len == 0 || errno != EINTR)`: there is nothing more to read. -/
def ReadAnswer.failed (answer : ReadAnswer) (maxlen : Nat) : Bool :=
  match answer with
  | .bytes bs => bs.take maxlen = []
  | .EINTR => false
  | .EAGAIN => true
  | .error => true

/-- A call of `read`, on `errfd` or on `readfd`, and whether the channel was being flushed. -/
structure ReadCall where
  isextended : Bool
  maxlen : Nat
  answer : ReadAnswer
  flushing : Bool
  deriving DecidableEq, Repr

/-- After the call the descriptor is closed: it failed, or while flushing it got less than it could
have. -/
def ReadCall.ends (call : ReadCall) : Bool :=
  call.answer.failed call.maxlen ||
    (call.flushing && call.answer.data call.maxlen != [] &&
      (call.answer.data call.maxlen).length < call.maxlen)

/-- A process that was started for a channel, and the descriptors the channel has for it. -/
structure Started where
  pid : Nat
  cmd : Option Bytes
  /-- It runs on a terminal, not on pipes. -/
  pty : Bool
  writefd : Int
  readfd : Int
  errfd : Int
  /-- `CHANNEL_EOF` had been sent before. -/
  afterEof : Bool
  /-- `CHANNEL_CLOSE` had been sent before. -/
  afterClose : Bool
  deriving DecidableEq, Repr

/-- What has happened on the channel. The code does not have it. -/
structure ChannelTrace where
  /-- How often the descriptors have been set up. -/
  setups : Nat := 0
  started : List Started := []
  /-- The data that arrived while `writefd` was open. -/
  received : Bytes := []
  /-- Data that is being handled: charged to the window, and not yet in the ring. -/
  inflight : Bytes := []
  /-- What `write` accepted on `writefd`. -/
  written : Bytes := []
  /-- How much data all `CHANNEL_DATA` messages so far said they had. -/
  claimed : Nat := 0
  /-- A `write` to `writefd` failed. -/
  writeFailed : Bool := false
  reads : List ReadCall := []
  /-- The peer answered our `CHANNEL_OPEN` with a failure. -/
  refused : Bool := false
  /-- The initial window the peer announced. -/
  announced : Nat := 0
  /-- The sum of all window adjusts received. -/
  adjusted : Nat := 0
  deriving DecidableEq, Repr

structure Channel where
  index : Nat
  remotechan : Nat
  recvwindow : Nat
  transwindow : Nat
  recvdonelen : Nat
  recvmaxpacket : Nat
  transmaxpacket : Nat
  writefd : Int
  readfd : Int
  errfd : Int
  writebuf : Circbuffer
  sent_close : Bool
  recv_close : Bool
  recv_eof : Bool
  sent_eof : Bool
  /-- A connection is being made. -/
  conn_pending : Bool
  await_open : Bool
  flushing : Bool
  type : ChanType
  /-- The `typedata` of a session. -/
  chansess : Option ChanSess
  /-- The channel has been taken out of `ses.channels` and freed. -/
  removed : Bool
  /-- What was handed to `encrypt_packet`. -/
  sent : List ChannelMsg
  trace : ChannelTrace
  deriving DecidableEq, Repr

def Channel.submit (channel : Channel) (msg : ChannelMsg) : Channel :=
  { channel with sent := channel.sent ++ [msg] }

/-- How much the peer has been allowed to send beyond the initial window. -/
def Channel.granted (channel : Channel) : Nat := (channel.sent.map ChannelMsg.credit).sum

/-- The exit that was recorded for the channel. -/
def Channel.exit (channel : Channel) : Option ExitInfo := channel.chansess.bind ChanSess.exit

/-- `sesscheckclose`, if the type has it. -/
def Channel.exited (channel : Channel) : Bool := channel.type.check_close && channel.exit.isSome

def newchannel (opts : Opts) (index remotechan : Nat) (type : ChanType)
    (transwindow transmaxpacket : Nat) : Except Exit Channel := do
  let writebuf ← cbuf_new opts.recv_window
  pure {
    index := index
    remotechan := remotechan
    recvwindow := opts.recv_window
    transwindow := transwindow
    recvdonelen := 0
    recvmaxpacket := RECV_MAX_CHANNEL_DATA_LEN
    transmaxpacket := transmaxpacket
    writefd := FD_UNINIT
    readfd := FD_UNINIT
    errfd := FD_CLOSED
    writebuf := writebuf
    sent_close := false
    recv_close := false
    recv_eof := false
    sent_eof := false
    conn_pending := false
    await_open := false
    flushing := false
    type := type
    chansess := none
    removed := false
    sent := []
    trace := {} }

/-! ## Closing -/

inductive How
  | SHUT_RD
  | SHUT_WR
  | SHUT_RDWR
  deriving DecidableEq, Repr

def close_chan_fd (channel : Channel) (fd : Int) (how : How) : Channel :=
  -- without `sepfds` the descriptor is closed, whichever direction was meant
  let closeout := !channel.type.sepfds || how == .SHUT_RD
  let closein := !channel.type.sepfds || how != .SHUT_RD
  { channel with
    readfd := if closeout && fd == channel.readfd then FD_CLOSED else channel.readfd
    errfd := if closeout && fd == channel.errfd then FD_CLOSED else channel.errfd
    writefd := if closein && fd == channel.writefd then FD_CLOSED else channel.writefd }

/-- `send_exitsignalstatus`. A signal without a name is not reported. -/
def closechansess (channel : Channel) : Channel :=
  match channel.exit with
  | none => channel
  | some { status := .exitstatus status, .. } =>
    channel.submit (.exitstatus channel.remotechan status)
  | some { status := .exitsignal signal core, .. } =>
    match signames.lookup signal with
    | none => channel
    | some signame => channel.submit (.exitsignal channel.remotechan signame core)

def send_msg_channel_close (channel : Channel) : Channel :=
  let channel := if channel.type.closehandler then closechansess channel else channel
  let channel := { channel.submit (.CHANNEL_CLOSE channel.remotechan) with
    sent_eof := true, sent_close := true }
  let channel := close_chan_fd channel channel.readfd .SHUT_RD
  let channel := close_chan_fd channel channel.errfd .SHUT_RDWR
  close_chan_fd channel channel.writefd .SHUT_WR

def send_msg_channel_eof (channel : Channel) : Channel :=
  { channel.submit (.CHANNEL_EOF channel.remotechan) with sent_eof := true }

/-- The descriptors that are still open are closed, and a pending connection is cancelled. -/
def remove_channel (channel : Channel) : Channel :=
  { channel with
    writefd := FD_CLOSED
    readfd := FD_CLOSED
    errfd := FD_CLOSED
    conn_pending := false
    removed := true }

/-! ## From the local side to the peer -/

/-- The descriptor that `send_msg_channel_data` reads from. -/
def Channel.sourceFd (channel : Channel) (isextended : Bool) : Int :=
  if isextended then channel.errfd else channel.readfd

def dataMessage (isextended : Bool) (remotechan : Nat) (data : Bytes) : ChannelMsg :=
  if isextended then .CHANNEL_EXTENDED_DATA remotechan data else .CHANNEL_DATA remotechan data

/-- The room for data: by the peer's window and maximum packet size, and in `ses.writepayload`. -/
def Channel.maxlen (channel : Channel) (isextended : Bool) : Nat :=
  min (min channel.transwindow channel.transmaxpacket)
    (TRANS_MAX_PAYLOAD_LEN - 1 - 4 - 4 - (if isextended then 4 else 0))

/-- `exttype`. -/
def putExttype (isextended : Bool) (writepayload : Buffer) : Except Exit Buffer :=
  if isextended then buf_putint writepayload SSH_EXTENDED_DATA_STDERR else pure writepayload

/-- `ses.writepayload` before the data is read, and where the size of the data will stand. -/
def dataHeader (isextended : Bool) (remotechan : Nat) : Except Exit (Buffer × Nat) := do
  let writepayload ← buf_new TRANS_MAX_PAYLOAD_LEN
  let writepayload ← buf_putbyte writepayload
    (if isextended then SSH_MSG_CHANNEL_EXTENDED_DATA else SSH_MSG_CHANNEL_DATA)
  let writepayload ← buf_putint writepayload remotechan
  let writepayload ← putExttype isextended writepayload
  -- a dummy size first
  let size_pos := writepayload.pos
  let writepayload ← buf_putint writepayload 0
  pure (writepayload, size_pos)

/-- The data in `ses.writepayload`, where `read` put it, and its size. -/
def dataPayload (writepayload : Buffer) (size_pos : Nat) (data : Bytes) : Except Exit Buffer := do
  let writepayload ← writepayload.store data
  let writepayload ← buf_incrwritepos writepayload data.length
  let writepayload ← buf_setpos writepayload size_pos
  buf_putint writepayload data.length

/-- Nothing is put there if nothing was read. -/
def putData (writepayload : Buffer) (size_pos : Nat) (data : Bytes) : Except Exit Unit :=
  if data = [] then pure ()
  else do
    let _ ← dataPayload writepayload size_pos data
    pure ()

/-- The bytes that were read are sent. While flushing, fewer than there was room for are the last. -/
def Channel.sendData (channel : Channel) (isextended : Bool) (maxlen : Nat) (data : Bytes) :
    Channel :=
  let channel := { channel with transwindow := sub32 channel.transwindow data.length }
  let channel := channel.submit (dataMessage isextended channel.remotechan data)
  if channel.flushing && data.length < maxlen then
    close_chan_fd channel (channel.sourceFd isextended) .SHUT_RD
  else channel

/-- The call of `read` in the trace. -/
def Channel.noteRead (channel : Channel) (isextended : Bool) (answer : ReadAnswer) : Channel :=
  { channel with
    trace := { channel.trace with
      reads := channel.trace.reads ++ [{
        isextended := isextended
        maxlen := channel.maxlen isextended
        answer := answer
        flushing := channel.flushing }] } }

/-- What follows from the answer to `read`. -/
def Channel.afterRead (channel : Channel) (isextended : Bool) (answer : ReadAnswer) : Channel :=
  let maxlen := channel.maxlen isextended
  let channel := channel.noteRead isextended answer
  if answer.failed maxlen then close_chan_fd channel (channel.sourceFd isextended) .SHUT_RD
  else if answer.data maxlen = [] then channel
  else channel.sendData isextended maxlen (answer.data maxlen)

def send_msg_channel_data (channel : Channel) (isextended : Bool) (answer : ReadAnswer) :
    Except Abort Channel := do
  dropbear_assertion .sendDataClosed (channel.sent_close = false)
  dropbear_assertion .sendDataFd (0 ≤ channel.sourceFd isextended)
  let maxlen := channel.maxlen isextended
  if maxlen = 0 then pure channel
  else
    let (writepayload, size_pos) ← exits (dataHeader isextended channel.remotechan)
    exits (buf_getwriteptr writepayload maxlen)
    exits (putData writepayload size_pos (answer.data maxlen))
    pure (channel.afterRead isextended answer)

/-! ## `check_close` -/

/-- There is data for `writefd`. -/
def write_pending (channel : Channel) : Bool :=
  0 ≤ channel.writefd && 0 < cbuf_getused channel.writebuf

/-- What `read` answers while a channel is flushed. -/
structure FlushAnswers where
  read : ReadAnswer
  err : ReadAnswer
  deriving DecidableEq, Repr

/-- A descriptor read after the child has exited, whether or not `select` reported it. -/
def Channel.flushFd (channel : Channel) (isextended : Bool) (answer : ReadAnswer) :
    Except Abort Channel :=
  if channel.flushing ∧ 0 ≤ channel.sourceFd isextended ∧ 0 < channel.transwindow then
    send_msg_channel_data channel isextended answer
  else pure channel

/-- Nothing more will be sent on the channel but the end. -/
def Channel.readClosed (channel : Channel) : Bool :=
  channel.readfd == FD_CLOSED && channel.errfd == FD_CLOSED

/-- A session may be closed only once its child has exited. -/
def Channel.closeAllowed (channel : Channel) : Bool :=
  !channel.type.check_close || channel.sent_close || channel.exited

/-- `writefd` is closed: nothing more will come for it, or the child has exited. -/
def Channel.closeInput (channel : Channel) : Channel :=
  if channel.recv_eof && !write_pending channel ||
      channel.type.check_close && channel.closeAllowed then
    close_chan_fd channel channel.writefd .SHUT_WR
  else channel

/-- Nothing more will be sent: say so. -/
def Channel.endOutput (channel : Channel) : Channel :=
  if !channel.sent_eof && channel.readClosed then send_msg_channel_eof channel else channel

def check_close (channel : Channel) (answers : FlushAnswers) : Except Abort Channel := do
  let channel := { channel with
    flushing := channel.flushing || (!channel.sent_close && channel.exited) }
  let close_allowed := channel.closeAllowed
  if channel.recv_close && !write_pending channel && close_allowed then
    pure (remove_channel (if channel.sent_close then channel else send_msg_channel_close channel))
  else
    let channel ← channel.closeInput.flushFd false answers.read
    let channel ← channel.flushFd true answers.err
    let channel := channel.endOutput
    if channel.readClosed && channel.writefd == FD_CLOSED && !channel.sent_close && close_allowed &&
        !write_pending channel then
      pure (send_msg_channel_close channel)
    else pure channel

/-! ## From the peer to the local side

The payload of a message is positioned behind the channel number, which `getchannel` has read. -/

/-- What the kernel makes of a call of `write`. -/
inductive WriteAnswer
  /-- At most `n` bytes are accepted. -/
  | wrote (n : Nat)
  | EINTR
  | EAGAIN
  /-- Any other error. -/
  | error
  deriving DecidableEq, Repr

def send_msg_channel_window_adjust (channel : Channel) (incr : Nat) : Channel :=
  channel.submit (.CHANNEL_WINDOW_ADJUST channel.remotechan incr)

/-- The bytes `accepted` of the ring have been written. -/
def Channel.wrote (channel : Channel) (accepted : Bytes) : Except Abort Channel := do
  let writebuf ← cbuf_incrread channel.writebuf accepted.length
  pure { channel with
    writebuf := writebuf
    recvdonelen := add32 channel.recvdonelen accepted.length
    trace := { channel.trace with written := channel.trace.written ++ accepted } }

/-- Writes the first portion of the ring. The result is what the function returns, and `*morelen`:
none of the data passed along with the call is consumed. -/
def writechannel_fallback (channel : Channel) (fd : Int) (answer : WriteAnswer) :
    Except Abort (Status × Nat × Channel) := do
  let ptrs := cbuf_readptrs channel.writebuf
  let portion ← channel.writebuf.load ptrs.p1 ptrs.len1
  match answer with
  | .wrote n =>
    let channel ← channel.wrote (portion.take n)
    pure (DROPBEAR_SUCCESS, 0, channel)
  | .EINTR => pure (DROPBEAR_SUCCESS, 0, channel)
  | .EAGAIN => pure (DROPBEAR_SUCCESS, 0, channel)
  | .error =>
    let channel := { channel with trace := { channel.trace with writeFailed := true } }
    pure (DROPBEAR_FAILURE, 0, close_chan_fd channel fd .SHUT_WR)

/-- The window is opened by what has been written, once it is enough. -/
def Channel.extendWindow (channel : Channel) (opts : Opts) : Channel :=
  if channel.recvdonelen ≥ RECV_WINDOWEXTEND opts then
    { send_msg_channel_window_adjust channel channel.recvdonelen with
      recvwindow := add32 channel.recvwindow channel.recvdonelen
      recvdonelen := 0 }
  else channel

def writechannel (opts : Opts) (channel : Channel) (fd : Int) (answer : WriteAnswer) :
    Except Abort (Status × Nat × Channel) := do
  let (ret, morelen, channel) ← writechannel_fallback channel fd answer
  let channel := channel.extendWindow opts
  dropbear_assertion .writechannelWindow (channel.recvwindow ≤ opts.recv_window)
  dropbear_assertion .writechannelAvail (channel.recvwindow ≤ cbuf_getavail channel.writebuf)
  pure (ret, morelen, channel)

/-- The loop of `common_recv_msg_channel_data` that copies `len` bytes of the payload to the ring.
Every turn that copies something makes `len` smaller; one that copies nothing is repeated for ever. -/
def bufferData (cbuf : Circbuffer) (payload : Buffer) (len : Nat) :
    (turns : Nat) → Except Abort Circbuffer
  | 0 => if len > 0 then throw .hang else pure cbuf
  | turns + 1 =>
    if len > 0 then do
      let writelen ← cbuf_writelen cbuf
      let buflen := min writelen len
      let (p, cbuf) ← cbuf_writeptr cbuf buflen
      let bytes ← exits (buf_getptr payload buflen)
      let cbuf ← cbuf.store p bytes
      let cbuf ← cbuf_incrwrite cbuf buflen
      let payload ← exits (buf_incrpos payload (toInt32 buflen))
      bufferData cbuf payload (sub32 len buflen) turns
    else pure cbuf

/-- The data that was not consumed goes to the ring, unless the descriptor failed. -/
def Channel.keepData (channel : Channel) (res : Status) (payload : Buffer) (datalen : Nat) :
    Except Abort Channel :=
  match res with
  | DROPBEAR_SUCCESS => do
    let writebuf ← bufferData channel.writebuf payload datalen datalen
    pure { channel with writebuf := writebuf, trace := { channel.trace with inflight := [] } }
  | DROPBEAR_FAILURE => pure { channel with trace := { channel.trace with inflight := [] } }

/-- The length of the data of a `CHANNEL_DATA` message. -/
def dataLength (payload : Buffer) : Nat := Framing.ofBytes (payload.rest.take 4)

/-- The data of a `CHANNEL_DATA` message. -/
def messageData (payload : Buffer) : Bytes := (payload.rest.drop 4).take (dataLength payload)

/-- Data is charged to the window. -/
def Channel.charge (channel : Channel) (datalen : Nat) (data : Bytes) : Channel :=
  { channel with
    recvwindow := sub32 channel.recvwindow datalen
    trace := { channel.trace with inflight := data } }

def common_recv_msg_channel_data (opts : Opts) (channel : Channel) (fd : Int) (payload : Buffer)
    (answer : WriteAnswer) : Except Abort Channel :=
  if channel.recv_eof then exits (dropbear_exit "Received data after eof")
  else if fd < 0 then pure channel
  else do
    let (datalen, payload) ← exits (buf_getint payload)
    if datalen > cbuf_getavail channel.writebuf then exits (dropbear_exit "Oversized packet")
    else
      dropbear_assertion .recvDataWindow (channel.recvwindow ≥ datalen)
      let channel := channel.charge datalen (payload.rest.take datalen)
      dropbear_assertion .recvDataLimit (channel.recvwindow ≤ opts.recv_window)
      let _ ← exits (buf_getptr payload datalen)
      let (res, consumed, channel) ← writechannel opts channel fd answer
      let payload ← exits (buf_incrpos payload (toInt32 consumed))
      channel.keepData res payload (sub32 datalen consumed)

/-! ## Messages from the peer -/

/-- The message is noted in the trace. -/
def Channel.arrived (channel : Channel) (payload : Buffer) : Channel :=
  { channel with
    trace := { channel.trace with
      claimed := channel.trace.claimed + dataLength payload
      received := channel.trace.received ++ if 0 ≤ channel.writefd then messageData payload else [] } }

def recv_msg_channel_data (opts : Opts) (channel : Channel) (payload : Buffer)
    (answer : WriteAnswer) : Except Abort Channel :=
  let channel := channel.arrived payload
  common_recv_msg_channel_data opts channel channel.writefd payload answer

def recv_msg_channel_eof (channel : Channel) (answers : FlushAnswers) : Except Abort Channel :=
  check_close { channel with recv_eof := true } answers

def recv_msg_channel_close (channel : Channel) (answers : FlushAnswers) : Except Abort Channel :=
  check_close { channel with recv_eof := true, recv_close := true } answers

def recv_msg_channel_window_adjust (channel : Channel) (payload : Buffer) : Except Abort Channel := do
  let (announced, _) ← exits (buf_getint payload)
  let incr := min announced TRANS_MAX_WIN_INCR
  pure { channel with
    transwindow := min (add32 channel.transwindow incr) TRANS_MAX_WINDOW
    trace := { channel.trace with adjusted := channel.trace.adjusted + announced } }

/-- `tcp_prio_inithandler`, the only `inithandler` of a channel the server opens, returns 0. -/
def recv_msg_channel_open_confirmation (channel : Channel) (payload : Buffer) :
    Except Abort Channel := do
  if channel.await_open = false then exits (dropbear_exit "Unexpected channel reply")
  else
    let (remotechan, payload) ← exits (buf_getint payload)
    let (transwindow, payload) ← exits (buf_getint payload)
    let (transmaxpacket, _) ← exits (buf_getint payload)
    pure { channel with
      await_open := false
      remotechan := remotechan
      transwindow := transwindow
      transmaxpacket := transmaxpacket
      trace := { channel.trace with announced := transwindow } }

def recv_msg_channel_open_failure (channel : Channel) : Except Abort Channel := do
  if channel.await_open = false then exits (dropbear_exit "Unexpected channel reply")
  else pure (remove_channel { channel with
    await_open := false
    trace := { channel.trace with refused := true } })

/-! ## Opening channels -/

def SSH_OPEN_ADMINISTRATIVELY_PROHIBITED : Nat := 1
def SSH_OPEN_CONNECT_FAILED : Nat := 2
def SSH_OPEN_IN_PROGRESS : Nat := 99

def send_msg_channel_open_confirmation (channel : Channel) : Channel :=
  channel.submit (.CHANNEL_OPEN_CONFIRMATION channel.remotechan channel.index channel.recvwindow
    channel.recvmaxpacket)

/-- `newchansess`. -/
def newchansess : ChanSess where
  cmd := none
  original_command := none
  pid := 0
  master := -1
  slave := -1
  tty := none
  term := none
  exit := none

/-- What the `inithandler` returns. `newtcpdirect` begins to connect, unless forwarding is forbidden
or the request names no valid destination. -/
def inithandler (channel : Channel) (prohibited : Bool) : Nat × Channel :=
  match channel.type with
  | .svrchansess => (0, { channel with chansess := some newchansess })
  | .svr_chan_tcpdirect =>
    if prohibited then (SSH_OPEN_ADMINISTRATIVELY_PROHIBITED, channel)
    else (SSH_OPEN_IN_PROGRESS, { channel with conn_pending := true })
  | .svr_chan_tcpremote => (0, channel)

/-- `svr_chantypes`. -/
def svr_chantypes : List ChanType := [.svrchansess, .svr_chan_tcpdirect]

/-- From where the type has been found. -/
def recv_msg_channel_open (opts : Opts) (index : Nat) (chantype : ChanType)
    (remotechan transwindow transmaxpacket : Nat) (prohibited : Bool) : Except Exit Channel := do
  let channel ← newchannel opts index remotechan chantype (min transwindow TRANS_MAX_WINDOW)
    (min transmaxpacket TRANS_MAX_PAYLOAD_LEN)
  let channel := { channel with trace := { channel.trace with announced := transwindow } }
  let (ret, channel) := inithandler channel prohibited
  if ret = SSH_OPEN_IN_PROGRESS then pure channel
  else if ret > 0 then
    pure ((remove_channel channel).submit (.CHANNEL_OPEN_FAILURE remotechan ret))
  else pure (send_msg_channel_open_confirmation channel)

/-- Both directions of the channel are the descriptor `fd`. -/
def Channel.openedOn (channel : Channel) (fd : Nat) : Channel :=
  { channel with
    writefd := fd
    readfd := fd
    trace := { channel.trace with setups := channel.trace.setups + 1 } }

/-- A channel that the server opens, for a connection it has accepted on `fd`. -/
def send_msg_channel_open_init (opts : Opts) (index : Nat) (fd : Nat) (type : ChanType) :
    Except Exit Channel := do
  let chan ← newchannel opts index 0 type 0 0
  pure ({ chan.openedOn fd with await_open := true }.submit
    (.CHANNEL_OPEN type.name index opts.recv_window RECV_MAX_CHANNEL_DATA_LEN))

/-- The connection was made, on the socket `sock`, or could not be made. -/
def channel_connect_done (channel : Channel) : Option Nat → Channel
  | some sock => send_msg_channel_open_confirmation { channel.openedOn sock with conn_pending := false }
  | none => remove_channel
    (channel.submit (.CHANNEL_OPEN_FAILURE channel.remotechan SSH_OPEN_CONNECT_FAILED))

/-! ## Replies to requests -/

def send_msg_channel_failure (channel : Channel) : Channel :=
  if channel.sent_close then channel else channel.submit (.CHANNEL_FAILURE channel.remotechan)

def send_msg_channel_success (channel : Channel) : Channel :=
  if channel.sent_close then channel else channel.submit (.CHANNEL_SUCCESS channel.remotechan)

/-- `get_any_ready_channel` may choose the channel. -/
def Channel.isReady (channel : Channel) : Bool :=
  !(channel.sent_eof || channel.recv_eof) && !channel.await_open

/-- `send_msg_keepalive`, when `get_any_ready_channel` has chosen the channel. -/
def Channel.keepalive (channel : Channel) : Channel :=
  channel.submit (.keepalive channel.remotechan)

/-! ## `channelio` -/

/-- What `select` reports about the descriptors of a channel, and what they then answer. -/
structure Ready where
  read : Option ReadAnswer
  err : Option ReadAnswer
  write : Option WriteAnswer
  /-- `ses.channel_signal_pending`. -/
  signal : Bool
  flush : FlushAnswers
  deriving DecidableEq, Repr

/-- Reading from a descriptor that is ready, and whether it was. -/
def Channel.ioRead (channel : Channel) (isextended : Bool) :
    Option ReadAnswer → Except Abort (Channel × Bool)
  | some answer =>
    if 0 ≤ channel.sourceFd isextended then do
      let channel ← send_msg_channel_data channel isextended answer
      pure (channel, true)
    else pure (channel, false)
  | none => pure (channel, false)

def Channel.ioWrite (channel : Channel) (opts : Opts) :
    Option WriteAnswer → Except Abort (Channel × Bool)
  | some answer =>
    if 0 ≤ channel.writefd then do
      let (_, _, channel) ← writechannel opts channel channel.writefd answer
      pure (channel, true)
    else pure (channel, false)
  | none => pure (channel, false)

/-- The turn of one channel. -/
def channelio (opts : Opts) (channel : Channel) (ready : Ready) : Except Abort Channel := do
  let (channel, didRead) ← channel.ioRead false ready.read
  let (channel, didErr) ← channel.ioRead true ready.err
  let (channel, didWrite) ← channel.ioWrite opts ready.write
  if didRead || didErr || didWrite || ready.signal then check_close channel ready.flush
  else pure channel

end SimpleSshd.Dropbear
