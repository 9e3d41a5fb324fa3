import Lockframe.Time
import Lockframe.Proto

/-! # The connection state machine

A transcription of `sunder_core::connection`. A `&mut self` method returns
its result together with the connection after the call: `handle_frame` changes
the connection even when it returns an error, so the two cannot be separated.
Beside each method stand the lemmas later proofs cite instead of unfolding it. -/

namespace Lockframe

inductive ConnectionAction
  | sendFrame (frame : Frame)
  | close (reason : String)
  deriving DecidableEq, Repr

inductive ConnectionState
  | init
  | pending
  | authenticated
  | closed
  deriving DecidableEq, Repr

structure ConnectionConfig where
  handshakeTimeout : Duration
  idleTimeout : Duration
  heartbeatInterval : Duration
  deriving DecidableEq, Repr

namespace ConnectionConfig

def default : ConnectionConfig where
  handshakeTimeout := .fromSecs 30
  idleTimeout := .fromSecs 60
  heartbeatInterval := .fromSecs 20

/-- The timeout `check_timeout` selects for a state; it returns early in the others. -/
def timeout (config : ConnectionConfig) : ConnectionState → Option Duration
  | .pending => some config.handshakeTimeout
  | .authenticated => some config.idleTimeout
  | _ => none

end ConnectionConfig

/-- Modelled from the spec: the variants of `ConnectionError` the state machine
constructs, `InvalidState{state, op}` and `UnexpectedFrame{state, opcode}`. -/
inductive ConnectionError
  | invalidState (state : ConnectionState) (operation : String)
  | unexpectedFrame (state : ConnectionState) (opcode : UInt16)
  deriving DecidableEq, Repr

structure Connection where
  state : ConnectionState
  config : ConnectionConfig
  lastActivity : Instant
  lastHeartbeat : Option Instant
  sessionId : Option UInt64
  deriving DecidableEq, Repr

namespace Connection

def new (now : Instant) (config : ConnectionConfig) : Connection where
  state := .init
  config := config
  lastActivity := now
  lastHeartbeat := none
  sessionId := none

def sendHello (self : Connection) (now : Instant) :
    Except ConnectionError (List ConnectionAction) × Connection :=
  if self.state ≠ .init then
    (.error (.invalidState self.state "send_hello"), self)
  else
    (.ok [], { self with state := .pending, lastActivity := now })

theorem sendHello_cases (self : Connection) (now : Instant) :
    (self.state = .init ∧
      self.sendHello now = (.ok [], { self with state := .pending, lastActivity := now })) ∨
    (self.state ≠ .init ∧
      self.sendHello now = (.error (.invalidState self.state "send_hello"), self)) := by
  by_cases init : self.state = .init <;> simp [sendHello, init]

def receiveHelloReply (self : Connection) (sessionId : UInt64) (now : Instant) :
    Except ConnectionError (List ConnectionAction) × Connection :=
  if self.state ≠ .pending then
    (.error (.invalidState self.state "receive_hello_reply"), self)
  else
    (.ok [], { self with
      state := .authenticated, sessionId := some sessionId, lastActivity := now })

theorem receiveHelloReply_cases (self : Connection) (sessionId : UInt64) (now : Instant) :
    (self.state = .pending ∧
      self.receiveHelloReply sessionId now = (.ok [], { self with
        state := .authenticated, sessionId := some sessionId, lastActivity := now })) ∨
    (self.state ≠ .pending ∧
      self.receiveHelloReply sessionId now =
        (.error (.invalidState self.state "receive_hello_reply"), self)) := by
  by_cases pending : self.state = .pending <;> simp [receiveHelloReply, pending]

def close (self : Connection) : Connection :=
  { self with state := .closed }

def updateActivity (self : Connection) (now : Instant) : Connection :=
  { self with lastActivity := now }

def checkTimeout (self : Connection) (now : Instant) : Option Duration :=
  let elapsed := now.durationSince self.lastActivity
  match self.config.timeout self.state with
  | some timeout => if elapsed > timeout then some elapsed else none
  | none => none

theorem checkTimeout_eq_some_iff (self : Connection) (now : Instant) (elapsed : Duration) :
    self.checkTimeout now = some elapsed ↔
      ∃ timeout, self.config.timeout self.state = some timeout ∧
        timeout < now.durationSince self.lastActivity ∧
        elapsed = now.durationSince self.lastActivity := by
  unfold checkTimeout
  rcases self.config.timeout self.state with _ | timeout
  · simp
  · split <;> simp_all [eq_comm]

theorem checkTimeout_eq_none_of_le {self : Connection} {now : Instant} (timeout : Duration)
    (selected : self.config.timeout self.state = some timeout)
    (early : now.durationSince self.lastActivity ≤ timeout) : self.checkTimeout now = none := by
  cases timedOut : self.checkTimeout now with
  | none => rfl
  | some elapsed =>
    obtain ⟨_, selected', late, -⟩ := (checkTimeout_eq_some_iff self now elapsed).mp timedOut
    cases selected.symm.trans selected'
    exact absurd late (Nat.not_lt.mpr early)

/-- Only a connection in `Pending` or `Authenticated` can time out. -/
theorem state_of_checkTimeout_eq_some {self : Connection} {now : Instant} {elapsed : Duration}
    (timedOut : self.checkTimeout now = some elapsed) :
    self.state = .pending ∨ self.state = .authenticated := by
  obtain ⟨timeout, selected, -⟩ := (checkTimeout_eq_some_iff self now elapsed).mp timedOut
  cases state : self.state <;> simp_all [ConnectionConfig.timeout]

/-- The reason `tick` gives when it closes on a timeout. -/
def timeoutReason (state : ConnectionState) (elapsed : Duration) : String :=
  match state with
  | .pending => "handshake timeout after " ++ elapsed.debug
  | .authenticated => "idle timeout after " ++ elapsed.debug
  | _ => "timeout"

/-- The `should_send` test of `tick`: no heartbeat yet, or the interval has passed. -/
def shouldSendHeartbeat (self : Connection) (now : Instant) : Bool :=
  match self.lastHeartbeat with
  | none => true
  | some last => decide (now.durationSince last ≥ self.config.heartbeatInterval)

section Codec

variable (codec : OpcodeCodec)

/-- The heartbeat `tick` assembles: magic and version, `Ping` in the opcode
bytes, every other header byte zero, and no payload. -/
def pingFrame : Frame :=
  ⟨{ magic := FrameHeader.MAGIC, version := FrameHeader.VERSION, opcode := codec.toU16 .ping }, []⟩

def tick (self : Connection) (now : Instant) : List ConnectionAction × Connection :=
  match self.checkTimeout now with
  | some elapsed => ([.close (timeoutReason self.state elapsed)], self.close)
  | none =>
      if self.state = .authenticated then
        if self.shouldSendHeartbeat now then
          ([.sendFrame (pingFrame codec)],
            { self with lastHeartbeat := some now, lastActivity := now })
        else ([], self)
      else ([], self)

/-- What one `tick` can do: close on a timeout, send a heartbeat, or nothing. -/
theorem tick_cases (self : Connection) (now : Instant) :
    (∃ elapsed, self.checkTimeout now = some elapsed ∧
      self.tick codec now = ([.close (timeoutReason self.state elapsed)], self.close)) ∨
    (self.checkTimeout now = none ∧ self.state = .authenticated ∧
      self.shouldSendHeartbeat now = true ∧
      self.tick codec now = ([.sendFrame (pingFrame codec)],
        { self with lastHeartbeat := some now, lastActivity := now })) ∨
    (self.checkTimeout now = none ∧
      ¬(self.state = .authenticated ∧ self.shouldSendHeartbeat now = true) ∧
      self.tick codec now = ([], self)) := by
  unfold tick
  split
  · exact .inl ⟨_, ‹_›, rfl⟩
  · refine .inr ?_
    by_cases authenticated : self.state = .authenticated <;>
      by_cases send : self.shouldSendHeartbeat now <;> simp_all

def handleFrame (self : Connection) (frame : Frame) (now : Instant) :
    Except ConnectionError (List ConnectionAction) × Connection :=
  let self := { self with lastActivity := now }
  match self.state, codec.opcodeEnum frame.header.opcode with
  | .authenticated, some .pong => (.ok [], self)
  | state, some opcode => (.error (.unexpectedFrame state (codec.toU16 opcode)), self)
  | state, none => (.error (.unexpectedFrame state frame.header.opcode), self)

@[simp] theorem handleFrame_snd (self : Connection) (frame : Frame) (now : Instant) :
    (self.handleFrame codec frame now).2 = self.updateActivity now := by
  unfold handleFrame
  dsimp only
  split <;> rfl

/-- Both error arms of `handle_frame` report the opcode field of the frame's
header: a decoded opcode encodes back to the raw field. -/
theorem handleFrame_fst (self : Connection) (frame : Frame) (now : Instant) :
    (self.handleFrame codec frame now).1 =
      if self.state = .authenticated ∧ codec.opcodeEnum frame.header.opcode = some .pong
      then .ok []
      else .error (.unexpectedFrame self.state frame.header.opcode) := by
  unfold handleFrame
  dsimp only
  split
  · simp_all
  next _ _ opcode decoded notPong =>
    rw [codec.toU16_of_opcodeEnum _ _ decoded, decoded]
    exact (if_neg fun both => notPong both.1 (Option.some.inj both.2)).symm
  · simp_all

end Codec

end Connection

end Lockframe
