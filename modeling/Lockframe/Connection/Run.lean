import Lockframe.Connection.Machine

/-! # Runs of the connection

A driver may call the seven public methods in any order and with any
arguments. `step` performs one call and `run` a list of them; every invariant of
the later files is proved once for `step` and carried along a run by
`run_invariant`. -/

namespace Lockframe

/-- A call of one of the connection's public methods. -/
inductive Op
  | sendHello (now : Instant)
  | receiveHelloReply (sessionId : UInt64) (now : Instant)
  | handleFrame (frame : Frame) (now : Instant)
  | updateActivity (now : Instant)
  | checkTimeout (now : Instant)
  | tick (now : Instant)
  | close
  deriving DecidableEq, Repr

instance exceptDecidableEq {ε α : Type} [DecidableEq ε] [DecidableEq α] :
    DecidableEq (Except ε α)
  | .ok left, .ok right => decidable_of_iff (left = right) (by simp)
  | .error left, .error right => decidable_of_iff (left = right) (by simp)
  | .ok _, .error _ => isFalse nofun
  | .error _, .ok _ => isFalse nofun

/-- What a call returns. -/
inductive Output
  | result (result : Except ConnectionError (List ConnectionAction))
  | actions (actions : List ConnectionAction)
  | elapsed (elapsed : Option Duration)
  | unit
  deriving DecidableEq

namespace ConnectionAction

def isClose : ConnectionAction → Bool
  | .close _ => true
  | .sendFrame _ => false

def isSendFrame : ConnectionAction → Bool
  | .sendFrame _ => true
  | .close _ => false

end ConnectionAction

namespace Output

/-- The actions a call hands to the driver; an error carries none. -/
def emitted : Output → List ConnectionAction
  | .result (.ok emitted) => emitted
  | .actions emitted => emitted
  | _ => []

end Output

namespace Op

/-- The time a call writes into `last_activity`, when it writes it. -/
def activity? : Op → Output → Option Instant
  | .sendHello now, .result (.ok _) => some now
  | .receiveHelloReply _ now, .result (.ok _) => some now
  | .handleFrame _ now, _ => some now
  | .updateActivity now, _ => some now
  | .tick now, .actions [.sendFrame _] => some now
  | _, _ => none

/-- The time of the heartbeat a call sends. -/
def heartbeat? : Op → Output → Option Instant
  | .tick now, .actions [.sendFrame _] => some now
  | _, _ => none

/-- The session id a successful `receive_hello_reply` stores. -/
def helloReply? : Op → Output → Option UInt64
  | .receiveHelloReply sessionId _, .result (.ok _) => some sessionId
  | _, _ => none

end Op

namespace Connection

section Runs

variable (codec : OpcodeCodec)

def step (self : Connection) : Op → Output × Connection
  | .sendHello now => Prod.map .result id (self.sendHello now)
  | .receiveHelloReply sessionId now =>
      Prod.map .result id (self.receiveHelloReply sessionId now)
  | .handleFrame frame now => Prod.map .result id (self.handleFrame codec frame now)
  | .updateActivity now => (.unit, self.updateActivity now)
  | .checkTimeout now => (.elapsed (self.checkTimeout now), self)
  | .tick now => Prod.map .actions id (self.tick codec now)
  | .close => (.unit, self.close)

/-- What one call does, branch by branch of the source methods: the guard of
the branch, what the call returns, and the connection after it. -/
inductive Transition (self : Connection) : Op → Output → Connection → Prop
  | hello (now : Instant) : self.state = .init →
      Transition self (.sendHello now) (.result (.ok []))
        { self with state := .pending, lastActivity := now }
  | helloRejected (now : Instant) : self.state ≠ .init →
      Transition self (.sendHello now)
        (.result (.error (.invalidState self.state "send_hello"))) self
  | helloReply (sessionId : UInt64) (now : Instant) : self.state = .pending →
      Transition self (.receiveHelloReply sessionId now) (.result (.ok []))
        { self with state := .authenticated, sessionId := some sessionId, lastActivity := now }
  | helloReplyRejected (sessionId : UInt64) (now : Instant) : self.state ≠ .pending →
      Transition self (.receiveHelloReply sessionId now)
        (.result (.error (.invalidState self.state "receive_hello_reply"))) self
  | pong (frame : Frame) (now : Instant) : self.state = .authenticated →
      codec.opcodeEnum frame.header.opcode = some .pong →
      Transition self (.handleFrame frame now) (.result (.ok [])) (self.updateActivity now)
  | frameRejected (frame : Frame) (now : Instant) :
      ¬(self.state = .authenticated ∧ codec.opcodeEnum frame.header.opcode = some .pong) →
      Transition self (.handleFrame frame now)
        (.result (.error (.unexpectedFrame self.state frame.header.opcode)))
        (self.updateActivity now)
  | activity (now : Instant) : Transition self (.updateActivity now) .unit (self.updateActivity now)
  | checkTimeout (now : Instant) :
      Transition self (.checkTimeout now) (.elapsed (self.checkTimeout now)) self
  | timeout (now : Instant) (elapsed : Duration) : self.checkTimeout now = some elapsed →
      Transition self (.tick now) (.actions [.close (timeoutReason self.state elapsed)]) self.close
  | heartbeat (now : Instant) : self.checkTimeout now = none → self.state = .authenticated →
      self.shouldSendHeartbeat now = true →
      Transition self (.tick now) (.actions [.sendFrame (pingFrame codec)])
        { self with lastHeartbeat := some now, lastActivity := now }
  | quiet (now : Instant) : self.checkTimeout now = none →
      ¬(self.state = .authenticated ∧ self.shouldSendHeartbeat now = true) →
      Transition self (.tick now) (.actions []) self
  | close : Transition self .close .unit self.close

theorem step_transition (self : Connection) (op : Op) :
    Transition codec self op (self.step codec op).1 (self.step codec op).2 := by
  cases op with
  | sendHello now =>
    rcases sendHello_cases self now with ⟨init, sent⟩ | ⟨notInit, sent⟩ <;>
      simp only [step, sent, Prod.map]
    · exact .hello now init
    · exact .helloRejected now notInit
  | receiveHelloReply sessionId now =>
    rcases receiveHelloReply_cases self sessionId now with
      ⟨pending, received⟩ | ⟨notPending, received⟩ <;> simp only [step, received, Prod.map]
    · exact .helloReply sessionId now pending
    · exact .helloReplyRejected sessionId now notPending
  | handleFrame frame now =>
    simp only [step, Prod.map, handleFrame_fst, handleFrame_snd]
    split
    next pong => exact .pong frame now pong.1 pong.2
    next rejected => exact .frameRejected frame now rejected
  | updateActivity now => exact .activity now
  | checkTimeout now => exact .checkTimeout now
  | tick now =>
    rcases tick_cases codec self now with
      ⟨elapsed, timedOut, ticked⟩ | ⟨quiet, authenticated, due, ticked⟩ | ⟨quiet, idle, ticked⟩ <;>
      simp only [step, ticked, Prod.map]
    · exact .timeout now elapsed timedOut
    · exact .heartbeat now quiet authenticated due
    · exact .quiet now quiet idle
  | close => exact .close

/-- The connection after every call of a run. -/
def run (self : Connection) : List Op → Connection
  | [] => self
  | op :: ops => (self.step codec op).2.run ops

/-- What each call of a run returns, in order. -/
def outputs (self : Connection) : List Op → List Output
  | [] => []
  | op :: ops => (self.step codec op).1 :: (self.step codec op).2.outputs ops

/-- What `observer` sees along a run, call by call. -/
def observe (observer : Op → Output → Option α) (self : Connection) : List Op → List α
  | [] => []
  | op :: ops =>
      (observer op (self.step codec op).1).toList ++ (self.step codec op).2.observe observer ops

@[simp] theorem observe_nil (observer : Op → Output → Option α) (self : Connection) :
    self.observe codec observer [] = [] := rfl

@[simp] theorem observe_cons (observer : Op → Output → Option α) (self : Connection)
    (op : Op) (ops : List Op) :
    self.observe codec observer (op :: ops) =
      (observer op (self.step codec op).1).toList ++
        (self.step codec op).2.observe codec observer ops := rfl

@[simp] theorem run_nil (self : Connection) : self.run codec [] = self := rfl

@[simp] theorem run_cons (self : Connection) (op : Op) (ops : List Op) :
    self.run codec (op :: ops) = (self.step codec op).2.run codec ops := rfl

@[simp] theorem outputs_nil (self : Connection) : self.outputs codec [] = [] := rfl

@[simp] theorem outputs_cons (self : Connection) (op : Op) (ops : List Op) :
    self.outputs codec (op :: ops) =
      (self.step codec op).1 :: (self.step codec op).2.outputs codec ops := rfl

@[simp] theorem run_append (self : Connection) (ops more : List Op) :
    self.run codec (ops ++ more) = (self.run codec ops).run codec more := by
  induction ops generalizing self with
  | nil => rfl
  | cons op ops induction => exact induction _

/-- A property that every call keeps holds after every run. -/
theorem run_invariant (Invariant : Connection → Prop)
    (preserved : ∀ self op, Invariant self → Invariant (self.step codec op).2) :
    ∀ ops self, Invariant self → Invariant (self.run codec ops)
  | [], _, holds => holds
  | op :: ops, self, holds => run_invariant Invariant preserved ops _ (preserved self op holds)

/-- A field that a call overwrites exactly when `observer` sees a value holds,
after a run, the last value seen, or its first value when none was. -/
theorem run_records_last (field : Connection → β) (embed : α → β)
    (observer : Op → Output → Option α)
    (stepped : ∀ self op, field (self.step codec op).2 =
      ((observer op (self.step codec op).1).map embed).getD (field self)) :
    ∀ (ops : List Op) (self : Connection), field (self.run codec ops) =
      (((self.observe codec observer ops).getLast?).map embed).getD (field self)
  | [], _ => rfl
  | op :: ops, self => by
      rw [run_cons, run_records_last field embed observer stepped ops, stepped, observe_cons,
        List.getLast?_append]
      cases ((self.step codec op).2.observe codec observer ops).getLast? <;>
        cases observer op (self.step codec op).1 <;> rfl

/-- No call changes the configuration. -/
theorem Transition.config {self after : Connection} {op : Op} {out : Output}
    (transition : Transition codec self op out after) : after.config = self.config := by
  cases transition <;> rfl

@[simp] theorem step_config (self : Connection) (op : Op) :
    (self.step codec op).2.config = self.config :=
  (step_transition codec self op).config

@[simp] theorem run_config (self : Connection) (ops : List Op) :
    (self.run codec ops).config = self.config :=
  run_invariant codec (fun other => other.config = self.config)
    (fun other op same => (step_config codec other op).trans same) ops self rfl

end Runs

/-- The connections a driver can reach from `Connection::new` with `config`. -/
def Reachable (codec : OpcodeCodec) (config : ConnectionConfig) (self : Connection) : Prop :=
  ∃ start ops, (Connection.new start config).run codec ops = self

end Connection

end Lockframe
