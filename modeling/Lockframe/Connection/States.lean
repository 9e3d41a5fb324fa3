import Lockframe.Connection.Lifecycle

/-! # The reachable states

Which connections can a driver hold after some calls from `Connection::new`?
Exactly those with the configuration it was built with whose fields agree
with the lifecycle: no session id and no heartbeat before `Authenticated`, a
session id from `Authenticated` on, and a heartbeat only on a connection with
a session id. Nothing else is constrained: calls take their times as
arguments, so `last_activity` and `last_heartbeat` can hold any instants.

One direction is an invariant of every call. For the other, every such
connection comes with the calls that build it. -/

namespace Lockframe

namespace Connection

/-- How the fields of a connection agree with its state. -/
def Consistent (self : Connection) : Prop :=
  (self.state = .init ∨ self.state = .pending →
    self.sessionId = none ∧ self.lastHeartbeat = none) ∧
  (self.state = .authenticated → self.sessionId.isSome) ∧
  (self.lastHeartbeat.isSome → self.sessionId.isSome)

instance : DecidablePred Consistent := fun _ => inferInstanceAs (Decidable (_ ∧ _ ∧ _))

section States

variable (codec : OpcodeCodec)

theorem Transition.consistent {self after : Connection} {op : Op} {out : Output}
    (transition : Transition codec self op out after) (holds : Consistent self) :
    Consistent after := by
  cases transition <;> simp_all [Consistent, Connection.close, updateActivity]

theorem run_consistent (config : ConnectionConfig) (start : Instant) (ops : List Op) :
    Consistent ((Connection.new start config).run codec ops) :=
  run_invariant codec _ (fun self op => (step_transition codec self op).consistent)
    ops _ (by simp [Consistent, Connection.new])

/-- The handshake that stores `sessionId`; then, when `lastHeartbeat` holds a
time, the first heartbeat at that time and an activity at `lastActivity`. -/
def authenticateCalls (sessionId : UInt64) (lastHeartbeat : Option Instant)
    (lastActivity : Instant) : List Op :=
  match lastHeartbeat with
  | none => [.sendHello lastActivity, .receiveHelloReply sessionId lastActivity]
  | some beat =>
      [.sendHello beat, .receiveHelloReply sessionId beat, .tick beat,
        .updateActivity lastActivity]

/-- Calls that lead from `Connection::new self.lastActivity self.config` to a
consistent `self`. -/
def accessCalls (self : Connection) : List Op :=
  match self.state, self.sessionId with
  | .init, _ => []
  | .pending, _ => [.sendHello self.lastActivity]
  | .authenticated, some sessionId =>
      authenticateCalls sessionId self.lastHeartbeat self.lastActivity
  | .closed, some sessionId =>
      authenticateCalls sessionId self.lastHeartbeat self.lastActivity ++ [.close]
  | .closed, none => [.close]
  | .authenticated, none => []

theorem run_authenticateCalls (config : ConnectionConfig) (start : Instant)
    (sessionId : UInt64) (lastHeartbeat : Option Instant) (lastActivity : Instant) :
    (Connection.new start config).run codec
        (authenticateCalls sessionId lastHeartbeat lastActivity) =
      { state := .authenticated, config, lastActivity, lastHeartbeat,
        sessionId := some sessionId } := by
  cases lastHeartbeat with
  | none => rfl
  | some beat =>
    have quiet : checkTimeout
        { state := .authenticated, config, lastActivity := beat, lastHeartbeat := none,
          sessionId := some sessionId } beat = none :=
      checkTimeout_eq_none_of_le config.idleTimeout rfl (by simp)
    simp [authenticateCalls, step, sendHello, receiveHelloReply, tick, quiet,
      shouldSendHeartbeat, updateActivity, Connection.new]

theorem run_accessCalls {self : Connection} (consistent : Consistent self) :
    (Connection.new self.lastActivity self.config).run codec (accessCalls self) = self := by
  obtain ⟨state, config, lastActivity, lastHeartbeat, sessionId⟩ := self
  obtain ⟨early, authenticated, beaten⟩ := consistent
  cases state <;> cases sessionId <;> simp at early authenticated beaten
  case init.none => simp [early, accessCalls, Connection.new]
  case pending.none => simp [early, accessCalls, Connection.new, step, sendHello]
  case authenticated.some sessionId => exact run_authenticateCalls codec _ _ _ _ _
  case closed.none =>
    simp [accessCalls, Connection.new, step, Connection.close, beaten]
  case closed.some sessionId =>
    simp [accessCalls, run_authenticateCalls, step, Connection.close]

end States

theorem reachable_iff_consistent (codec : OpcodeCodec) (config : ConnectionConfig)
    (self : Connection) :
    Reachable codec config self ↔ self.config = config ∧ Consistent self := by
  constructor
  · rintro ⟨start, ops, rfl⟩
    exact ⟨run_config codec _ ops, run_consistent codec config start ops⟩
  · rintro ⟨rfl, consistent⟩
    exact ⟨_, _, run_accessCalls codec consistent⟩

end Connection

end Lockframe
