import Lockframe.Connection.Lifecycle

/-! # Heartbeats

Only a `tick` in `Authenticated` sends a `Ping`, and it writes the time into
`last_heartbeat`, which no other call writes. The next `Ping` waits until
`heartbeat_interval` has passed since that time, so consecutive heartbeats of a
run lie at least the interval apart, whatever the calls between them and
whatever the order of their time arguments. -/

namespace Lockframe

namespace Connection

section Heartbeat

variable (codec : OpcodeCodec)

theorem Transition.lastHeartbeat {self after : Connection} {op : Op} {out : Output}
    (transition : Transition codec self op out after) :
    after.lastHeartbeat = ((op.heartbeat? out).map some).getD self.lastHeartbeat := by
  cases transition <;> rfl

theorem step_lastHeartbeat (self : Connection) (op : Op) :
    (self.step codec op).2.lastHeartbeat =
      ((op.heartbeat? (self.step codec op).1).map some).getD self.lastHeartbeat :=
  (step_transition codec self op).lastHeartbeat

/-- A call that sends a heartbeat is a due `tick` in `Authenticated`. -/
theorem Transition.of_heartbeat? {self after : Connection} {op : Op} {out : Output}
    {now : Instant} (transition : Transition codec self op out after)
    (sent : op.heartbeat? out = some now) :
    op = .tick now ∧ self.state = .authenticated ∧ self.shouldSendHeartbeat now = true ∧
      out = .actions [.sendFrame (pingFrame codec)] ∧
      after = { self with lastHeartbeat := some now, lastActivity := now } := by
  cases transition <;> simp_all [Op.heartbeat?]

theorem heartbeat?_eq_some {self : Connection} {op : Op} {now : Instant}
    (sent : op.heartbeat? (self.step codec op).1 = some now) :
    op = .tick now ∧ self.state = .authenticated ∧ self.shouldSendHeartbeat now = true ∧
      (self.step codec op).1 = .actions [.sendFrame (pingFrame codec)] ∧
      (self.step codec op).2 = { self with lastHeartbeat := some now, lastActivity := now } :=
  (step_transition codec self op).of_heartbeat? codec sent

theorem run_lastHeartbeat (self : Connection) (ops : List Op) :
    (self.run codec ops).lastHeartbeat =
      (((self.observe codec Op.heartbeat? ops).getLast?).map some).getD self.lastHeartbeat :=
  run_records_last codec lastHeartbeat some Op.heartbeat? (step_lastHeartbeat codec) ops self

/-- Consecutive times of `times`, and the first of them after `last` when there
is one, lie at least `interval` apart. -/
def Spaced (interval : Duration) (last : Option Instant) (times : List Instant) : Prop :=
  match last with
  | none => times.Chain' fun earlier later => interval ≤ later.durationSince earlier
  | some last => times.Chain (fun earlier later => interval ≤ later.durationSince earlier) last

theorem Spaced.chain' {interval : Duration} {last : Option Instant} {times : List Instant}
    (spaced : Spaced interval last times) :
    times.Chain' fun earlier later => interval ≤ later.durationSince earlier := by
  cases last with
  | none => exact spaced
  | some last =>
    cases times with
    | nil => exact trivial
    | cons first rest => exact (List.chain_cons.mp spaced).2

theorem heartbeats_spaced (ops : List Op) (self : Connection) :
    Spaced self.config.heartbeatInterval self.lastHeartbeat
      (self.observe codec Op.heartbeat? ops) := by
  induction ops generalizing self with
  | nil =>
    cases self.lastHeartbeat with
    | none => exact trivial
    | some last => exact List.Chain.nil
  | cons op ops induction =>
    have rest := induction (self.step codec op).2
    rw [step_config] at rest
    rw [observe_cons]
    cases sent : op.heartbeat? (self.step codec op).1 with
    | none => simpa [step_lastHeartbeat, sent] using rest
    | some now =>
      obtain ⟨-, -, due, -, stepped⟩ := heartbeat?_eq_some codec sent
      rw [stepped] at rest ⊢
      cases last : self.lastHeartbeat with
      | none => exact rest
      | some previous => exact .cons (by simpa [shouldSendHeartbeat, last] using due) rest

/-- A `tick` sends at most one frame, only in `Authenticated`, which it keeps,
and never together with a `Close`. -/
theorem tick_sendFrame (self : Connection) (now : Instant) :
    ((∃ frame, .sendFrame frame ∈ (self.tick codec now).1) →
      self.state = .authenticated ∧ (self.tick codec now).2.state = .authenticated) ∧
    (self.tick codec now).1.countP ConnectionAction.isSendFrame ≤ 1 ∧
    ¬((∃ frame, .sendFrame frame ∈ (self.tick codec now).1) ∧
      ∃ reason, .close reason ∈ (self.tick codec now).1) := by
  rcases tick_cases codec self now with
    ⟨_, -, ticked⟩ | ⟨-, authenticated, -, ticked⟩ | ⟨-, -, ticked⟩
  · simp [ticked, ConnectionAction.isSendFrame]
  · simp [ticked, authenticated, ConnectionAction.isSendFrame]
  · simp [ticked]

end Heartbeat

theorem heartbeat_discipline (codec : OpcodeCodec) :
    (∀ (self : Connection) (now : Instant),
      ((∃ frame, .sendFrame frame ∈ (self.tick codec now).1) →
        self.state = .authenticated ∧ (self.tick codec now).2.state = .authenticated) ∧
      (self.tick codec now).1.countP ConnectionAction.isSendFrame ≤ 1 ∧
      ¬((∃ frame, .sendFrame frame ∈ (self.tick codec now).1) ∧
        ∃ reason, .close reason ∈ (self.tick codec now).1)) ∧
    (∀ (self : Connection) (ops : List Op),
      (self.observe codec Op.heartbeat? ops).Chain' fun earlier later =>
        self.config.heartbeatInterval ≤ later.durationSince earlier) ∧
    (∀ (config : ConnectionConfig) (start : Instant) (ops : List Op),
      ((Connection.new start config).run codec ops).lastHeartbeat =
        ((Connection.new start config).observe codec Op.heartbeat? ops).getLast?) ∧
    (∀ (self : Connection) (op : Op), (self.step codec op).2.lastHeartbeat ≠ self.lastHeartbeat →
      ∃ now, op = .tick now ∧ (self.step codec op).1 = .actions [.sendFrame (pingFrame codec)]) := by
  refine ⟨tick_sendFrame codec, fun self ops => ?_, fun config start ops => ?_,
    fun self op changed => ?_⟩
  · exact (heartbeats_spaced codec ops self).chain'
  · rw [run_lastHeartbeat]
    cases ((Connection.new start config).observe codec Op.heartbeat? ops).getLast? <;> rfl
  · rw [step_lastHeartbeat] at changed
    cases sent : op.heartbeat? (self.step codec op).1 with
    | none => simp [sent] at changed
    | some now =>
      obtain ⟨called, -, -, emitted, -⟩ := heartbeat?_eq_some codec sent
      exact ⟨now, called, emitted⟩

end Connection

end Lockframe
