import Lockframe.Connection.Lifecycle

/-! # The session id

Only a successful `receive_hello_reply` writes `session_id`. Since that call
needs `Pending` and leaves it for good, a run stores at most one id, and the
id is present exactly from `Authenticated` on. -/

namespace Lockframe

namespace Connection

/-- Where `session_id` stands in each state of a run from `Connection::new`. -/
def SessionInvariant (self : Connection) : Prop :=
  (self.state = .init ∨ self.state = .pending → self.sessionId = none) ∧
  (self.state = .authenticated → self.sessionId.isSome)

section Session

variable (codec : OpcodeCodec)

theorem Transition.sessionId {self after : Connection} {op : Op} {out : Output}
    (transition : Transition codec self op out after) :
    after.sessionId = ((op.helloReply? out).map some).getD self.sessionId := by
  cases transition <;> rfl

theorem step_sessionId (self : Connection) (op : Op) :
    (self.step codec op).2.sessionId =
      ((op.helloReply? (self.step codec op).1).map some).getD self.sessionId :=
  (step_transition codec self op).sessionId

/-- A call that stores a session id is a `receive_hello_reply` from `Pending`. -/
theorem Transition.of_helloReply? {self after : Connection} {op : Op} {out : Output}
    {sessionId : UInt64} (transition : Transition codec self op out after)
    (stored : op.helloReply? out = some sessionId) :
    self.state = .pending ∧ after.state = .authenticated ∧ out = .result (.ok []) ∧
      ∃ now, op = .receiveHelloReply sessionId now := by
  cases transition <;> simp_all [Op.helloReply?]

theorem helloReply?_eq_some {self : Connection} {op : Op} {sessionId : UInt64}
    (stored : op.helloReply? (self.step codec op).1 = some sessionId) :
    self.state = .pending ∧ (self.step codec op).2.state = .authenticated ∧
      (self.step codec op).1 = .result (.ok []) ∧ ∃ now, op = .receiveHelloReply sessionId now :=
  (step_transition codec self op).of_helloReply? codec stored

theorem run_sessionId (self : Connection) (ops : List Op) :
    (self.run codec ops).sessionId =
      (((self.observe codec Op.helloReply? ops).getLast?).map some).getD self.sessionId :=
  run_records_last codec sessionId some Op.helloReply? (step_sessionId codec) ops self

theorem helloReplies_length_le (self : Connection) (ops : List Op) :
    (self.observe codec Op.helloReply? ops).length ≤ if self.state.rank < 2 then 1 else 0 := by
  induction ops generalizing self with
  | nil => simp
  | cons op ops induction =>
    have rest := induction (self.step codec op).2
    have advanced := (step_refines codec self op).rank_le
    rw [observe_cons, List.length_append]
    cases stored : op.helloReply? (self.step codec op).1 with
    | none =>
      simp only [Option.toList, List.length_nil, Nat.zero_add]
      split at rest <;> split <;> omega
    | some sessionId =>
      obtain ⟨pending, authenticated, -⟩ := helloReply?_eq_some codec stored
      simp [pending, authenticated, ConnectionState.rank] at rest
      simp [rest, pending, ConnectionState.rank]

theorem Transition.sessionInvariant {self after : Connection} {op : Op} {out : Output}
    (transition : Transition codec self op out after) (holds : SessionInvariant self) :
    SessionInvariant after := by
  cases transition <;> simp_all [SessionInvariant, Connection.close, updateActivity]

theorem run_sessionInvariant (config : ConnectionConfig) (start : Instant) (ops : List Op) :
    SessionInvariant ((Connection.new start config).run codec ops) :=
  run_invariant codec _ (fun self op => (step_transition codec self op).sessionInvariant)
    ops _ (by simp [SessionInvariant, Connection.new])

end Session

theorem session_id_assigned_once (codec : OpcodeCodec) (config : ConnectionConfig)
    (start : Instant) (ops : List Op) :
    SessionInvariant ((Connection.new start config).run codec ops) ∧
    ((Connection.new start config).observe codec Op.helloReply? ops).length ≤ 1 ∧
    ((Connection.new start config).run codec ops).sessionId =
      ((Connection.new start config).observe codec Op.helloReply? ops).head? ∧
    ∀ (self : Connection) (op : Op), (self.step codec op).2.sessionId ≠ self.sessionId →
      ∃ sessionId now, op = .receiveHelloReply sessionId now ∧
        (self.step codec op).1 = .result (.ok []) ∧
        (self.step codec op).2.sessionId = some sessionId := by
  have once := helloReplies_length_le codec (Connection.new start config) ops
  simp only [Connection.new, ConnectionState.rank, if_pos (show 0 < 2 by decide)] at once
  refine ⟨run_sessionInvariant codec config start ops, once, ?_, fun self op changed => ?_⟩
  · rw [run_sessionId]
    match assigned : (Connection.new start config).observe codec Op.helloReply? ops, once with
    | [], _ => rfl
    | [sessionId], _ => rfl
  · rw [step_sessionId] at changed ⊢
    cases stored : op.helloReply? (self.step codec op).1 with
    | none => simp [stored] at changed
    | some sessionId =>
      obtain ⟨-, -, ok, now, called⟩ := helloReply?_eq_some codec stored
      exact ⟨sessionId, now, called, ok, rfl⟩

end Connection

end Lockframe
