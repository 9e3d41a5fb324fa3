import Lockframe.Connection.Run

/-! # Lifecycle

The module documentation draws `Init → Pending → Authenticated → Closed`, with
`Closed` reachable from the two middle states. `LifecycleStep` is that picture
with `close()` added from anywhere. Every call of the connection takes one of
its steps, so the rank of the state never decreases; `Closed` absorbs every
later call, and a run holds at most one `Close` action. -/

namespace Lockframe

namespace ConnectionState

/-- The position of a state in `Init < Pending < Authenticated < Closed`. -/
def rank : ConnectionState → Nat
  | init => 0
  | pending => 1
  | authenticated => 2
  | closed => 3

/-- The abstract lifecycle: stay, advance along the handshake, or close. -/
inductive LifecycleStep : ConnectionState → ConnectionState → Prop
  | stay (state : ConnectionState) : LifecycleStep state state
  | hello : LifecycleStep init pending
  | helloReply : LifecycleStep pending authenticated
  | close (state : ConnectionState) : LifecycleStep state closed

theorem LifecycleStep.rank_le {before after : ConnectionState}
    (step : LifecycleStep before after) : before.rank ≤ after.rank := by
  cases step with
  | stay => exact Nat.le_refl _
  | hello | helloReply => decide
  | close => cases before <;> decide

end ConnectionState

namespace Connection

section Law

variable (codec : OpcodeCodec)

/-- The state changes a call may make, each with the call that makes it. -/
def AllowedChange (op : Op) (before : ConnectionState) (out : Output)
    (after : ConnectionState) : Prop :=
  (∃ now, op = .sendHello now ∧ before = .init ∧ after = .pending ∧ out = .result (.ok [])) ∨
  (∃ sessionId now, op = .receiveHelloReply sessionId now ∧ before = .pending ∧
    after = .authenticated ∧ out = .result (.ok [])) ∨
  (op = .close ∧ after = .closed) ∨
  (∃ now, op = .tick now ∧ (before = .pending ∨ before = .authenticated) ∧ after = .closed)

/-- What one call does to the lifecycle, from `before` to `after`, returning `out`. -/
structure LifecycleLaw (op : Op) (before : Connection) (out : Output) (after : Connection) :
    Prop where
  change_allowed : after.state ≠ before.state → AllowedChange op before.state out after.state
  invalidState_unchanged : ∀ state operation,
    out = .result (.error (.invalidState state operation)) → after = before
  tick_close_iff : ∀ now, op = .tick now →
    ((∃ reason, .close reason ∈ out.emitted) ↔ before.state ≠ .closed ∧ after.state = .closed)
  tick_close_alone : ∀ now reason, op = .tick now →
    .close reason ∈ out.emitted → out.emitted = [.close reason]
  close_only_by_tick : ∀ reason, .close reason ∈ out.emitted → ∃ now, op = .tick now
  closed_stays : before.state = .closed → after.state = .closed ∧ out.emitted = []
  closed_rejects : before.state = .closed →
    (∀ now, op = .sendHello now → out = .result (.error (.invalidState .closed "send_hello"))) ∧
    (∀ sessionId now, op = .receiveHelloReply sessionId now →
      out = .result (.error (.invalidState .closed "receive_hello_reply")))

theorem Transition.lifecycleLaw {self after : Connection} {op : Op} {out : Output}
    (transition : Transition codec self op out after) : LifecycleLaw op self out after := by
  cases transition with
  | timeout now elapsed timedOut =>
    rcases state_of_checkTimeout_eq_some timedOut with active | active <;>
      constructor <;> simp [active, Connection.close, AllowedChange, Output.emitted]
  | _ => constructor <;> simp [*, AllowedChange, Output.emitted, Connection.close, updateActivity]

theorem step_lifecycleLaw (self : Connection) (op : Op) :
    LifecycleLaw op self (self.step codec op).1 (self.step codec op).2 :=
  (step_transition codec self op).lifecycleLaw

/-- Every call refines the abstract lifecycle. -/
theorem step_refines (self : Connection) (op : Op) :
    ConnectionState.LifecycleStep self.state (self.step codec op).2.state := by
  by_cases same : (self.step codec op).2.state = self.state
  · exact same ▸ .stay _
  · rcases (step_lifecycleLaw codec self op).change_allowed same with
      ⟨_, -, before, after, -⟩ | ⟨_, _, -, before, after, -⟩ | ⟨-, after⟩ | ⟨_, -, -, after⟩
    · exact before ▸ after ▸ .hello
    · exact before ▸ after ▸ .helloReply
    all_goals exact after ▸ .close _

/-- Once `Closed`, a connection stays closed and hands the driver nothing. -/
theorem run_of_closed (self : Connection) (ops : List Op) (closed : self.state = .closed) :
    (self.run codec ops).state = .closed ∧ ∀ out ∈ self.outputs codec ops, out.emitted = [] := by
  induction ops generalizing self with
  | nil => simp [closed]
  | cons op ops induction =>
    obtain ⟨stays, silent⟩ := (step_lifecycleLaw codec self op).closed_stays closed
    obtain ⟨runClosed, restSilent⟩ := induction _ stays
    exact ⟨runClosed, by simpa [silent] using restSilent⟩

/-- The number of `Close` actions among a run's outputs. -/
def closeActions (outputs : List Output) : Nat :=
  (outputs.flatMap Output.emitted).countP ConnectionAction.isClose

theorem closeActions_le (self : Connection) (ops : List Op) :
    closeActions (self.outputs codec ops) ≤ if self.state = .closed then 0 else 1 := by
  induction ops generalizing self with
  | nil => simp [closeActions]
  | cons op ops induction =>
    have law := step_lifecycleLaw codec self op
    have rest := induction (self.step codec op).2
    simp only [closeActions, outputs_cons, List.flatMap_cons, List.countP_append] at rest ⊢
    by_cases closes : ∃ reason, .close reason ∈ (self.step codec op).1.emitted
    · obtain ⟨reason, closing⟩ := closes
      obtain ⟨now, ticked⟩ := law.close_only_by_tick reason closing
      obtain ⟨stillOpen, closed⟩ := (law.tick_close_iff now ticked).mp ⟨reason, closing⟩
      rw [if_pos closed] at rest
      rw [law.tick_close_alone now reason ticked closing, if_neg stillOpen,
        List.countP_singleton]
      simp only [ConnectionAction.isClose, if_true]
      omega
    · have noClose : (self.step codec op).1.emitted.countP ConnectionAction.isClose = 0 := by
        refine List.countP_eq_zero.mpr fun action member isClose => ?_
        cases action with
        | close reason => exact closes ⟨reason, member⟩
        | sendFrame frame => simp [ConnectionAction.isClose] at isClose
      rw [noClose, Nat.zero_add]
      by_cases closed : self.state = .closed
      · rw [if_pos (law.closed_stays closed).1] at rest
        rwa [if_pos closed]
      · rw [if_neg closed]
        split at rest <;> omega

end Law

theorem connection_lifecycle (codec : OpcodeCodec) :
    (∀ (self : Connection) (op : Op),
      self.state.rank ≤ (self.step codec op).2.state.rank ∧
      LifecycleLaw op self (self.step codec op).1 (self.step codec op).2) ∧
    (∀ (self : Connection) (ops : List Op), closeActions (self.outputs codec ops) ≤ 1) ∧
    (∀ (self : Connection) (ops : List Op), self.state = .closed →
      (self.run codec ops).state = .closed ∧ ∀ out ∈ self.outputs codec ops, out.emitted = []) :=
  ⟨fun self op => ⟨(step_refines codec self op).rank_le, step_lifecycleLaw codec self op⟩,
    fun self ops => Nat.le_trans (closeActions_le codec self ops) (by split <;> omega),
    run_of_closed codec⟩

end Connection

end Lockframe
