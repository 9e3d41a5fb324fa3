import Lockframe.Connection.Lifecycle

/-! # Timeouts

`check_timeout` measures from `last_activity`, and five calls write it:
a successful `send_hello` or `receive_hello_reply`, every `handle_frame` (a
rejected frame included), `update_activity`, and a `tick` that sends a
heartbeat. After a run, `last_activity` is the time of the latest of them, so
a connection that waits on a timer closes at the first tick past the timeout
counted from that call, and from no earlier one. -/

namespace Lockframe

namespace Connection

section Timers

variable (codec : OpcodeCodec)

theorem Transition.lastActivity {self after : Connection} {op : Op} {out : Output}
    (transition : Transition codec self op out after) :
    after.lastActivity = ((op.activity? out).map id).getD self.lastActivity := by
  cases transition <;> rfl

theorem step_lastActivity (self : Connection) (op : Op) :
    (self.step codec op).2.lastActivity =
      ((op.activity? (self.step codec op).1).map id).getD self.lastActivity :=
  (step_transition codec self op).lastActivity

theorem run_lastActivity (self : Connection) (ops : List Op) :
    (self.run codec ops).lastActivity =
      (((self.observe codec Op.activity? ops).getLast?).map id).getD self.lastActivity :=
  run_records_last codec lastActivity id Op.activity? (step_lastActivity codec) ops self

/-- A connection that left `Init` for a state with a timer did so through an
activity call, `send_hello`. -/
theorem activities_ne_nil (self : Connection) (ops : List Op) (init : self.state = .init)
    (waiting : (self.run codec ops).state = .pending ∨
      (self.run codec ops).state = .authenticated) :
    self.observe codec Op.activity? ops ≠ [] := by
  induction ops generalizing self with
  | nil => simp [init] at waiting
  | cons op ops induction =>
    rw [observe_cons]
    by_cases same : (self.step codec op).2.state = self.state
    · exact fun empty => induction _ (same.trans init) waiting (List.append_eq_nil.mp empty).2
    · rcases (step_lifecycleLaw codec self op).change_allowed same with
        ⟨now, rfl, -, -, ok⟩ | ⟨_, _, rfl, pending, -⟩ | ⟨-, closed⟩ | ⟨_, -, -, closed⟩
      · simp [ok, Op.activity?]
      · simp [init] at pending
      all_goals simp [(run_of_closed codec _ ops closed).1] at waiting

/-- The tick past the timeout of the current state closes the connection. -/
theorem tick_closes_of_late (self : Connection) (now : Instant) (timeout : Duration)
    (selected : self.config.timeout self.state = some timeout)
    (late : timeout < now.durationSince self.lastActivity) :
    (∃ reason, (self.tick codec now).1 = [.close reason]) ∧
      (self.tick codec now).2.state = .closed := by
  have timedOut := (checkTimeout_eq_some_iff self now _).mpr ⟨timeout, selected, late, rfl⟩
  rcases tick_cases codec self now with ⟨_, -, ticked⟩ | ⟨quiet, -⟩ | ⟨quiet, -⟩
  · exact ⟨⟨_, by rw [ticked]⟩, by rw [ticked]; rfl⟩
  all_goals simp [timedOut] at quiet

/-- After a run from `Connection::new` that waits on a timer, a tick later than
the timeout after every activity call of the run closes the connection. -/
theorem tick_closes_after_activities (config : ConnectionConfig) (start t now : Instant)
    (ops : List Op) (timeout : Duration)
    (quiet : ∀ activity ∈ (Connection.new start config).observe codec Op.activity? ops,
      activity < t)
    (selected : config.timeout ((Connection.new start config).run codec ops).state = some timeout)
    (late : timeout < now.durationSince t) :
    (∃ reason, (((Connection.new start config).run codec ops).tick codec now).1 =
      [.close reason]) ∧
      (((Connection.new start config).run codec ops).tick codec now).2.state = .closed := by
  have waiting : ((Connection.new start config).run codec ops).state = .pending ∨
      ((Connection.new start config).run codec ops).state = .authenticated := by
    cases state : ((Connection.new start config).run codec ops).state <;>
      simp_all [ConnectionConfig.timeout]
  obtain ⟨last, isLast⟩ := List.getLast?_isSome.mpr
    (activities_ne_nil codec _ ops rfl waiting) |> Option.isSome_iff_exists.mp
  have earlier := quiet last (List.mem_of_getLast?_eq_some isLast)
  refine tick_closes_of_late codec _ now timeout (by rwa [run_config]) ?_
  rw [run_lastActivity, isLast]
  simp only [Option.map_some', id, Option.getD_some, Duration.lt_iff,
    Instant.durationSince_nanos, Instant.lt_iff] at late earlier ⊢
  omega

end Timers

/-! ## The idle and handshake deadlines -/

theorem idle_timeout_after_last_activity (codec : OpcodeCodec) (config : ConnectionConfig)
    (start t now : Instant) (ops : List Op)
    (quiet : ∀ activity ∈ (Connection.new start config).observe codec Op.activity? ops,
      activity < t)
    (authenticated : ((Connection.new start config).run codec ops).state = .authenticated)
    (late : config.idleTimeout < now.durationSince t) :
    (∃ reason, (((Connection.new start config).run codec ops).tick codec now).1 =
      [.close reason]) ∧
      (((Connection.new start config).run codec ops).tick codec now).2.state = .closed :=
  tick_closes_after_activities codec config start t now ops _ quiet
    (by rw [authenticated]; rfl) late

theorem idle_timeout_closes_after_handshake :
    let codec := OpcodeCodec.byPosition
    let ops : List Op := [.sendHello ⟨0⟩, .receiveHelloReply 7 ⟨0⟩]
    let before := (Connection.new ⟨0⟩ .default).run codec ops
    (∀ activity ∈ (Connection.new ⟨0⟩ .default).observe codec Op.activity? ops,
      activity < ⟨1⟩) ∧
    before.state = .authenticated ∧
    ConnectionConfig.default.idleTimeout < (⟨60000000002⟩ : Instant).durationSince ⟨1⟩ ∧
    (∃ reason, (before.tick codec ⟨60000000002⟩).1 = [.close reason]) ∧
      (before.tick codec ⟨60000000002⟩).2.state = .closed :=
  ⟨by decide, by decide, by decide,
    idle_timeout_after_last_activity .byPosition .default ⟨0⟩ ⟨1⟩ ⟨60000000002⟩ _
      (by decide) (by decide) (by decide)⟩

theorem handshake_timeout_after_last_activity (codec : OpcodeCodec) (config : ConnectionConfig)
    (start t now : Instant) (ops : List Op)
    (quiet : ∀ activity ∈ (Connection.new start config).observe codec Op.activity? ops,
      activity < t)
    (pending : ((Connection.new start config).run codec ops).state = .pending)
    (late : config.handshakeTimeout < now.durationSince t) :
    ((∃ reason, (((Connection.new start config).run codec ops).tick codec now).1 =
      [.close reason]) ∧
      (((Connection.new start config).run codec ops).tick codec now).2.state = .closed) ∧
    ∀ (self : Connection) (frame : Frame) (received : Instant), self.state = .pending →
      (self.handleFrame codec frame received).1 =
        .error (.unexpectedFrame .pending frame.header.opcode) ∧
      (self.handleFrame codec frame received).2.lastActivity = received :=
  ⟨tick_closes_after_activities codec config start t now ops _ quiet (by rw [pending]; rfl) late,
    fun self frame received waiting =>
      ⟨by simp [handleFrame_fst, waiting], by simp [updateActivity]⟩⟩

/-- Under the default configuration, a `Hello` frame handled at 20 s during the
handshake is rejected and restarts the handshake timer: the tick at 51 s, more
than 30 s after the frame, closes the connection. -/
theorem handshake_timeout_counts_from_rejected_frame :
    let codec := OpcodeCodec.byPosition
    let hello : Frame := ⟨⟨FrameHeader.MAGIC, FrameHeader.VERSION, codec.toU16 .hello⟩, []⟩
    let waiting := (Connection.new ⟨0⟩ .default).run codec [.sendHello ⟨0⟩]
    let ops : List Op := [.sendHello ⟨0⟩, .handleFrame hello ⟨20000000000⟩]
    let before := (Connection.new ⟨0⟩ .default).run codec ops
    (∀ activity ∈ (Connection.new ⟨0⟩ .default).observe codec Op.activity? ops,
      activity < ⟨20000000001⟩) ∧
    before.state = .pending ∧
    ConnectionConfig.default.handshakeTimeout <
      (⟨51000000002⟩ : Instant).durationSince ⟨20000000001⟩ ∧
    ((∃ reason, (before.tick codec ⟨51000000002⟩).1 = [.close reason]) ∧
      (before.tick codec ⟨51000000002⟩).2.state = .closed) ∧
    (waiting.handleFrame codec hello ⟨20000000000⟩).1 =
      .error (.unexpectedFrame .pending hello.header.opcode) ∧
    (waiting.handleFrame codec hello ⟨20000000000⟩).2.lastActivity = ⟨20000000000⟩ :=
  have pending : ((Connection.new ⟨0⟩ .default).run .byPosition [.sendHello ⟨0⟩]).state =
      .pending := rfl
  let ⟨closes, rejects⟩ := handshake_timeout_after_last_activity .byPosition .default ⟨0⟩
    ⟨20000000001⟩ ⟨51000000002⟩ _ (by decide) (by decide) (by decide)
  ⟨by decide, by decide, by decide, closes, rejects _ _ _ pending⟩

/-! ## Deadlines counted from the handshake alone do not hold

Both timers restart at every call that writes `last_activity`, not only at
the calls of the handshake or those reporting the peer. -/

end Connection

namespace Op

/-- The time argument of a call; `close()` takes none. -/
def time? : Op → Option Instant
  | .sendHello now | .receiveHelloReply _ now | .handleFrame _ now | .updateActivity now
  | .checkTimeout now | .tick now => some now
  | .close => none

/-- The calls through which the driver reports that the peer was heard. -/
def reportsPeerActivity : Op → Bool
  | .receiveHelloReply _ _ | .handleFrame _ _ | .updateActivity _ => true
  | _ => false

end Op

namespace Connection

/-- Under the default configuration, the peer last heard at 0 s, and ticks
at 20 s and 40 s, the tick at 62 s sends a third `Ping` instead of closing:
each heartbeat restarted the idle timer. -/
theorem heartbeats_mask_silent_peer :
    let codec := OpcodeCodec.byPosition
    let ops : List Op :=
      [.sendHello ⟨0⟩, .receiveHelloReply 1 ⟨0⟩, .tick ⟨20000000000⟩, .tick ⟨40000000000⟩]
    let before := (Connection.new ⟨0⟩ .default).run codec ops
    ((ops ++ [Op.tick ⟨62000000000⟩]).filterMap Op.time?).Pairwise (· ≤ ·) ∧
    (∀ op ∈ ops, op.reportsPeerActivity → ∀ time ∈ op.time?, time < ⟨1000000000⟩) ∧
    before.state = .authenticated ∧
    ConnectionConfig.default.idleTimeout <
      (⟨62000000000⟩ : Instant).durationSince ⟨1000000000⟩ ∧
    before.tick codec ⟨62000000000⟩ =
      ([.sendFrame (pingFrame codec)], { before with
        lastHeartbeat := some ⟨62000000000⟩, lastActivity := ⟨62000000000⟩ }) :=
  ⟨by decide, by decide, by decide, by decide, by decide⟩

/-- Under the default configuration, a `Hello` frame handled at 20 s during the
handshake is rejected, yet the tick 31 s after `send_hello` leaves the
connection `Pending` and returns nothing. -/
theorem rejected_frame_restarts_handshake_timer :
    let codec := OpcodeCodec.byPosition
    let hello : Frame := ⟨⟨FrameHeader.MAGIC, FrameHeader.VERSION, codec.toU16 .hello⟩, []⟩
    let ops : List Op := [.sendHello ⟨0⟩, .handleFrame hello ⟨20000000000⟩]
    let before := (Connection.new ⟨0⟩ .default).run codec ops
    ((ops ++ [Op.tick ⟨31000000000⟩]).filterMap Op.time?).Pairwise (· ≤ ·) ∧
    ((Connection.new ⟨0⟩ .default).step codec (.sendHello ⟨0⟩)).1 = .result (.ok []) ∧
    (Connection.new ⟨0⟩ .default).observe codec Op.helloReply? ops = [] ∧
    before.state = .pending ∧
    ConnectionConfig.default.handshakeTimeout < (⟨31000000000⟩ : Instant).durationSince ⟨0⟩ ∧
    before.tick codec ⟨31000000000⟩ = ([], before) :=
  ⟨by decide, by decide, by decide, by decide, by decide, by decide⟩

end Connection

end Lockframe
