import Lockframe.Connection.Lifecycle

/-! # Keep-alive

The configuration asks for a heartbeat interval below half the idle timeout.
Under that spacing the heartbeats keep an authenticated connection open while
its driver ticks it no more than one interval apart: every `Ping` restarts the
idle timer, so the timer never runs out, whether the peer is heard or not.
Frames, activity reports, timeout checks and the hello calls an authenticated
connection rejects may come between the ticks, as long as no frame or activity
report is dated before the latest tick. -/

namespace Lockframe

namespace Connection

/-- Where an authenticated connection stands after a tick at `last`: no heartbeat
yet and no activity before `last`, or a heartbeat no later than the latest activity,
sent at `last` or less than an interval before it. -/
def KeptAlive (self : Connection) (last : Instant) : Prop :=
  self.state = .authenticated ∧
  (self.lastHeartbeat = none → last ≤ self.lastActivity) ∧
  ∀ beat, self.lastHeartbeat = some beat → beat ≤ self.lastActivity ∧ beat ≤ last ∧
    (beat = last ∨ last.durationSince beat < self.config.heartbeatInterval)

/-! ## The driver's schedule -/

/-- A call that keeps to the heartbeat schedule after the latest tick at `last`:
a tick not before it and at most `interval` after it, a frame or an activity
report not before it, and any other call but `close()`. -/
def OnSchedule (interval : Duration) (last : Instant) : Op → Prop
  | .tick now => last ≤ now ∧ now.durationSince last ≤ interval
  | .handleFrame _ now | .updateActivity now => last ≤ now
  | .sendHello _ | .receiveHelloReply _ _ | .checkTimeout _ => True
  | .close => False

instance (interval : Duration) (last : Instant) : DecidablePred (OnSchedule interval last)
  | .tick _ => inferInstanceAs (Decidable (_ ∧ _))
  | .handleFrame _ _ | .updateActivity _ => inferInstanceAs (Decidable (_ ≤ _))
  | .sendHello _ | .receiveHelloReply _ _ | .checkTimeout _ => inferInstanceAs (Decidable True)
  | .close => inferInstanceAs (Decidable False)

/-- The time of the latest tick once `op` is called, the one before at `last`. -/
def latestTick (last : Instant) : Op → Instant
  | .tick now => now
  | _ => last

/-- Calls that keep to the heartbeat schedule one after the other, from a latest
tick at `last`. -/
def Scheduled (interval : Duration) : Instant → List Op → Prop
  | _, [] => True
  | last, op :: ops => OnSchedule interval last op ∧ Scheduled interval (latestTick last op) ops

instance decidableScheduled (interval : Duration) :
    (last : Instant) → (ops : List Op) → Decidable (Scheduled interval last ops)
  | _, [] => inferInstanceAs (Decidable True)
  | last, op :: ops =>
      have := decidableScheduled interval (latestTick last op) ops
      inferInstanceAs (Decidable (_ ∧ _))

/-! ## One call, then a run -/

section KeepAlive

variable (codec : OpcodeCodec)

/-- A connection kept alive at `last` has not timed out at one interval after it. -/
theorem KeptAlive.checkTimeout {self : Connection} {last now : Instant}
    (alive : KeptAlive self last)
    (soon : now.durationSince last ≤ self.config.heartbeatInterval)
    (spacing : 2 * self.config.heartbeatInterval.nanos ≤ self.config.idleTimeout.nanos) :
    self.checkTimeout now = none := by
  obtain ⟨authenticated, fresh, beaten⟩ := alive
  refine checkTimeout_eq_none_of_le self.config.idleTimeout
    (by simp [authenticated, ConnectionConfig.timeout]) ?_
  simp only [Instant.le_iff, Duration.le_iff, Duration.lt_iff, Instant.durationSince_nanos] at *
  cases sent : self.lastHeartbeat with
  | none => have := fresh sent; omega
  | some beat => rcases beaten beat sent with ⟨_, _, rfl | _⟩ <;> omega

/-- Activity reported at or after the latest tick keeps the connection alive. -/
theorem KeptAlive.updateActivity {self : Connection} {last now : Instant}
    (alive : KeptAlive self last) (later : last ≤ now) :
    KeptAlive (self.updateActivity now) last := by
  obtain ⟨authenticated, -, beaten⟩ := alive
  refine ⟨authenticated, fun _ => later, fun beat sent => ?_⟩
  obtain ⟨-, beforeLast, recent⟩ := beaten beat sent
  exact ⟨Nat.le_trans beforeLast later, beforeLast, recent⟩

/-- A call on schedule keeps the connection alive and hands over no `Close`. -/
theorem Transition.keptAlive {self after : Connection} {op : Op} {out : Output}
    {last : Instant} (transition : Transition codec self op out after)
    (alive : KeptAlive self last) (onSchedule : OnSchedule self.config.heartbeatInterval last op)
    (spacing : 2 * self.config.heartbeatInterval.nanos ≤ self.config.idleTimeout.nanos) :
    KeptAlive after (latestTick last op) ∧ out.emitted.countP ConnectionAction.isClose = 0 := by
  have authenticated := alive.1
  cases transition
  case hello init | helloReply pending => simp_all
  case helloRejected | helloReplyRejected | checkTimeout => exact ⟨alive, rfl⟩
  case pong | frameRejected | activity => exact ⟨alive.updateActivity onSchedule, rfl⟩
  case timeout now elapsed timedOut =>
    simp [alive.checkTimeout onSchedule.2 spacing] at timedOut
  case heartbeat => exact ⟨⟨authenticated, nofun, by simp [latestTick]⟩, rfl⟩
  case quiet now _ idle =>
    cases sent : self.lastHeartbeat with
    | none => simp [authenticated, shouldSendHeartbeat, sent] at idle
    | some beat =>
      have due : now.durationSince beat < self.config.heartbeatInterval := by
        simpa [authenticated, shouldSendHeartbeat, sent] using idle
      obtain ⟨beforeActivity, beforeLast, -⟩ := alive.2.2 beat sent
      refine ⟨⟨authenticated, by simp [sent], fun other same => ?_⟩, rfl⟩
      cases sent.symm.trans same
      exact ⟨beforeActivity, Nat.le_trans beforeLast onSchedule.1, .inr due⟩
  case close => exact onSchedule.elim

theorem run_keptAlive (ops : List Op) (self : Connection) (last : Instant)
    (alive : KeptAlive self last) (scheduled : Scheduled self.config.heartbeatInterval last ops)
    (spacing : 2 * self.config.heartbeatInterval.nanos ≤ self.config.idleTimeout.nanos) :
    (self.run codec ops).state = .authenticated ∧ closeActions (self.outputs codec ops) = 0 := by
  induction ops generalizing self last with
  | nil => exact ⟨alive.1, rfl⟩
  | cons op ops induction =>
    obtain ⟨onSchedule, rest⟩ := scheduled
    obtain ⟨stillAlive, noClose⟩ :=
      (step_transition codec self op).keptAlive codec alive onSchedule spacing
    have same := step_config codec self op
    obtain ⟨authenticated, restNoClose⟩ :=
      induction _ _ stillAlive (same ▸ rest) (same ▸ spacing)
    refine ⟨authenticated, ?_⟩
    simp only [closeActions, outputs_cons, List.flatMap_cons, List.countP_append]
      at restNoClose ⊢
    omega

end KeepAlive

/-- The handshake leaves the connection authenticated at `t0` with no heartbeat,
where `run_keptAlive` takes over. -/
theorem heartbeats_keep_connection_alive (codec : OpcodeCodec) (config : ConnectionConfig)
    (start hello t0 : Instant) (sessionId : UInt64) (calls : List Op)
    (spacing : 2 * config.heartbeatInterval.nanos ≤ config.idleTimeout.nanos)
    (scheduled : Scheduled config.heartbeatInterval t0 calls) :
    ((Connection.new start config).run codec
        ([.sendHello hello, .receiveHelloReply sessionId t0] ++ calls)).state =
      .authenticated ∧
    closeActions ((Connection.new start config).outputs codec
        ([.sendHello hello, .receiveHelloReply sessionId t0] ++ calls)) = 0 :=
  run_keptAlive codec calls
    { state := .authenticated, config, lastActivity := t0, lastHeartbeat := none,
      sessionId := some sessionId } t0 ⟨rfl, fun _ => Nat.le_refl _, fun _ => nofun⟩
    scheduled spacing

/-- Under the default configuration, ticks at 20 s, 40 s and 60 s keep the
connection open across a rejected frame at 25 s, an activity report at 30 s and
a timeout check at 45 s. -/
theorem default_config_keeps_alive_for_a_minute :
    let calls : List Op :=
      [.tick ⟨20000000000⟩, .handleFrame (pingFrame .byPosition) ⟨25000000000⟩,
        .updateActivity ⟨30000000000⟩, .tick ⟨40000000000⟩, .checkTimeout ⟨45000000000⟩,
        .tick ⟨60000000000⟩]
    2 * ConnectionConfig.default.heartbeatInterval.nanos ≤
      ConnectionConfig.default.idleTimeout.nanos ∧
    Scheduled ConnectionConfig.default.heartbeatInterval ⟨0⟩ calls ∧
    ((Connection.new ⟨0⟩ .default).run .byPosition
        ([.sendHello ⟨0⟩, .receiveHelloReply 1 ⟨0⟩] ++ calls)).state = .authenticated ∧
    closeActions ((Connection.new ⟨0⟩ .default).outputs .byPosition
        ([.sendHello ⟨0⟩, .receiveHelloReply 1 ⟨0⟩] ++ calls)) = 0 :=
  ⟨by decide, by decide,
    heartbeats_keep_connection_alive .byPosition .default ⟨0⟩ ⟨0⟩ ⟨0⟩ 1 _
      (by decide) (by decide)⟩

end Connection

end Lockframe
