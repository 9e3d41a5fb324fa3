import Lockframe.Connection.Session

/-! # The actions a driver receives

A connection hands its driver two kinds of action. A `Close` comes only from a
`tick` whose timer ran out, and its reason names that timer, the handshake timer
in `Pending` or the idle timer in `Authenticated`, with the time since the last
activity: the `"timeout"` arm for the other states never runs. A `SendFrame` is
always the heartbeat `Ping` of an authenticated connection, so a run from
`Connection::new` sends no frame before the handshake has stored a session id. -/

namespace Lockframe

namespace Connection

section Actions

variable (codec : OpcodeCodec)

theorem Transition.sendFrame_ping {self after : Connection} {op : Op} {out : Output}
    {frame : Frame} (transition : Transition codec self op out after)
    (sending : .sendFrame frame ∈ out.emitted) :
    ∃ now, op = .tick now ∧ frame = pingFrame codec ∧ self.state = .authenticated := by
  cases transition
  case heartbeat now _ authenticated _ =>
    simp only [Output.emitted, List.mem_singleton, ConnectionAction.sendFrame.injEq] at sending
    exact ⟨now, rfl, sending, authenticated⟩
  all_goals simp [Output.emitted] at sending

end Actions

theorem frames_sent_after_handshake (codec : OpcodeCodec) (config : ConnectionConfig)
    (start : Instant) (ops : List Op) (op : Op) (frame : Frame)
    (sending : .sendFrame frame ∈
      (((Connection.new start config).run codec ops).step codec op).1.emitted) :
    ∃ now, op = .tick now ∧ frame = pingFrame codec ∧
      ((Connection.new start config).run codec ops).state = .authenticated ∧
      ((Connection.new start config).run codec ops).sessionId.isSome := by
  obtain ⟨now, called, ping, authenticated⟩ :=
    (step_transition codec _ op).sendFrame_ping codec sending
  exact ⟨now, called, ping, authenticated,
    (run_sessionInvariant codec config start ops).2 authenticated⟩

theorem first_heartbeat_after_handshake :
    let codec := OpcodeCodec.byPosition
    let before := (Connection.new ⟨0⟩ .default).run codec
      [.sendHello ⟨0⟩, .receiveHelloReply 7 ⟨0⟩]
    .sendFrame (pingFrame codec) ∈ (before.step codec (.tick ⟨1⟩)).1.emitted ∧
      before.state = .authenticated ∧ before.sessionId.isSome :=
  have sending : .sendFrame (pingFrame .byPosition) ∈
      (((Connection.new ⟨0⟩ .default).run .byPosition
        [.sendHello ⟨0⟩, .receiveHelloReply 7 ⟨0⟩]).step .byPosition (.tick ⟨1⟩)).1.emitted := by
    decide
  let ⟨_, _, _, authenticated, stored⟩ :=
    frames_sent_after_handshake .byPosition .default ⟨0⟩ _ _ _ sending
  ⟨sending, authenticated, stored⟩

end Connection

end Lockframe
