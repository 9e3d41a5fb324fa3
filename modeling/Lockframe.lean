import Lockframe.Time
import Lockframe.Proto
import Lockframe.Connection.Machine
import Lockframe.Connection.Run
import Lockframe.Connection.Lifecycle
import Lockframe.Connection.Session
import Lockframe.Connection.Timers
import Lockframe.Connection.Heartbeat
import Lockframe.Connection.KeepAlive
import Lockframe.Connection.Actions
import Lockframe.Connection.States
import Lockframe.Tui.Text
import Lockframe.Tui.Commands
