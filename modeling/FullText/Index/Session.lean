import FullText.Metrics
import FullText.Wire.Channel

/-!
# Sessions

A session is what the operations on indexes leave behind: the state of the channel
and the metrics recorded so far.  Every command goes through `Session.send`, which
counts it and measures the time that it takes.
-/

namespace FullText

/-- The state of the channel, and the metrics in the order of their recording. -/
structure Session where
  channel : Recorder := {}
  metrics : List Metric := []

namespace Session

/-- The session with one more metric. -/
def record (s : Session) (m : Metric) : Session :=
  { s with metrics := s.metrics ++ [m] }

/-- Whether a command was answered with a reply, as a status. -/
def status (a : Answered) : String :=
  match a with
  | .ok _ => "success"
  | .error _ => "error"

/-- The answer to a command, and the session after it. -/
def send (s : Session) (c : Call) : Answered × Session :=
  let answer := s.channel.nextAnswer
  let after : Session := { s with channel := s.channel.record c }
  (answer, (after.record (.command c.command (status answer))).record (.latency c.command))

end Session

end FullText
