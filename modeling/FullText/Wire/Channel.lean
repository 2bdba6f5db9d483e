import FullText.Wire.Arg
import FullText.Wire.Reply

/-!
# Channels

A channel sends one command at a time and gives its answer.  The `Recorder` is a
channel without a server: it keeps the commands that it is sent and answers from a
queue, and with `OK` when the queue is empty.
-/

namespace FullText

/-- Why a command has no reply. -/
inductive ChannelError where
  /-- The server answered with an error. -/
  | server (message : String)
  /-- The connection could not be opened, or was lost. -/
  | connection (message : String)
  /-- The answer could not be decoded. -/
  | protocol (message : String)
  deriving DecidableEq

/-- The message of an error. -/
def ChannelError.message : ChannelError → String
  | .server message => "Server error: " ++ message
  | .connection message => "Connection error: " ++ message
  | .protocol message => "Protocol error: " ++ message

/-- A command with its arguments. -/
structure Call where
  command : String
  args : List Arg
  deriving DecidableEq

/-- What a channel answers to a command. -/
abbrev Answered := Except ChannelError Reply

/-- A channel that records commands and answers from a queue. -/
structure Recorder where
  /-- The commands sent, the oldest first. -/
  calls : List Call := []
  /-- The answers to come, the next first. -/
  answers : List Answered := []

namespace Recorder

/-- Put an answer at the end of the queue. -/
def push (r : Recorder) (a : Answered) : Recorder :=
  { r with answers := r.answers ++ [a] }

/-- The command sent last. -/
def lastCall? (r : Recorder) : Option Call :=
  r.calls.getLast?

/-- The answer to the next command. -/
def nextAnswer (r : Recorder) : Answered :=
  r.answers.headD (.ok (.status "OK"))

/-- The recorder after a command. -/
def record (r : Recorder) (c : Call) : Recorder :=
  { calls := r.calls ++ [c], answers := r.answers.tail }

end Recorder

end FullText
