import FullText.Wire.Channel

/-!
# The wire protocol

The bytes of a command, the values that a server answers with, and the errors that
it reports in a line of text.
-/

namespace FullText

/-- The end of a line. -/
def lineEnd : List UInt8 := [13, 10]

/-- A byte string after its length. -/
def bulkBytes (bytes : List UInt8) : List UInt8 :=
  textBytes ("$" ++ toString bytes.length) ++ lineEnd ++ bytes ++ lineEnd

/-- The bytes of a command: the number of its parts, and each part as a byte string. -/
def Call.bytes (c : Call) : List UInt8 :=
  textBytes ("*" ++ toString (c.args.length + 1)) ++ lineEnd ++
    bulkBytes (textBytes c.command) ++ c.args.flatMap fun a => bulkBytes a.bytes

/-- A value on the wire. -/
inductive WireValue where
  | nil
  | integer (value : Int)
  /-- The status line `OK`. -/
  | okay
  | status (line : String)
  | data (bytes : List UInt8)
  | items (values : List WireValue)

mutual

/-- The reply that a value on the wire makes. -/
def WireValue.toReply : WireValue → Reply
  | .nil => .nil
  | .integer value => .integer value
  | .okay => .status "OK"
  | .status line => .status line
  | .data bytes => .ofBytes bytes
  | .items values => .array (WireValue.toReplies values)

/-- The replies that values on the wire make. -/
def WireValue.toReplies : List WireValue → List Reply
  | [] => []
  | value :: values => value.toReply :: WireValue.toReplies values

end

/-! ### Errors of the server -/

/-- The kinds of errors that a server names by a code. -/
def errorKind? (code : String) : Option String :=
  [ ("ERR", "ResponseError"),
    ("EXECABORT", "ExecAbortError"),
    ("LOADING", "BusyLoadingError"),
    ("NOSCRIPT", "NoScriptError"),
    ("MOVED", "Moved"),
    ("ASK", "Ask"),
    ("TRYAGAIN", "TryAgain"),
    ("CLUSTERDOWN", "ClusterDown"),
    ("CROSSSLOT", "CrossSlot"),
    ("MASTERDOWN", "MasterDown"),
    ("READONLY", "ReadOnly"),
    ("NOTBUSY", "NotBusy") ].lookup code

/-- A line cut at its first space: the code and, after the space, the detail. -/
def splitCode (line : String) : String × Option String :=
  let code := line.toList.takeWhile (· != ' ')
  match line.toList.drop code.length with
  | [] => (String.ofList code, none)
  | _ :: detail => (String.ofList code, some (String.ofList detail))

/-- The message of an error line. -/
def errorLineMessage (line : String) : String :=
  let signalled := "An error was signalled by the server"
  match splitCode line with
  | (code, detail) =>
    match errorKind? code, detail with
    | some kind, some detail => signalled ++ " - " ++ kind ++ ": " ++ detail
    | some kind, none => signalled ++ "- " ++ kind
    | none, some detail => code ++ ": " ++ detail
    | none, none => code ++ ": Unknown extension error encountered"

/-- What arrives after a command was sent. -/
inductive Arrival where
  | value (value : WireValue)
  | errorLine (line : String)
  | endOfStream

/-- The answer that an arrival makes. -/
def Arrival.answer : Arrival → Answered
  | .value v => .ok v.toReply
  | .errorLine text => .error (.server (errorLineMessage text))
  | .endOfStream => .error (.connection "unexpected end of file")

end FullText
