import FullText.Number.Style

/-!
# Metrics

The events that are counted or measured: commands and their latency, the sizes of
result pages, refused input, and the creation, change and removal of indexes.
-/

namespace FullText

/-- An event that is counted or measured. -/
inductive Metric where
  /-- A command that ended with a status. -/
  | command (name status : String)
  /-- The time that a command took. -/
  | latency (command : String)
  /-- The number of documents on a page of results. -/
  | results (count : Nat)
  /-- Input for an index that was refused before it was sent. -/
  | validationFailure (index : String)
  /-- The end of an operation on an index as a whole. -/
  | operation (name : String) (success : Bool)
  deriving DecidableEq

namespace Metric

/-- Labels between braces. -/
def labels (entries : List (String × String)) : String :=
  "\x7b" ++ String.intercalate "," (entries.map fun (name, value) => name ++ "=" ++ value) ++
    "\x7d"

/-- A counter that goes up by one. -/
def counterText (name : String) (entries : List (String × String)) : String :=
  "counter " ++ name ++ labels entries ++ " +1"

/-- A value that a histogram takes. -/
def histogramText (name : String) (entries : List (String × String)) (value : String) : String :=
  "histogram " ++ name ++ labels entries ++ " " ++ value

/-- An event in one line, its labels in the order of their names.  A measured time
is not written out. -/
def text : Metric → String
  | .command name status =>
    counterText "search_client_commands_total" [("command", name), ("status", status)]
  | .latency name =>
    histogramText "search_client_command_seconds" [("command", name)] "TIME"
  | .results count =>
    histogramText "search_client_search_results" [] (Binary64.ofInt count).text
  | .validationFailure index =>
    counterText "search_client_validation_failures_total" [("index", index)]
  | .operation name success =>
    counterText "search_client_index_operations_total"
      [("operation", name), ("status", if success then "success" else "failure")]

end Metric

end FullText
