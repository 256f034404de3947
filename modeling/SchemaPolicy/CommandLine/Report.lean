import SchemaPolicy.CommandLine.Run
import SchemaPolicy.Text.Lines

/-! What a run leaves on standard error, read line by line. -/

namespace SchemaPolicy.CommandLine

/-- What a failed run says, before all that it says of the failure. -/
def failureMark : String := "Error: "

/-- What a run that ends in a failure writes to standard error behind its log. -/
def Outcome.complaint : Outcome → String
  | .failure message => failureMark ++ message
  | _ => ""

/-- The text of the log on standard error: an event after the other, each with its line end. -/
def logText (events : List Event) : String :=
  String.join (events.map fun event => event.logged ++ "\n")

/-- The lines of the log in which the events start. An event takes more than one line if its message
does. -/
def logHeads (events : List Event) : List String :=
  events.map fun event =>
    String.ofList ((Text.lines (event.logged ++ "\n").toList).headD [])

/-- The failure that standard error names: the rest of the first line that starts with the mark of
one. -/
def failureLine? (events : List Event) (outcome : Outcome) : Option String :=
  (Text.lines (logText events ++ outcome.complaint).toList).findSome? fun line =>
    (failureMark.toList.isPrefixOf? line).map String.ofList

end SchemaPolicy.CommandLine
