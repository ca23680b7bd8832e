import RollupFees.Json.Printer
import RollupFees.Node

/-!
# Requests and replies on the wire

A request is sent as a line of JSON that names the node by its URL. What comes back is an object
that holds a result, a refusal, or the reason why the node could not be reached; anything else means
that the node stayed silent.

## Main definitions

* `Node.Request.line` : a request as a line
* `Node.Reply.ofJson` : what comes back
-/

namespace RollupFees.Node

/-- A request to the node under a URL, as a line. -/
def Request.line (q : Request) (url : String) : String :=
  (Json.ofFields [("url", .string url), ("method", .string q.method), ("params", q.params)]).compact

/-- A text, or nothing. -/
def textOrNone : Json → String
  | .string s => s
  | _ => ""

/-- A whole number, or zero. -/
def wholeOrZero : Json → Int
  | .int n => n
  | _ => 0

/-- A refusal. -/
def refusalOf (j : Json) : Reply :=
  .refused (wholeOrZero ((j.field? "code").getD .null))
    (textOrNone ((j.field? "message").getD .null)) (j.field? "data")

/-- What comes back. -/
def Reply.ofJson (j : Json) : Reply :=
  match j.field? "result", j.field? "error", j.field? "fail" with
  | some value, _, _ => .result value
  | none, some e, _ => refusalOf e
  | none, none, some reason => .unreachable (textOrNone reason)
  | none, none, none => .silent

end RollupFees.Node
