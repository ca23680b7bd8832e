import RollupFees.Node

/-!
# A rehearsed node

A node that answers each method with scripted replies, one after the other; the last one is repeated
for ever. A method without replies is out of reach.

## Main definitions

* `RehearsedNode` : the replies that are left, and the requests so far
* `RehearsedNode.surroundings` : the node as surroundings of an exchange
-/

namespace RollupFees

/-- A node of a rehearsal. -/
structure RehearsedNode where
  replies : List (String × List Node.Reply)
  requests : List Node.Request

namespace RehearsedNode

/-- A node with replies by method, which nobody has asked yet. -/
def fresh (replies : List (String × List Node.Reply)) : RehearsedNode := ⟨replies, []⟩

/-- What comes back from a method that is out of reach. -/
def noReply : Node.Reply := .unreachable "connection refused"

/-- The replies that are left to a method. -/
def left (n : RehearsedNode) (method : String) : List Node.Reply :=
  match n.replies.find? fun r => r.1 = method with
  | some r => r.2
  | none => []

/-- The replies after one has been given: the last one stays. -/
def rest : List Node.Reply → List Node.Reply
  | [] => []
  | [last] => [last]
  | _ :: others => others

/-- Replaces the replies of a method. -/
def setReplies (n : RehearsedNode) (method : String) (replies : List Node.Reply) : RehearsedNode :=
  { n with replies := (method, replies) :: n.replies.filter fun r => r.1 ≠ method }

/-- The answer to a request, which is recorded. -/
def answer (q : Node.Request) (n : RehearsedNode) : Node.Reply × RehearsedNode :=
  let replies := n.left q.method
  (replies.headD noReply,
    { n.setReplies q.method (rest replies) with requests := n.requests ++ [q] })

/-- The node as surroundings of an exchange. -/
def surroundings : Answerer (fun _ : Node.Request => Node.Reply) RehearsedNode := ⟨answer⟩

/-- Forgets the requests so far. -/
def clearRequests (n : RehearsedNode) : RehearsedNode := { n with requests := [] }

/-- The number of replies that are left. -/
def size (n : RehearsedNode) : Nat := n.replies.foldl (fun left r => left + r.2.length) 0

end RehearsedNode
end RollupFees
