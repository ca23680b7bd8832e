import RollupFees.Abi
import RollupFees.Call
import RollupFees.Dialogue
import RollupFees.Json

/-!
# Nodes

A node of a chain answers requests, each a method with parameters. It may answer with a result,
refuse, be out of reach, or stay silent. A refusal that speaks of a revert comes from the contract
and carries its data.

## Main definitions

* `Node.Request`, `Node.Reply` : what is sent, and what may come back
* `Node.Fault` : why a request came to nothing
* `Node.Exchange` : requests that lead to a value or a fault
* `Node.rpcCall`, `Node.contractCall` : an exchange under a time limit
-/

namespace RollupFees.Node

/-- A request. A method without parameters has null for them. -/
structure Request where
  method : String
  params : Json

/-- What may come back. -/
inductive Reply
  | result (value : Json)
  | refused (code : Int) (message : String) (data : Option Json)
  | unreachable (reason : String)
  | silent

/-- Why a request came to nothing. -/
inductive Fault
  | refused (code : Int) (message : String)
  | reverted (data : List UInt8)
  | unreachable (reason : String)
  | malformed
  | undecodable (fault : Abi.Fault)
  | unfit (reason : String)
  | silent

/-- Why a request came to nothing, in words. -/
def Fault.message : Fault → String
  | .refused code message => "code " ++ code.repr ++ ": " ++ message
  | .reverted data => "Contract call reverted with data: 0x" ++ Hex.ofBytes data
  | .unreachable reason => reason
  | .malformed => "<malformed result>"
  | .undecodable f => f.message
  | .unfit reason => "custom error: " ++ reason
  | .silent => "no answer"

/-- A dialogue with a node. -/
abbrev Talk (α : Type) := Dialogue (fun _ : Request => Reply) α

/-- Requests that lead to a value or a fault. -/
abbrev Exchange (α : Type) := ExceptT Fault (fun β => Talk β) α

/-- The value or the fault of an exchange. -/
def Exchange.outcome {α : Type} (e : Exchange α) : Talk (Except Fault α) := e.run

/-- Ends with a fault. -/
def fail {α : Type} (f : Fault) : Exchange α := ExceptT.mk (.done (.error f))

mutual

/-- The bytes that a refusal carries: those of a text in hexadecimal, or the first ones found in an
object, in the order of its keys. -/
def refusalBytes? : Json → Option (List UInt8)
  | .string s => Hex.bytes? (Hex.bare s)
  | .object fields => fieldBytes? fields
  | _ => none

/-- The first bytes found among fields. -/
def fieldBytes? : List (String × Json) → Option (List UInt8)
  | [] => none
  | (_, v) :: rest =>
    match refusalBytes? v with
    | some bytes => some bytes
    | none => fieldBytes? rest

end

/-- Whether a text has another one inside. -/
def mentions (word : List Char) : List Char → Bool
  | [] => word.isEmpty
  | c :: rest => word.isPrefixOf (c :: rest) || mentions word rest

/-- What a reply that is no result means. Where contracts are concerned, a refusal that speaks of a
revert is one. -/
def Reply.fault? (ofContract : Bool) : Reply → Except Fault Json
  | .result value => .ok value
  | .refused code message data =>
    if ofContract ∧ mentions "revert".toList message.toList then
      .error (.reverted ((data.bind refusalBytes?).getD []))
    else .error (.refused code message)
  | .unreachable reason => .error (.unreachable reason)
  | .silent => .error .silent

/-- A request whose result is read in some way. -/
def ask {α : Type} (ofContract : Bool) (method : String) (params : Json)
    (read? : Json → Option α) : Exchange α :=
  ExceptT.mk ((Dialogue.question (A := fun _ : Request => Reply) ⟨method, params⟩).bind fun reply =>
    .done ((reply.fault? ofContract).bind fun value =>
      match read? value with
      | some a => .ok a
      | none => .error .malformed))

/-- How an exchange ended, seen from outside: silence means that time ran out. -/
def ending {α : Type} : Except Fault α → Call.Ending α
  | .ok a => .finished (.ok a)
  | .error .silent => .overdue
  | .error f => .finished (.error f.message)

/-- An exchange with a node under a time limit. -/
def rpcCall {α : Type} (call : String) (limit : Duration) (e : Exchange α) :
    Talk (Except Failure α) :=
  e.outcome.bind fun r => .done (Call.rpcResult call limit (ending r))

/-- An exchange with a contract under a time limit. -/
def contractCall {α : Type} (call : String) (limit : Duration) (e : Exchange α) :
    Talk (Except Failure α) :=
  e.outcome.bind fun r => .done (Call.contractResult call limit (ending r))

end RollupFees.Node
