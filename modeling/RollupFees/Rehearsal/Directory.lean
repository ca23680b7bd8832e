import RollupFees.Registry
import RollupFees.Rehearsal.Fault

/-!
# A rehearsed registry

A registry that knows some names and lets its first lookups fail as scripted.

## Main definitions

* `Directory` : the entries, the scripted failures that are left, and the names asked for
* `Directory.surroundings` : the directory as surroundings of a lookup
-/

namespace RollupFees

/-- A registry of a rehearsal. The first scripted outcome is that of the next lookup; where there is
none, or it is no fault, the lookup succeeds. -/
structure Directory where
  entries : List (String × Address)
  script : List (Option ScriptedFault)
  asked : List String

namespace Directory

/-- A directory that nobody has asked yet. -/
def fresh (entries : List (String × Address)) (script : List (Option ScriptedFault)) : Directory :=
  ⟨entries, script, []⟩

/-- The address of a name; the zero address stands for an unknown one. -/
def address (d : Directory) (name : String) : Address :=
  match d.entries.find? fun e => e.1 = name with
  | some e => e.2
  | none => Address.zero

/-- The answer to a question. Pauses take no time. -/
def answer : (q : Registry.Question) → Directory → q.Answer × Directory
  | .pause _, d => ((), d)
  | .address name, d =>
    let after := { d with script := d.script.tail, asked := d.asked ++ [name] }
    match d.script.head?.join with
    | some fault => (.error (fault.failure "getAddress"), after)
    | none => (.ok (d.address name), after)

/-- The directory as surroundings of a lookup. -/
def surroundings : Answerer Registry.Question.Answer Directory := ⟨answer⟩

end Directory
end RollupFees
