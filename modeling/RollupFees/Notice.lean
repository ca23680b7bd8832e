import RollupFees.Duration
import RollupFees.Timestamp

/-!
# Log lines

The service tells what it does in log lines. A line may show a reading of a clock; those readings
are kept apart from the words, so that a line can be compared without them.

## Main definitions

* `Notice` : a line with its level
* `Notice.text` : the line in full
* `Notice.masked` : the line with a mark for every reading of a clock
-/

namespace RollupFees

/-- How grave a line is. -/
inductive Level
  | error
  | warn
  | info
deriving DecidableEq, Repr

/-- The name of a level. -/
def Level.name : Level → String
  | .error => "ERROR"
  | .warn => "WARN"
  | .info => "INFO"

/-- Words, or a reading of a clock. -/
inductive Phrase
  | words (text : String)
  | instant (t : Timestamp)
  | elapsed (d : Duration)
deriving DecidableEq, Repr

/-- A line of the log. -/
structure Notice where
  level : Level
  phrases : List Phrase
deriving DecidableEq, Repr

namespace Notice

/-- A line of words. -/
def info (text : String) : Notice := ⟨.info, [.words text]⟩

/-- A line of words that asks for attention. -/
def warn (text : String) : Notice := ⟨.warn, [.words text]⟩

/-- A line of words about a failure. -/
def error (text : String) : Notice := ⟨.error, [.words text]⟩

/-- The line in full. -/
def text (n : Notice) : String :=
  n.level.name ++ " " ++ String.join (n.phrases.map fun
    | .words s => s
    | .instant t => t.display
    | .elapsed d => d.text)

/-- The line with a mark for every reading of a clock. -/
def masked (n : Notice) : String :=
  n.level.name ++ " " ++ String.join (n.phrases.map fun
    | .words s => s
    | _ => "<time>")

end Notice
end RollupFees
