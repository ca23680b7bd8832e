import RollupFees.Json.Token

/-!
# Reading JSON

Tokens are read by a machine whose stack holds the arrays and objects that are still open. At most
127 of them may be open at a time.

## Main definitions

* `Json.Reader` : what has been read and what must come next
* `Json.parse?` : the value of a text
* `Json.parseBytes?` : the value of a file
-/

namespace RollupFees.Json

/-- A container still open: the items so far in reverse, or the fields so far and the key whose
value is being read. -/
inductive Frame
  | items (done : List Json)
  | fields (done : List (String × Json)) (key : String)

/-- What must come next, inside the open containers. -/
inductive Reader
  | value (stack : List Frame)
  | firstItem (stack : List Frame)
  | firstKey (stack : List Frame)
  | key (stack : List Frame) (done : List (String × Json))
  | colon (stack : List Frame) (done : List (String × Json)) (key : String)
  | after (stack : List Frame) (value : Json)

namespace Reader

/-- The most containers that may be open at a time. -/
def maxDepth : Nat := 127

/-- A token where a value must come. -/
def value? (stack : List Frame) : Token → Option Reader
  | .scalar v => some (.after stack v)
  | .openArray => if stack.length < maxDepth then some (.firstItem stack) else none
  | .openObject => if stack.length < maxDepth then some (.firstKey stack) else none
  | _ => none

/-- The reader after one more token. -/
def step? : Reader → Token → Option Reader
  | .value stack, t => value? stack t
  | .firstItem stack, .closeArray => some (.after stack (.array []))
  | .firstItem stack, t => value? (.items [] :: stack) t
  | .firstKey stack, .closeObject => some (.after stack (.object []))
  | .firstKey stack, .scalar (.string k) => some (.colon stack [] k)
  | .key stack done, .scalar (.string k) => some (.colon stack done k)
  | .colon stack done k, .colon => some (.value (.fields done k :: stack))
  | .after (.items done :: stack) v, .comma => some (.value (.items (v :: done) :: stack))
  | .after (.items done :: stack) v, .closeArray =>
    some (.after stack (.array (v :: done).reverse))
  | .after (.fields done k :: stack) v, .comma => some (.key stack (insertField k v done))
  | .after (.fields done k :: stack) v, .closeObject =>
    some (.after stack (.object (insertField k v done)))
  | _, _ => none

/-- The value, once nothing is open any more. -/
def finish? : Reader → Option Json
  | .after [] v => some v
  | _ => none

/-- Reads tokens to the end. -/
def run? (r : Reader) : List Token → Option Json
  | [] => r.finish?
  | t :: rest => (r.step? t).bind fun next => next.run? rest

end Reader

/-- The value that a list of tokens spells. -/
def ofTokens? (tokens : List Token) : Option Json := (Reader.value []).run? tokens

/-- The value of a text. -/
def parse? (text : String) : Option Json := (tokens? text).bind ofTokens?

/-- The value of a file, which has to be UTF-8. -/
def parseBytes? (bytes : ByteArray) : Option Json := (String.fromUTF8? bytes).bind parse?

end RollupFees.Json
