import RollupFees.Json.Token

/-!
# Writing JSON

A value is written as pieces: the tokens that spell it and the blanks between them. The compact
layout has no blanks; the spread layout puts each item and each field on a line of its own.

## Main definitions

* `Json.pieces` : a value in a layout
* `Json.compact`, `Json.spread` : the two written forms
-/

namespace RollupFees.Json

/-- A token, or blanks. -/
inductive Piece
  | token (t : Token)
  | blanks (text : String)

/-- How a value is laid out. -/
inductive Layout
  | compact
  | spread
deriving DecidableEq, Repr

/-- A character inside a quoted text. -/
def escapeChar (c : Char) : List Char :=
  match c with
  | '"' => ['\\', '"']
  | '\\' => ['\\', '\\']
  | '\x08' => ['\\', 'b']
  | '\x0c' => ['\\', 'f']
  | '\n' => ['\\', 'n']
  | '\r' => ['\\', 'r']
  | '\t' => ['\\', 't']
  | _ =>
    if c.toNat < 0x20 then
      ['\\', 'u', '0', '0', Hex.digit (c.toNat / 16), Hex.digit (c.toNat % 16)]
    else [c]

/-- A text in quotes. -/
def quote (text : String) : String :=
  String.ofList ('"' :: text.toList.flatMap escapeChar ++ ['"'])

/-- The text of a token. Only scalars are ever tokens, so containers have no text. -/
def Token.text : Token → String
  | .openArray => "["
  | .closeArray => "]"
  | .openObject => "\x7b"
  | .closeObject => "\x7d"
  | .comma => ","
  | .colon => ":"
  | .scalar .null => "null"
  | .scalar (.bool b) => if b then "true" else "false"
  | .scalar (.int n) => n.repr
  | .scalar (.real x) => realText x
  | .scalar (.string s) => quote s
  | .scalar _ => ""

/-- The text of a piece. -/
def Piece.text : Piece → String
  | .token t => t.text
  | .blanks s => s

/-- The tokens among pieces. -/
def Piece.tokens (pieces : List Piece) : List Token :=
  pieces.filterMap fun
    | .token t => some t
    | .blanks _ => none

namespace Layout

/-- The end of a line, with the next one indented twice `depth`. -/
def newline (layout : Layout) (depth : Nat) : List Piece :=
  match layout with
  | .compact => []
  | .spread => [.blanks (String.ofList ('\n' :: List.replicate (2 * depth) ' '))]

/-- A colon, set off from the value in the spread layout. -/
def colon : Layout → List Piece
  | .compact => [.token .colon]
  | .spread => [.token .colon, .blanks " "]

end Layout

mutual

/-- A value in a layout, inside `depth` containers. -/
def pieces (layout : Layout) (depth : Nat) : Json → List Piece
  | .array [] => [.token .openArray, .token .closeArray]
  | .array (item :: rest) =>
    .token .openArray ::
      (layout.newline (depth + 1) ++ pieces layout (depth + 1) item ++
        itemPieces layout (depth + 1) rest ++ layout.newline depth ++ [.token .closeArray])
  | .object [] => [.token .openObject, .token .closeObject]
  | .object ((key, value) :: rest) =>
    .token .openObject ::
      (layout.newline (depth + 1) ++ .token (.scalar (.string key)) :: layout.colon ++
        pieces layout (depth + 1) value ++ fieldPieces layout (depth + 1) rest ++
        layout.newline depth ++ [.token .closeObject])
  | scalar => [.token (.scalar scalar)]

/-- The items after the first. -/
def itemPieces (layout : Layout) (depth : Nat) : List Json → List Piece
  | [] => []
  | item :: rest =>
    .token .comma :: (layout.newline depth ++ pieces layout depth item ++
      itemPieces layout depth rest)

/-- The fields after the first. -/
def fieldPieces (layout : Layout) (depth : Nat) : List (String × Json) → List Piece
  | [] => []
  | (key, value) :: rest =>
    .token .comma :: (layout.newline depth ++ .token (.scalar (.string key)) :: layout.colon ++
      pieces layout depth value ++ fieldPieces layout depth rest)

end

/-- A value in a layout. -/
def render (layout : Layout) (json : Json) : String :=
  String.join ((pieces layout 0 json).map Piece.text)

/-- The text without blanks. -/
def compact (json : Json) : String := render .compact json

/-- The text with one item or field a line. -/
def spread (json : Json) : String := render .spread json

end RollupFees.Json
