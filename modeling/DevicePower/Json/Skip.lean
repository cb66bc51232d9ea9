import DevicePower.Json.Token

/-!
# Passing over a JSON value

A member whose name means nothing here is passed over. Its form is still checked, to any depth,
with a stack of the lists and objects that are open; the loose verdicts of texts and numbers count.
-/

namespace DevicePower.Json

/-- What is open around a value. -/
inductive Frame where
  | list
  | object
deriving DecidableEq

/-- What the next token has to be, inside the frames that are open: a value; the first thing in a
list or object, or its end; a comma or an end; a member's name; the colon after it. Or nothing, once
the value is passed. -/
inductive Awaiting where
  | value (stack : List Frame)
  | first (frame : Frame) (outer : List Frame)
  | next (frame : Frame) (outer : List Frame)
  | name (stack : List Frame)
  | colon (stack : List Frame)
  | nothing
deriving DecidableEq

namespace Awaiting

/-- After a whole value inside the frames of a stack. -/
def afterValue : List Frame → Awaiting
  | [] => nothing
  | frame :: outer => next frame outer

/-- What the end of the text means. -/
def atEnd : Awaiting → Malformed
  | value _ => .endInValue
  | first .list _ => .endInList
  | next .list _ => .endInList
  | _ => .endInObject

/-- At the token that should begin a value. -/
def atValue (stack : List Frame) : Token → Except Malformed Awaiting
  | .word (.ok _) => .ok (afterValue stack)
  | .word (.error reason) => .error reason
  | .number _ (.ok _) => .ok (afterValue stack)
  | .number _ (.error reason) => .error reason
  | .text _ (.ok _) => .ok (afterValue stack)
  | .text _ (.error reason) => .error reason
  | .openList => .ok (first .list stack)
  | .openObject => .ok (first .object stack)
  | _ => .error .expectedValue

/-- At the token that should be a member's name. -/
def atName (stack : List Frame) : Token → Except Malformed Awaiting
  | .text _ (.ok _) => .ok (colon stack)
  | .text _ (.error reason) => .error reason
  | _ => .error .keyNotText

/-- Passes over one token. -/
def pass : Awaiting → Token → Except Malformed Awaiting
  | value stack, token => atValue stack token
  | name stack, token => atName stack token
  | colon stack, .colon => .ok (value stack)
  | colon _, _ => .error .expectedColon
  | first .list outer, .closeList => .ok (afterValue outer)
  | first .object outer, .closeObject => .ok (afterValue outer)
  | first .list outer, token => atValue (.list :: outer) token
  | first .object outer, token => atName (.object :: outer) token
  | next .list outer, .comma => .ok (value (.list :: outer))
  | next .object outer, .comma => .ok (name (.object :: outer))
  | next .list outer, .closeList => .ok (afterValue outer)
  | next .object outer, .closeObject => .ok (afterValue outer)
  | next .list _, _ => .error .expectedListEnd
  | next .object _, _ => .error .expectedObjectEnd
  | nothing, _ => .ok nothing

end Awaiting

/-- Passes over what is awaited and gives the tokens after it. -/
def passOver (awaiting : Awaiting) (tokens : List Token) : Except Malformed (List Token) :=
  match awaiting, tokens with
  | .nothing, tokens => .ok tokens
  | awaiting, [] => .error awaiting.atEnd
  | awaiting, token :: rest => do passOver (← awaiting.pass token) rest
termination_by structural tokens

/-- Passes over one value. -/
def skipValue (tokens : List Token) : Except Malformed (List Token) :=
  passOver (.value []) tokens

end DevicePower.Json
