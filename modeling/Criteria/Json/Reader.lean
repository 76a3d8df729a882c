/-
Reading JSON.

The tokens of a text are read by a machine that keeps the lists and objects
that are still open, the innermost first, and knows what may come next.  At
most 127 of them may be open at a time.  A repeated key keeps its last
value.
-/
import Criteria.Json.Token

namespace Criteria.Json

/-- A list or an object that is still open; the parts it has are held in reverse. -/
inductive Frame where
  | list (items : List Json)
  | object (fields : List (String × Json)) (key : String)

/-- What may come next. -/
inductive Expected where
  | value
  | valueOrClose
  | key (fields : List (String × Json)) (mayClose : Bool)
  | colon (fields : List (String × Json)) (key : String)
  | separator (last : Json)

/-- Where the machine stands: the open frames, the innermost first, and what may come next. -/
structure State where
  frames : List Frame
  expected : Expected

namespace State

/-- The greatest number of lists and objects open at a time. -/
def greatestDepth : Nat := 127

/-- Opens a list or an object unless too many are open. -/
def opened (frames : List Frame) (inner : Frame) (expected : Expected) : Option State :=
  if frames.length < greatestDepth then some ⟨inner :: frames, expected⟩ else none

/-- A value starts. -/
def start (frames : List Frame) : Token → Option State
  | .scalar value => some ⟨frames, .separator value⟩
  | .string text => some ⟨frames, .separator (.string text)⟩
  | .openList => opened frames (.list []) .valueOrClose
  | .openObject => opened frames (.object [] "") (.key [] true)
  | _ => none

/-- What the machine does at a token. -/
def step (state : State) (token : Token) : Option State :=
  match state.expected, state.frames, token with
  | .valueOrClose, .list items :: frames, .closeList =>
    some ⟨frames, .separator (.list items.reverse)⟩
  | .value, frames, token | .valueOrClose, frames, token => start frames token
  | .key fields true, .object _ _ :: frames, .closeObject =>
    some ⟨frames, .separator (ofFields fields.reverse)⟩
  | .key fields _, frames, .string key => some ⟨frames, .colon fields key⟩
  | .colon fields key, .object _ _ :: frames, .colon =>
    some ⟨.object fields key :: frames, .value⟩
  | .separator last, .list items :: frames, .comma => some ⟨.list (last :: items) :: frames, .value⟩
  | .separator last, .list items :: frames, .closeList =>
    some ⟨frames, .separator (.list (last :: items).reverse)⟩
  | .separator last, .object fields key :: frames, .comma =>
    some ⟨.object [] "" :: frames, .key ((key, last) :: fields) false⟩
  | .separator last, .object fields key :: frames, .closeObject =>
    some ⟨frames, .separator (ofFields ((key, last) :: fields).reverse)⟩
  | _, _, _ => none

/-- The value, once it is complete and nothing is open. -/
def result? : State → Option Json
  | ⟨[], .separator value⟩ => some value
  | _ => none

end State

/-- Reads a text that holds one JSON value. -/
def parse? (text : String) : Option Json := do
  let tokens ← Token.scan text.toList
  let state ← tokens.foldlM State.step ⟨[], .value⟩
  state.result?

end Criteria.Json
