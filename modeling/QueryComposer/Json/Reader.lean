import QueryComposer.Json.Token

set_option autoImplicit false

/-!
Reading a value from its tokens. The containers that are still open are kept in a list, innermost
first, so the reader is one pass over the tokens. A container beyond the deepest nesting is
unreadable as a whole, and so is an object one of whose names is.
-/

namespace QueryComposer.Json

/-- A member of an object that is being read; its name may be unreadable. -/
abbrev ReadMember := Option String × Json

/-- A container that is still open: its items so far, last first, or its members so far and the
name whose value comes next. -/
inductive Frame
  | array (items : List Json)
  | object (members : List ReadMember) (name? : Option String)
deriving Repr

/-- What the reader waits for, inside which open containers. -/
inductive ReaderState
  | awaitValue (mayClose : Bool) (open_ : List Frame)
  | awaitName (mayClose : Bool) (members : List ReadMember) (open_ : List Frame)
  | awaitColon (name? : Option String) (members : List ReadMember) (open_ : List Frame)
  | completed (value : Json) (open_ : List Frame)
deriving Repr

/-- The array of items in reverse order inside the given containers. -/
def closeArray (items : List Json) (outer : List Frame) : Json :=
  if outer.length < depthLimit then .array items.reverse else .unreadable

/-- The object of members in reverse order inside the given containers. -/
def closeObject (members : List ReadMember) (outer : List Frame) : Json :=
  match members.reverse.mapM (fun (name?, value) => name?.map (fun name => (name, value))) with
  | some known => if outer.length < depthLimit then .object known else .unreadable
  | none => .unreadable

/-- The value that a token is on its own. -/
def Token.scalar? : Token → Option Json
  | .null => some .null
  | .bool value => some (.bool value)
  | .number value? => some ((value?.map .number).getD .unreadable)
  | .string value? => some ((value?.map .string).getD .unreadable)
  | _ => none

namespace ReaderState

/-- Where a value is expected. Only directly after an opening bracket may the array end instead. -/
def stepValue (mayClose : Bool) (open_ : List Frame) : Token → Option ReaderState
  | .openArray => some (.awaitValue true (.array [] :: open_))
  | .openObject => some (.awaitName true [] open_)
  | .closeArray =>
    match mayClose, open_ with
    | true, .array items :: outer => some (.completed (closeArray items outer) outer)
    | _, _ => none
  | token => token.scalar?.map (fun value => .completed value open_)

/-- Where a member's name is expected. -/
def stepName (mayClose : Bool) (members : List ReadMember) (open_ : List Frame) :
    Token → Option ReaderState
  | .string name? => some (.awaitColon name? members open_)
  | .closeObject => if mayClose then some (.completed (closeObject members open_) open_) else none
  | _ => none

def stepComplete (value : Json) : List Frame → Token → Option ReaderState
  | .array items :: outer, .comma => some (.awaitValue false (.array (value :: items) :: outer))
  | .array items :: outer, .closeArray =>
    some (.completed (closeArray (value :: items) outer) outer)
  | .object members name? :: outer, .comma =>
    some (.awaitName false ((name?, value) :: members) outer)
  | .object members name? :: outer, .closeObject =>
    some (.completed (closeObject ((name?, value) :: members) outer) outer)
  | _, _ => none

/-- Take one token. -/
def step : ReaderState → Token → Option ReaderState
  | .awaitValue mayClose open_, token => stepValue mayClose open_ token
  | .awaitName mayClose members open_, token => stepName mayClose members open_ token
  | .awaitColon name? members open_, .colon =>
    some (.awaitValue false (.object members name? :: open_))
  | .awaitColon .., _ => none
  | .completed value open_, token => stepComplete value open_ token

/-- Take all tokens. -/
def run (state : ReaderState) (tokens : List Token) : Option ReaderState :=
  tokens.foldlM step state

/-- The value, when nothing is open any more. -/
def result? : ReaderState → Option Json
  | .completed value [] => some value
  | _ => none

end ReaderState

/-- The value that a list of tokens spells, if it spells one. -/
def ofTokens? (tokens : List Token) : Option Json :=
  (ReaderState.run (.awaitValue false []) tokens).bind ReaderState.result?

/-- Read a text as one value. -/
def parse? (text : String) : Option Json :=
  (tokens? text.toList).bind ofTokens?

end QueryComposer.Json
