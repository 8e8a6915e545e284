import Overloads.Json.Token

/-! From tokens to a JSON value, with the containers under way on a stack. Containers nested
more than 127 deep are unreadable. -/

namespace Overloads.Json

/-- A container under way, what it holds so far in reverse. A name that cannot be read is
none. -/
inductive Frame
  | array (items : List Json)
  | object (members : List (Option String × Json)) (name : Option String)

inductive Expected
  | value
  | firstItem
  | firstName
  | name
  | colon (name : Option String)
  | separator
  | nothing (result : Json)

structure Assembly where
  stack : List Frame
  expected : Expected

namespace Assembly

def depthLimit : Nat := 127

def deliver (value : Json) : List Frame → Assembly
  | [] => ⟨[], .nothing value⟩
  | .array items :: outer => ⟨.array (value :: items) :: outer, .separator⟩
  | .object members name :: outer => ⟨.object ((name, value) :: members) none :: outer, .separator⟩

/-- The names of an object, or nothing when one of them cannot be read. -/
def named? : List (Option String × Json) → Option (List (String × Json))
  | [] => some []
  | (name, value) :: rest => name.bind fun name => (named? rest).map ((name, value) :: ·)

def finished : Frame → Json
  | .array items => .array items.reverse
  | .object members _ =>
    match named? members.reverse with
    | some members => .object members
    | none => .unreadable

def close? (stack : List Frame) : Option Assembly :=
  match stack with
  | [] => none
  | frame :: outer =>
    some (deliver (if (stack.drop depthLimit).isEmpty then finished frame else .unreadable) outer)

def closeArray? (stack : List Frame) : Option Assembly :=
  match stack with
  | .array _ :: _ => close? stack
  | _ => none

def closeObject? (stack : List Frame) : Option Assembly :=
  match stack with
  | .object _ _ :: _ => close? stack
  | _ => none

def value? (stack : List Frame) : Token → Option Assembly
  | .openArray => some ⟨.array [] :: stack, .firstItem⟩
  | .openObject => some ⟨.object [] none :: stack, .firstName⟩
  | .quoted text => some (deliver ((text.map Json.string).getD .unreadable) stack)
  | .leaf value => some (deliver value stack)
  | _ => none

def name? (stack : List Frame) : Token → Option Assembly
  | .quoted name => some ⟨stack, .colon name⟩
  | _ => none

def step? (a : Assembly) (token : Token) : Option Assembly :=
  match a.expected, token with
  | .value, token => value? a.stack token
  | .firstItem, .closeArray => close? a.stack
  | .firstItem, token => value? a.stack token
  | .firstName, .closeObject => close? a.stack
  | .firstName, token => name? a.stack token
  | .name, token => name? a.stack token
  | .colon name, .colon =>
    match a.stack with
    | .object members _ :: outer => some ⟨.object members name :: outer, .value⟩
    | _ => none
  | .separator, .comma =>
    match a.stack with
    | .array _ :: _ => some ⟨a.stack, .value⟩
    | .object _ _ :: _ => some ⟨a.stack, .name⟩
    | [] => none
  | .separator, .closeArray => closeArray? a.stack
  | .separator, .closeObject => closeObject? a.stack
  | _, _ => none

end Assembly

def ofTokens? (tokens : List Token) : Option Json :=
  (tokens.foldlM Assembly.step? ⟨[], .value⟩).bind fun a =>
    match a.expected with
    | .nothing result => some result
    | _ => none

/-- The value that a text writes, with nothing but white space around it. -/
def parse? (text : String) : Option Json := (tokens? text.toList).bind ofTokens?

end Overloads.Json
