import FetchClient.Decimal.Binary64

/-!
# Document values

The trees that descriptions, request bodies and template variables consist of.

- `Number`: an integer or a binary floating point number;
- `Value`: null, a truth value, a number, a text, a list, or an object;
- `Value.insertMember`: a member list with one member set, by which repeated keys are settled.
-/

namespace FetchClient

inductive Number where
  | int (value : Int)
  | float (value : Binary64)
  deriving DecidableEq, Repr

/-- A document tree. The members of an object stand in document order. -/
inductive Value where
  | null
  | bool (value : Bool)
  | number (value : Number)
  | string (value : String)
  | array (items : List Value)
  | object (members : List (String × Value))
  deriving Repr, Inhabited

namespace Value

/-- The members of an object, and nothing for any other value. -/
def members? : Value → Option (List (String × Value))
  | object members => some members
  | _ => none

/-- The items of a list, and nothing for any other value. -/
def items? : Value → Option (List Value)
  | array items => some items
  | _ => none

/-- The characters of a text, and nothing for any other value. -/
def text? : Value → Option String
  | string text => some text
  | _ => none

/-- The value under a key of an object. -/
def member? (value : Value) (key : String) : Option Value :=
  value.members?.bind (·.lookup key)

/-- The text under a key of an object. -/
def memberText? (value : Value) (key : String) : Option String :=
  (value.member? key).bind text?

/-- Sets a member: in its place when the key is known, behind all others when it is new. -/
def insertMember (key : String) (value : Value) : List (String × Value) → List (String × Value)
  | [] => [(key, value)]
  | (k, v) :: rest =>
    if k = key then (key, value) :: rest else (k, v) :: insertMember key value rest

/-- The members that remain of a list with repeated keys: a key keeps its first place and its
last value. -/
def mergeMembers (members : List (String × Value)) : List (String × Value) :=
  members.foldl (fun merged member => insertMember member.1 member.2 merged) []

end Value

end FetchClient
