/-!
# Request verbs

- `Verb`: the methods of HTTP that a description may list under a path;
- `Verb.token`: the upper-case word;
- `Verb.ofText?`: the verb that a word names, whatever its letter case.
-/

namespace FetchClient

inductive Verb where
  | get
  | put
  | post
  | delete
  | options
  | head
  | patch
  | trace
  deriving DecidableEq, Repr

namespace Verb

def token : Verb → String
  | get => "GET"
  | put => "PUT"
  | post => "POST"
  | delete => "DELETE"
  | options => "OPTIONS"
  | head => "HEAD"
  | patch => "PATCH"
  | trace => "TRACE"

/-- The token in lower case, which begins the names of methods. -/
def word : Verb → String
  | get => "get"
  | put => "put"
  | post => "post"
  | delete => "delete"
  | options => "options"
  | head => "head"
  | patch => "patch"
  | trace => "trace"

def all : List Verb := [get, put, post, delete, options, head, patch, trace]

/-- The verb with exactly this token. -/
def ofToken? (text : String) : Option Verb :=
  all.find? (·.token = text)

/-- The verb whose token is the text up to ASCII letter case. -/
def ofText? (text : String) : Option Verb :=
  ofToken? (String.ofList (text.toList.map Char.toUpper))

/-- What is said of a text that names no verb. -/
def unknownMessage (text : String) : String :=
  "'" ++ text ++ "' is not an HTTP method"

theorem mem_all (verb : Verb) : verb ∈ all := by
  cases verb <;> decide

@[simp] theorem ofToken?_token (verb : Verb) : ofToken? verb.token = some verb := by
  cases verb <;> decide

end Verb

end FetchClient
