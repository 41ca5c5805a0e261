import FetchClient.Template.Lexeme
import FetchClient.Value

/-!
# What names stand for in a template

- `Pass`: one pass of a loop;
- `Scope`: what was assigned in a pass, or outside all loops;
- `Environment.lookup?`: the value at the end of a path.
-/

namespace FetchClient.Template

/-- The position of a key in a list: digits without a superfluous leading zero. -/
def indexOf? (key : String) : Option Nat :=
  match key.toList with
  | [] => none
  | ['0'] => some 0
  | '0' :: _ => none
  | digits =>
    if digits.all Char.isDigit then
      some (digits.foldl (fun n c => n * 10 + (c.toNat - '0'.toNat)) 0)
    else none

/-- The value that keys lead to. -/
def follow? : List String → Value → Option Value
  | [], value => some value
  | key :: keys, .object members => (members.lookup key).bind (follow? keys)
  | key :: keys, .array items => ((indexOf? key).bind (items[·]?)).bind (follow? keys)
  | _ :: _, _ => none

/-- One pass of a loop: the names that it sets, and its place among the passes. -/
structure Pass where
  item : String × Value
  key : Option (String × String)
  index : Nat
  count : Nat

/-- The names that every loop sets. -/
def Pass.counter? (pass : Pass) : List String → Option Value
  | ["index"] => some (.number (.int (pass.index + 1)))
  | ["index0"] => some (.number (.int pass.index))
  | ["first"] => some (.bool (pass.index == 0))
  | ["last"] => some (.bool (pass.index + 1 == pass.count))
  | _ => none

def Pass.lookup? (pass : Pass) (path : Path) : Option Value :=
  (if path.name = "loop" then pass.counter? path.keys else none) <|>
  (if path.name = pass.item.1 then follow? path.keys pass.item.2 else none) <|>
  (pass.key.bind fun (name, key) => if path.isWord name then some (.string key) else none)

structure Scope where
  assigned : List (String × Value)
  /-- The pass of a loop that the scope belongs to. -/
  pass : Option Pass

namespace Scope

/-- The scope outside all loops, before anything is assigned. -/
def outermost : Scope := ⟨[], none⟩

/-- The scope at the beginning of a pass. -/
def ofPass (pass : Pass) : Scope := ⟨[], some pass⟩

def assign (scope : Scope) (name : String) (value : Value) : Scope :=
  { scope with assigned := (name, value) :: scope.assigned }

def lookup? (scope : Scope) (path : Path) : Option Value :=
  ((scope.assigned.lookup path.name).bind (follow? path.keys)) <|>
  (scope.pass.bind (·.lookup? path))

end Scope

/-- All scopes at a place, and the values that the template was given. -/
structure Environment where
  globals : List (String × Value)
  scope : Scope
  /-- The scopes around it, the innermost first. -/
  outer : List Scope
  /-- What random numbers are drawn from. -/
  chance : Nat

namespace Environment

def ofGlobals (globals : List (String × Value)) (chance : Nat) : Environment :=
  ⟨globals, .outermost, [], chance⟩

/-- The value at the end of a path, in the innermost scope where the whole path leads somewhere. -/
def lookup? (env : Environment) (path : Path) : Option Value :=
  ((env.scope :: env.outer).findSome? (·.lookup? path)) <|>
  ((env.globals.lookup path.name).bind (follow? path.keys))

/-- The environment inside a pass of a loop. -/
def enter (env : Environment) (pass : Pass) : Environment :=
  ⟨env.globals, .ofPass pass, env.scope :: env.outer, env.chance⟩

end Environment

end FetchClient.Template
