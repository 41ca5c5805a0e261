import FetchClient.Template.Engine
import FetchClient.Template.Meaning
import FetchClient.Template.Node

/-!
# Rendering trees

- `Template.renderAll?`: what nodes give;
- `Template.ofNodes`: the template that is the tree of its nodes;
- `Template.partialEngine`: an engine of which these trees are all templates. It takes texts for
  malformed that spell other templates to the engine whose part it is.
-/

namespace FetchClient

namespace Template

/-- Where rendering goes on. -/
inductive Flow where
  /-- With the next node. -/
  | onward
  /-- Behind the innermost loop. -/
  | stop
  /-- With the next pass of the innermost loop. -/
  | skip
  deriving DecidableEq, Repr

/-- What a node leaves behind: its text, the scope with what it assigned, and where to go on. -/
structure Rendered where
  text : List Char
  scope : Scope
  flow : Flow

/-- The passes over a container: the items of a list, the characters of a text, or the members of
an object when there is a name for their keys. -/
def passes? (key : Option String) (item : String) : Value → Option (List Pass)
  | .array items =>
    if key.isSome then none
    else some (items.mapIdx fun i value => ⟨(item, value), none, i, items.length⟩)
  | .string text =>
    let cs := text.toList
    if key.isSome then none
    else some (cs.mapIdx fun i c =>
      ⟨(item, .string (String.singleton c)), none, i, cs.length⟩)
  | .object members =>
    key.map fun key => members.mapIdx fun i (name, value) =>
      ⟨(item, value), some (key, name), i, members.length⟩
  | _ => none

/-- Renders pass after pass until one stops the loop. -/
def runPasses? (render : Pass → Option Rendered) : List Pass → Option (List Char)
  | [] => some []
  | pass :: passes => do
    let rendered ← render pass
    if rendered.flow = .stop then return rendered.text
    else return rendered.text ++ (← runPasses? render passes)

mutual

/-- Renders one node. -/
def Node.render? (env : Environment) : Node → Option Rendered
  | .text text | .raw text => some ⟨text.toList, env.scope, .onward⟩
  | .comment | .optional => some ⟨[], env.scope, .onward⟩
  | .missing => none
  | .output e => do return ⟨(← (e.meaning env).value).shown, env.scope, .onward⟩
  | .assign name e => do return ⟨[], env.scope.assign name (← (e.meaning env).value), .onward⟩
  | .choice branches otherwise => do
    match ← renderBranches? env branches with
    | some rendered => return rendered
    | none => renderAll? env otherwise
  | .loop key item container body otherwise => do
    guard container.isVariable
    let passes ← passes? key item (← (container.meaning env).value)
    if passes.isEmpty then renderAll? env otherwise
    else
      let text ← runPasses? (fun pass => renderAll? (env.enter pass) body) passes
      return ⟨text, env.scope, .onward⟩
  | .stop => if env.scope.pass.isSome then some ⟨[], env.scope, .stop⟩ else none
  | .skip => if env.scope.pass.isSome then some ⟨[], env.scope, .skip⟩ else none

/-- Renders nodes up to one that leaves the loop or its pass. -/
def renderAll? (env : Environment) : List Node → Option Rendered
  | [] => some ⟨[], env.scope, .onward⟩
  | node :: nodes => do
    let rendered ← node.render? env
    if rendered.flow = .onward then
      let rest ← renderAll? { env with scope := rendered.scope } nodes
      return { rest with text := rendered.text ++ rest.text }
    else return rendered

/-- Renders the first branch whose condition is true, if there is one. -/
def renderBranches? (env : Environment) : List (Expr × List Node) → Option (Option Rendered)
  | [] => some none
  | (condition, nodes) :: branches => do
    if ← (condition.meaning env).truth then return some (← renderAll? env nodes)
    else renderBranches? env branches

end

/-- The template of a tree. Random numbers are drawn from the number of cycles that have begun. -/
def ofNodes (nodes : List Node) : Template where
  renderAfter? count globals :=
    (renderAll? (.ofGlobals globals count) nodes).map fun rendered => String.ofList rendered.text

instance partialEngine : Engine where
  load? text := (Node.readAll? text.toList).map ofNodes

theorem read?_eq_map (text : String) : read? text = (Node.readAll? text.toList).map ofNodes := rfl

end Template

end FetchClient
