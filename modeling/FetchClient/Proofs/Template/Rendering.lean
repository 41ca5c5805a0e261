import FetchClient.Template.Rendering
import Mathlib.Data.Option.Basic

/-!
# Rendering nodes one after another

- `Template.Gives`: whether nodes give a text and go on behind it with the same scope;
- `Template.gives_text`, `Template.gives_output`, `Template.gives_choice`, `Template.gives_loop`:
  what each kind of node adds to the text of the nodes behind it.
-/

namespace FetchClient.Template

/-- Whether nodes give a text, assign nothing and leave no loop. -/
def Gives (env : Environment) (nodes : List Node) (text : String) : Prop :=
  renderAll? env nodes = some ⟨text.toList, env.scope, .onward⟩

theorem shown_string (text : String) : (Value.string text).shown = text.toList := rfl

namespace Expr

variable (env : Environment) (path : Path)

theorem value_variable : ((ofTerm (.variable path)).meaning env).value = env.lookup? path := by
  unfold ofTerm Expr.meaning
  cases hlookup : env.lookup? path <;>
    simp [Term.meaning, startsWithDefault, filterAll, Meaning.ofValue, hlookup]

/-- A variable counts as true in a condition if it has a value that does. -/
theorem truth_variable :
    ((ofTerm (.variable path)).meaning env).truth =
      some ((env.lookup? path).any Value.isTruthy) := by
  rw [← value_variable env path]
  unfold ofTerm Expr.meaning
  simp

end Expr

variable {env : Environment} {nodes body : List Node} {path : Path} {rest : String}

theorem gives_nil : Gives env [] "" := by
  simp [Gives, renderAll?]

/-- A node that gives a text stands in front of others. -/
theorem gives_cons {node : Node} {text : List Char}
    (hnode : node.render? env = some ⟨text, env.scope, .onward⟩) (hrest : Gives env nodes rest) :
    Gives env (node :: nodes) (String.ofList text ++ rest) := by
  unfold Gives at hrest ⊢
  simp [renderAll?, hnode, hrest]

theorem gives_text (text : String) (hrest : Gives env nodes rest) :
    Gives env (.text text :: nodes) (text ++ rest) := by
  have hnode : (Node.text text).render? env = some ⟨text.toList, env.scope, .onward⟩ := by
    simp [Node.render?]
  simpa using gives_cons hnode hrest

/-- A text behind which nothing stands. -/
theorem gives_text_nil (text : String) : Gives env [.text text] text := by
  have hnil : Gives env [] "" := gives_nil
  simpa using gives_text text hnil

theorem gives_output {text : String} (hvalue : env.lookup? path = some (.string text))
    (hrest : Gives env nodes rest) :
    Gives env (.output (.ofTerm (.variable path)) :: nodes) (text ++ rest) := by
  have hnode : (Node.output (.ofTerm (.variable path))).render? env =
      some ⟨text.toList, env.scope, .onward⟩ := by
    simp [Node.render?, Expr.value_variable, hvalue, shown_string]
  simpa using gives_cons hnode hrest

/-- A condition without `else` adds the text of its branch if it is true. -/
theorem gives_choice {text : String}
    (hbody : (env.lookup? path).any Value.isTruthy = true → Gives env body text)
    (hrest : Gives env nodes rest) :
    Gives env (.choice [(.ofTerm (.variable path), body)] [] :: nodes)
      ((if (env.lookup? path).any Value.isTruthy then text else "") ++ rest) := by
  cases htruth : (env.lookup? path).any Value.isTruthy with
  | true =>
    have hbranch : renderAll? env body = some ⟨text.toList, env.scope, .onward⟩ := hbody htruth
    have hnode : (Node.choice [(.ofTerm (.variable path), body)] []).render? env =
        some ⟨text.toList, env.scope, .onward⟩ := by
      simp [Node.render?, renderBranches?, Expr.truth_variable, htruth, hbranch]
    simpa using gives_cons hnode hrest
  | false =>
    have hnode : (Node.choice [(.ofTerm (.variable path), body)] []).render? env =
        some ⟨[], env.scope, .onward⟩ := by
      simp [Node.render?, renderBranches?, renderAll?, Expr.truth_variable, htruth]
    simpa using gives_cons hnode hrest

/-- Passes that all go on to the next one give their texts one after another. -/
theorem runPasses?_mapIdx {α : Type} {render : Pass → Option Rendered} {pass : Nat → α → Pass}
    {things : List α} {text : α → String}
    (hpasses : ∀ thing ∈ things, ∀ index, ∃ scope,
      render (pass index thing) = some ⟨(text thing).toList, scope, .onward⟩) :
    runPasses? render (things.mapIdx pass) = some (String.join (things.map text)).toList := by
  induction things generalizing pass with
  | nil => rfl
  | cons thing things ih =>
    rw [List.forall_mem_cons] at hpasses
    obtain ⟨scope, hfirst⟩ := hpasses.1 0
    have hlater : ∀ thing ∈ things, ∀ index, ∃ scope,
        render (pass (index + 1) thing) = some ⟨(text thing).toList, scope, .onward⟩ :=
      fun thing hthing index => hpasses.2 thing hthing (index + 1)
    have hothers := ih hlater
    simp [List.mapIdx_cons, runPasses?, hfirst, hothers]

/-- A loop over a list adds the text of its body for every item. -/
theorem gives_loop {α : Type} {name : String} {things : List α} {value : α → Value}
    {text : α → String} (hitems : env.lookup? path = some (.array (things.map value)))
    (hbody : ∀ thing ∈ things, ∀ index count,
      Gives (env.enter ⟨(name, value thing), none, index, count⟩) body (text thing))
    (hrest : Gives env nodes rest) :
    Gives env (.loop none name (.ofTerm (.variable path)) body [] :: nodes)
      (String.join (things.map text) ++ rest) := by
  let passes := things.mapIdx fun i thing =>
    (⟨(name, value thing), none, i, (things.map value).length⟩ : Pass)
  have hpasses : passes? none name (.array (things.map value)) = some passes := by
    refine congrArg some (List.ext_getElem? fun i => ?_)
    simp [passes, Function.comp_def]
  have hrun : runPasses? (fun pass => renderAll? (env.enter pass) body) passes =
      some (String.join (things.map text)).toList :=
    runPasses?_mapIdx fun thing hthing index => ⟨_, hbody thing hthing index _⟩
  have hnode : (Node.loop none name (.ofTerm (.variable path)) body []).render? env =
      some ⟨(String.join (things.map text)).toList, env.scope, .onward⟩ := by
    -- A loop is over a variable, or it is refused.
    have hguard : Expr.isVariable (.ofTerm (.variable path)) = true := rfl
    simp only [Node.render?, hguard, Expr.value_variable, hitems, hpasses, guard,
      Option.bind_eq_bind, Option.bind_some, Option.pure_def, if_true, hrun]
    split
    · next hempty =>
      -- Without items there is no `otherwise` to be rendered either.
      have hthings : things = [] := by simpa [passes] using hempty
      simp [renderAll?, hthings]
    · rfl
  have hgives := gives_cons hnode hrest
  rwa [String.ofList_toList] at hgives

end FetchClient.Template
