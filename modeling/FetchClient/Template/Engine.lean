import FetchClient.Value

/-!
# Templates and their engine

Templates are loaded and rendered by an engine, of which this library takes only what it gives. A
template can ask it for more than the values that it was given: for the time, for a random number,
or for a variable of the process. So the same template may give another text at every rendering. It
is taken for granted that rendering ends, as it does unless a template includes itself.

- `Template`: what an engine has loaded, as the texts that it gives, cycle by cycle;
- `Template.render?`, `Template.after`: what it gives now, and what it gives later;
- `Template.Agrees`: whether two templates give the same for all values now;
- `Engine`, `Template.read?`: the template that an engine loads for a text.

What holds of a template holds of it in every engine. `Template/Rendering` spells out a part of one
engine: enough for the built-in template, for the examples, and for running the library.
-/

namespace FetchClient

/-- A template that was loaded. -/
structure Template where
  /-- The text that the template gives for some values, if it gives one, when so many further cycles
  have begun. -/
  renderAfter? : Nat → List (String × Value) → Option String

namespace Template

/-- The text that a template gives for some values. -/
def render? (template : Template) (globals : List (String × Value)) : Option String :=
  template.renderAfter? 0 globals

/-- The template when so many further cycles have begun. -/
def after (template : Template) (count : Nat) : Template :=
  ⟨fun further => template.renderAfter? (count + further)⟩

end Template

/-- What loads templates. A text that is malformed spells no template. -/
class Engine where
  load? : String → Option Template

/-- The template that a text spells. -/
def Template.read? [Engine] (text : String) : Option Template :=
  Engine.load? text

end FetchClient
