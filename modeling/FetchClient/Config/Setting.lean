import FetchClient.Config.Basic

/-!
# The settings of a configuration file

A configuration file is a list of settings, each under its key.

- `Setting`: what a value means, by what is asked for;
- `Config.ofSettings?`: the configuration that settings stand for.
-/

namespace FetchClient

/-- What a value of a configuration file means, by what is asked for. A reading that the value does
not have is nothing. -/
structure Setting where
  /-- The value where a text has to stand. -/
  text? : Option String
  /-- The value where a text may stand. -/
  choice? : Option (Option String)
  /-- The value where a truth value has to stand. -/
  flag? : Option Bool
  deriving DecidableEq, Repr

namespace Setting

/-- A value that is certainly a text. -/
def ofText (text : String) : Setting := ⟨some text, some (some text), none⟩

def ofFlag (flag : Bool) : Setting := ⟨none, none, some flag⟩

/-- A value without a reading. -/
def other : Setting := ⟨none, none, none⟩

end Setting

abbrev Settings := List (String × Setting)

namespace Settings

/-- Asks for a text. -/
def text? (settings : Settings) (key : String) : Option String :=
  (settings.lookup key).bind Setting.text?

/-- Asks for a text that may be missing. -/
def choice? (settings : Settings) (key : String) : Option (Option String) :=
  match settings.lookup key with
  | some setting => setting.choice?
  | none => some none

/-- Asks for a truth value, which is false when it is missing. -/
def flag? (settings : Settings) (key : String) : Option Bool :=
  match settings.lookup key with
  | some setting => setting.flag?
  | none => some false

/-- Whether a key occurs more than once. -/
def repeats (settings : Settings) (key : String) : Bool :=
  1 < (settings.filter (·.1 == key)).length

end Settings

namespace Config

/-- The keys of a configuration, in the order in which they are written. -/
def keys : List String :=
  ["input_path", "output_path", "class_name", "template_path", "watch"]

/-- The configuration that settings stand for. Unknown keys are ignored, and known ones must not be
repeated. -/
def ofSettings? (settings : Settings) : Option Config := do
  guard (!keys.any settings.repeats)
  return {
    inputPath := ← settings.text? "input_path"
    outputPath := ← settings.text? "output_path"
    chosenName := ← settings.choice? "class_name"
    templatePath := ← settings.choice? "template_path"
    watch := ← settings.flag? "watch" }

end Config

end FetchClient
