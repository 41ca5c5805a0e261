/-!
# Requests on the command line

- `Slot`, `Flags`: the options of the `generate` command, and what was given for them;
- `Request`: what a command line asks for;
- `Request.ofArguments?`: the request in a list of arguments, which is refused as a whole when one
  of them cannot be understood.
-/

namespace FetchClient.Command

/-- An option with a value. -/
inductive Slot where
  | input
  | output
  | className
  | template
  | config
  deriving DecidableEq, Repr

namespace Slot

/-- The option with a long name. -/
def ofName? : String → Option Slot
  | "input" => some input
  | "output" => some output
  | "class-name" => some className
  | "template" => some template
  | "config" => some config
  | _ => none

/-- The option with a short name. -/
def ofLetter? : Char → Option Slot
  | 'i' => some input
  | 'o' => some output
  | _ => none

/-- Whether the value may be empty. A path may not. -/
def admitsEmpty (slot : Slot) : Bool :=
  slot = className

end Slot

/-- What was given for the options. -/
structure Flags where
  input : Option String
  output : Option String
  watch : Bool
  className : Option String
  template : Option String
  config : Option String
  deriving DecidableEq, Repr

namespace Flags

/-- No option is given. -/
def empty : Flags := ⟨none, none, false, none, none, none⟩

def value? (flags : Flags) : Slot → Option String
  | .input => flags.input
  | .output => flags.output
  | .className => flags.className
  | .template => flags.template
  | .config => flags.config

def put (flags : Flags) (value : String) : Slot → Flags
  | .input => { flags with input := some value }
  | .output => { flags with output := some value }
  | .className => { flags with className := some value }
  | .template => { flags with template := some value }
  | .config => { flags with config := some value }

/-- Sets an option, which must not have been set before. -/
def set? (flags : Flags) (slot : Slot) (value : String) : Option Flags :=
  if (flags.value? slot).isSome || (value.isEmpty && !slot.admitsEmpty) then none
  else some (flags.put value slot)

/-- Asks to watch, which must not have been asked before. -/
def setWatch? (flags : Flags) : Option Flags :=
  if flags.watch then none else some { flags with watch := true }

end Flags

/-- What a command line asks for. -/
inductive Request where
  | generate (flags : Flags)
  | version
  | help
  deriving DecidableEq, Repr

/-! ## Reading arguments -/

/-- What a group of short options comes to. -/
inductive Group where
  | done (flags : Flags)
  /-- The last option still needs a value. -/
  | open (flags : Flags) (slot : Slot)
  | help
  deriving DecidableEq, Repr

/-- Reads the letters of a group. What follows the letter of an option with a value is that value,
perhaps behind an equals sign. -/
def Group.read? (flags : Flags) : List Char → Option Group
  | [] => some (.done flags)
  | 'w' :: letters => flags.setWatch?.bind (read? · letters)
  | 'h' :: _ => some .help
  | letter :: text => do
    let slot ← Slot.ofLetter? letter
    match text with
    | [] => return .open flags slot
    | '=' :: value => return .done (← flags.set? slot (String.ofList value))
    | value => return .done (← flags.set? slot (String.ofList value))

/-- Whether an argument cannot be the value of the option in front of it. -/
def isOption (argument : String) : Bool :=
  argument.toList.head? == some '-' && argument != "-"

/-- The name of a long option, and the value behind an equals sign if there is one. -/
def splitLong (text : List Char) : String × Option String :=
  let name := text.takeWhile (· != '=')
  let value :=
    match text.drop name.length with
    | _ :: value => some (String.ofList value)
    | [] => none
  (String.ofList name, value)

namespace Request

/-- The request in the arguments of the `generate` command. -/
def ofOptions? (flags : Flags) : List String → Option Request
  | [] => some (.generate flags)
  | argument :: rest =>
    match argument.toList with
    | ['-', '-'] => if rest.isEmpty then some (.generate flags) else none
    | '-' :: '-' :: text =>
      match splitLong text with
      | ("watch", none) => flags.setWatch?.bind (ofOptions? · rest)
      | ("help", none) => some .help
      | (name, some value) => do ofOptions? (← flags.set? (← Slot.ofName? name) value) rest
      | (name, none) => do
        let slot ← Slot.ofName? name
        match rest with
        | [] => none
        | value :: rest =>
          if isOption value then none else ofOptions? (← flags.set? slot value) rest
    | '-' :: letter :: letters =>
      match Group.read? flags (letter :: letters) with
      | some (.done flags) => ofOptions? flags rest
      | some (.open flags slot) =>
        match rest with
        | [] => none
        | value :: rest =>
          if isOption value then none else do ofOptions? (← flags.set? slot value) rest
      | some .help => some .help
      | none => none
    | _ => none

/-- The request in a list of arguments. -/
def ofArguments? : List String → Option Request
  | [] => none
  | "generate" :: options => ofOptions? .empty options
  | "--version" :: _ => some .version
  | "--help" :: _ | ["help"] | ["help", "generate"] | ["help", "help"] => some .help
  | argument :: _ =>
    match argument.toList with
    | '-' :: 'V' :: _ => some .version
    | '-' :: 'h' :: _ => some .help
    | _ => none

end Request

end FetchClient.Command
