import FetchClient.Decimal.Shortest
import FetchClient.Json.Writer
import FetchClient.Template.Expression
import FetchClient.Template.Scope
import FetchClient.Text.LowerCase

/-!
# What expressions of templates mean

An expression can stand for a value, in a condition, and as a number, and these three readings do
not always agree: a name without a value is an error where a value is needed and false in a
condition, and filters behind a literal count for its value only.

- `Value.isTruthy`, `Value.shown`: whether a value counts as true, and how it is printed;
- `filter?`: what a filter makes of a value, and `call?`: what a function gives;
- `Expr.meaning`: the three readings of an expression.
-/

namespace FetchClient

/-! ## Values in templates -/

namespace Number

/-- The nearest floating point number. -/
def toBinary64 : Number → Binary64
  | int n => (Binary64.ofRatio (n < 0) n.natAbs 1).getD (.zero false)
  | float x => x

def isZero (n : Number) : Bool :=
  n.toBinary64.isZero

/-- Integers of 64 bits with sign. -/
def isSigned (n : Int) : Bool :=
  -(Int.pow 2 63) ≤ n && n < Int.pow 2 63

/-- The sum, which has to fit into 64 bits when both operands are integers. -/
def add? : Number → Number → Option Number
  | int m, int n =>
    if isSigned m && isSigned n then (if isSigned (m + n) then some (int (m + n)) else none)
    else if 0 ≤ m && 0 ≤ n then (if m + n < Int.pow 2 64 then some (int (m + n)) else none)
    else ((int m).toBinary64.add (int n).toBinary64).map float
  | m, n => (m.toBinary64.add n.toBinary64).map float

/-- Printed numbers are positional throughout, and show no fraction that is zero. -/
def shownLayout : DecimalLayout where
  positional _ := true
  pointZero := false
  plusSign := false

def shown : Number → List Char
  | int n => (toString n).toList
  | float x => x.write shownLayout

end Number

namespace Value

/-- Whether a value counts as true: everything but null, false, zero and what is empty. -/
def isTruthy : Value → Bool
  | null => false
  | bool b => b
  | number n => !n.isZero
  | string s => !s.isEmpty
  | array items => !items.isEmpty
  | object members => !members.isEmpty

def number? : Value → Option Number
  | number n => some n
  | _ => none

def bool? : Value → Option Bool
  | bool b => some b
  | _ => none

mutual

/-- How a value is printed. -/
def shown : Value → List Char
  | null => []
  | bool b => (toString b).toList
  | number n => n.shown
  | string s => s.toList
  | array items => '[' :: (shownItems items ++ [']'])
  | object _ => "[object]".toList

def shownItems : List Value → List Char
  | [] => []
  | [item] => item.shown
  | item :: items => item.shown ++ ',' :: ' ' :: shownItems items

end

mutual

/-- Equality, for which the order of the members of an object does not matter. -/
def same : Value → Value → Bool
  | null, null => true
  | bool a, bool b => a == b
  | number a, number b => decide (a = b)
  | string a, string b => a == b
  | array as, array bs => sameItems as bs
  | object as, object bs => as.length == bs.length && sameMembers as bs
  | _, _ => false

def sameItems : List Value → List Value → Bool
  | [], [] => true
  | a :: as, b :: bs => same a b && sameItems as bs
  | _, _ => false

/-- Whether every member of the first object is one of the second. -/
def sameMembers : List (String × Value) → List (String × Value) → Bool
  | [], _ => true
  | (key, a) :: as, bs => (bs.lookup key).any (same a) && sameMembers as bs

end

end Value

namespace Template

/-! ## Filters -/

/-- What stands for a character where markup must not be misread. -/
def escapeMarkup : Char → List Char
  | '&' => "&amp;".toList
  | '<' => "&lt;".toList
  | '>' => "&gt;".toList
  | '"' => "&quot;".toList
  | '\'' => "&#x27;".toList
  | '/' => "&#x2F;".toList
  | c => [c]

/-- Replaces the two characters `\n` by a line feed and `\t` by a tab, in one pass for each. -/
def unescapeSeparator (text : String) : String :=
  (text.replace "\\n" "\n").replace "\\t" "\t"

/-- The text that stands between joined items: none, unless one is given. -/
def separator? (arguments : List (String × Value)) : Option String :=
  match arguments.reverse.lookup "sep" with
  | none => some ""
  | some (.string text) => some (unescapeSeparator text)
  | some _ => none

/-- What a filter makes of a value. Nothing if there is no such filter, or none for the value. Of the
engine's filters these are a part, and the others are taken for filters that do not exist. -/
def filter? (name : String) (arguments : List (String × Value)) (value : Value) : Option Value :=
  match name, value with
  | "length", .array items => some (.number (.int items.length))
  | "length", .object members => some (.number (.int members.length))
  | "length", .string s => some (.number (.int s.toList.length))
  | "upper", .string s => some (.string (String.ofList (s.toList.flatMap Text.upper)))
  | "lower", .string s => some (.string (String.ofList (Text.lowerAll s.toList)))
  | "reverse", .array items => some (.array items.reverse)
  | "reverse", .string s => some (.string (String.ofList s.toList.reverse))
  | "escape", .string s => some (.string (String.ofList (s.toList.flatMap escapeMarkup)))
  | "join", .array items =>
    (separator? arguments).map fun separator =>
      .string (String.ofList (separator.toList.intercalate (items.map Value.shown)))
  | _, _ => none

/-- Filters that change no value themselves: `default` acts before all others, where a value is
missing. -/
def isPassive (name : String) : Bool :=
  name == "safe" || name == "default"

/-! ## Functions -/

/-- A bound of random numbers, which is an integer of 64 bits. -/
def bound? : Value → Option Int
  | .number (.int n) => if Number.isSigned n then some n else none
  | _ => none

/-- What a function gives. Of the engine's functions this is the one for random numbers, from
`start`, or else zero, to below `end`. The number that it is drawn from stays the same during a
rendering. -/
def call? (chance : Nat) (name : String) (arguments : List (String × Value)) : Option Value := do
  guard (name = "get_random")
  let start ← ((arguments.reverse.lookup "start").map bound?).getD (some 0)
  let stop ← (arguments.reverse.lookup "end").bind bound?
  guard (start < stop)
  return .number (.int (start + chance % (stop - start)))

/-! ## Expressions -/

/-- The three readings of an expression. Each is nothing where it is an error. -/
structure Meaning where
  value : Option Value
  truth : Option Bool
  number : Option Number

namespace Meaning

/-- A value that is no number has no reading as one. -/
def ofValue (value : Value) (truth : Bool) : Meaning :=
  ⟨some value, some truth, value.number?⟩

/-- A number, which is true unless it is zero. -/
def ofNumber (negated : Bool) (n : Option Number) : Meaning :=
  ⟨n.map .number, n.map fun n => negated != !n.isZero, n⟩

/-- A condition. -/
def ofTruth (truth : Option Bool) : Meaning :=
  ⟨truth.map .bool, truth, none⟩

/-- What a function gives. It is a condition only if it is true or false. -/
def ofCall (negated : Bool) (value : Option Value) : Meaning :=
  ⟨value, (value.bind Value.bool?).map (negated != ·), value.bind Value.number?⟩

end Meaning

/-- The text of an operand of `~`: texts and numbers have one. -/
def Atom.text? (env : Environment) : Atom → Option (List Char)
  | .string text => some text.toList
  | .integer n => some (toString n).toList
  | .variable path =>
    match env.lookup? path with
    | some (.string s) => some s.toList
    | some (.number n) => some (Json.writeNumber n)
    | _ => none

/-- Whether two values are equal. A number equals no other kind of value, and in that case `not`
changes nothing. -/
def equal (negated : Bool) (a b : Value) : Bool :=
  match a.number?, b.number? with
  | some m, some n => negated != m.toBinary64.sameValue n.toBinary64
  | none, none => negated != a.same b
  | _, _ => false

/-- Named arguments, if each of them has a value. -/
def present? (arguments : List (String × Option Value)) : Option (List (String × Value)) :=
  arguments.mapM fun (name, value) => value.map (name, ·)

/-- Whether the first filter is `default`. -/
def startsWithDefault : List Filter → Bool
  | .mk name _ :: _ => name == "default"
  | [] => false

mutual

/-- The readings of an expression. -/
def Expr.meaning (env : Environment) : Expr → Meaning
  | .mk negated term filters =>
    let bare := term.meaning env negated
    let isVariable := match term with | .variable _ => true | _ => false
    let given :=
      if isVariable && startsWithDefault filters then
        match bare.value with
        | none | some .null => defaultValue env filters
        | some value => some value
      else bare.value
    let filtered := given.bind (filterAll env filters)
    let value :=
      if negated && isVariable && bare.value.isNone && !startsWithDefault filters then
        some (.bool true)
      else if negated then filtered.map fun value => .bool !value.isTruthy
      else filtered
    let truth :=
      match term with
      | .variable _ => some (value.any Value.isTruthy)
      | .concat _ => value.map Value.isTruthy
      | _ => bare.truth
    let number :=
      match filters with
      | [] => bare.number
      | _ => value.bind Value.number?
    ⟨value, truth, number⟩

/-- The readings of a term without its filters. `negated` says whether `not` stands in front of it
and counts for its reading in a condition. -/
def Term.meaning (env : Environment) (negated : Bool) : Term → Meaning
  | .string text => .ofValue (.string text) (negated != !text.isEmpty)
  | .integer n => .ofNumber negated (some (.int n))
  | .bool b => .ofValue (.bool b) (negated != b)
  | .variable path =>
    match env.lookup? path with
    | some value => .ofValue value value.isTruthy
    | none => ⟨none, some false, none⟩
  | .concat atoms =>
    let text := (atoms.mapM (Atom.text? env)).map List.flatten
    ⟨text.map fun cs => .string (String.ofList cs), none, none⟩
  | .sum left right =>
    .ofNumber negated (do (← (left.meaning env).number).add? (← (right.meaning env).number))
  | .equal left right =>
    .ofTruth (do return equal negated (← (left.meaning env).value) (← (right.meaning env).value))
  | .greater left right =>
    .ofTruth (do
      let left ← (left.meaning env).number
      let right ← (right.meaning env).number
      return negated != right.toBinary64.below left.toBinary64)
  | .both left right =>
    .ofTruth (do
      if ← (left.meaning env).truth then return negated != (← (right.meaning env).truth)
      else return negated)
  | .either left right =>
    .ofTruth (do
      if ← (left.meaning env).truth then return !negated
      else return negated != (← (right.meaning env).truth))
  | .call name arguments =>
    .ofCall negated (do
      call? env.chance name (← present? (argumentValues env arguments)))

/-- What a leading `default` puts in place of a missing value. -/
def defaultValue (env : Environment) : List Filter → Option Value
  | .mk _ arguments :: _ => (argumentValues env arguments).lookup "value" |>.bind id
  | [] => none

/-- The value behind all filters. -/
def filterAll (env : Environment) : List Filter → Value → Option Value
  | [], value => some value
  | .mk name arguments :: filters, value =>
    if isPassive name then filterAll env filters value
    else do
      let arguments ← present? (argumentValues env arguments)
      filterAll env filters (← filter? name arguments value)

/-- The values of named arguments. -/
def argumentValues (env : Environment) : List (String × Expr) → List (String × Option Value)
  | [] => []
  | (name, e) :: arguments => (name, (e.meaning env).value) :: argumentValues env arguments

end

end Template

end FetchClient
