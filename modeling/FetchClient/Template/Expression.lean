import FetchClient.Template.Lexeme

/-!
# Expressions of templates

- `Expr`: a term with filters behind it and perhaps `not` in front of it, out of a part of the
  engine's expressions: there are no brackets, no lists, no fractions, no tests and no macros, and
  of the operators there are only `+`, `~`, `==`, `>`, `and`, `or` and `not`;
- `Expr.read?`: the expression that lexemes spell;
- `Expr.readOperand?`: the expression at the beginning of lexemes, without comparison, `and`, `or`
  and `not`.
-/

namespace FetchClient.Template

/-- An operand of `~`. -/
inductive Atom where
  | string (text : String)
  | integer (value : Int)
  | variable (path : Path)
  deriving DecidableEq, Repr

mutual

inductive Term where
  | string (text : String)
  | integer (value : Int)
  | bool (value : Bool)
  | variable (path : Path)
  /-- `a ~ b`, with any number of operands. -/
  | concat (atoms : List Atom)
  | sum (left right : Expr)
  | equal (left right : Expr)
  | greater (left right : Expr)
  | both (left right : Expr)
  | either (left right : Expr)
  /-- `name(argument=value, …)`, which asks for something beside the values. -/
  | call (name : String) (arguments : List (String × Expr))

inductive Expr where
  | mk (negated : Bool) (term : Term) (filters : List Filter)

/-- `| name` or `| name(argument=value, …)`. -/
inductive Filter where
  | mk (name : String) (arguments : List (String × Expr))

end

namespace Expr

/-- A term on its own. -/
def ofTerm (term : Term) : Expr := .mk false term []

/-- The same expression behind `not`, or not. -/
def negateIf (negated : Bool) : Expr → Expr
  | .mk _ term filters => .mk negated term filters

def isVariable : Expr → Bool
  | .mk _ (.variable _) _ => true
  | _ => false

/-- An expression and the lexemes behind it. -/
abbrev Read := Option (Expr × List Lexeme)

/-! ## Operands -/

def atom? : List Lexeme → Option (Atom × List Lexeme)
  | .string text :: rest => some (.string text, rest)
  | .integer value :: rest => some (.integer value, rest)
  | .path path :: rest => some (.variable path, rest)
  | _ => none

/-- The operands behind the first one. -/
def moreAtoms : List Lexeme → List Atom × List Lexeme
  | .tilde :: .string text :: rest => (.string text :: (moreAtoms rest).1, (moreAtoms rest).2)
  | .tilde :: .integer value :: rest => (.integer value :: (moreAtoms rest).1, (moreAtoms rest).2)
  | .tilde :: .path path :: rest => (.variable path :: (moreAtoms rest).1, (moreAtoms rest).2)
  | rest => ([], rest)

/-- Texts joined by `~`, or a text alone. -/
def textual? (lexemes : List Lexeme) : Option (Term × List Lexeme) := do
  let (first, rest) ← atom? lexemes
  match moreAtoms rest, first with
  | ([], _), .string text => return (.string text, rest)
  | ([], _), _ => none
  | (others, rest), first => return (.concat (first :: others), rest)

/-- The words for true and for false. -/
def truthWords : List String := ["true", "True", "false", "False"]

/-- Whether a name begins with a word for true or for false, which is read first. -/
def beginsWithTruth (path : Path) : Bool :=
  truthWords.any fun word => word.toList.isPrefixOf path.name.toList

/-- What a path stands for on its own. -/
def pathTerm? (path : Path) : Option Term :=
  if path.isWord "true" || path.isWord "True" then some (.bool true)
  else if path.isWord "false" || path.isWord "False" then some (.bool false)
  else if beginsWithTruth path then none
  else some (.variable path)

/-- An operand of `+`, which a text cannot be. -/
def summand? : List Lexeme → Option (Term × List Lexeme)
  | .integer value :: rest => some (.integer value, rest)
  | .path path :: rest => (pathTerm? path).map fun term => (term, rest)
  | _ => none

/-- Further summands. The first argument bounds their number. -/
def sumTail (left : Term) : Nat → List Lexeme → Term × List Lexeme
  | 0, rest => (left, rest)
  | fuel + 1, .plus :: rest =>
    match summand? rest with
    | some (right, rest) => sumTail (.sum (ofTerm left) (ofTerm right)) fuel rest
    | none => (left, .plus :: rest)
  | _, rest => (left, rest)

/-- Summands joined by `+`. -/
def sum? (lexemes : List Lexeme) : Option (Term × List Lexeme) :=
  (summand? lexemes).map fun (first, rest) => sumTail first rest.length rest

/-! ## Expressions -/

mutual

/-- Operands joined by `and` and `or`, of which `and` binds its operands first. The first argument
bounds the number of nested calls. -/
def read : Nat → List Lexeme → Read
  | 0, _ => none
  | fuel + 1, lexemes => do
    let (first, rest) ← readBoth fuel lexemes
    readEitherTail fuel first rest

def readEitherTail : Nat → Expr → List Lexeme → Read
  | 0, _, _ => none
  | fuel + 1, left, lexemes =>
    match lexemes with
    | .path path :: rest =>
      if path.isWord "or" then do
        let (right, rest) ← readBoth fuel rest
        readEitherTail fuel (ofTerm (.either left right)) rest
      else some (left, lexemes)
    | _ => some (left, lexemes)

def readBoth : Nat → List Lexeme → Read
  | 0, _ => none
  | fuel + 1, lexemes => do
    let (first, rest) ← readNegation fuel lexemes
    readBothTail fuel first rest

def readBothTail : Nat → Expr → List Lexeme → Read
  | 0, _, _ => none
  | fuel + 1, left, lexemes =>
    match lexemes with
    | .path path :: rest =>
      if path.isWord "and" then do
        let (right, rest) ← readNegation fuel rest
        readBothTail fuel (ofTerm (.both left right)) rest
      else some (left, lexemes)
    | _ => some (left, lexemes)

/-- A comparison with or without `not` in front of it. -/
def readNegation : Nat → List Lexeme → Read
  | 0, _ => none
  | fuel + 1, lexemes =>
    match lexemes with
    | .path path :: rest =>
      if path.isWord "not" then (readComparison fuel rest).map fun (e, rest) => (e.negateIf true, rest)
      else readComparison fuel lexemes
    | _ => readComparison fuel lexemes

def readComparison : Nat → List Lexeme → Read
  | 0, _ => none
  | fuel + 1, lexemes => do
    let (left, rest) ← readSide fuel lexemes
    match rest with
    | .equal :: rest =>
      let (right, rest) ← readSide fuel rest
      return (ofTerm (.equal left right), rest)
    | .greater :: rest =>
      let (right, rest) ← readSide fuel rest
      return (ofTerm (.greater left right), rest)
    | _ => return (left, rest)

/-- One side of a comparison. Filters may stand behind the whole of it or between summands. -/
def readSide : Nat → List Lexeme → Read
  | 0, _ => none
  | fuel + 1, lexemes =>
    match textual? lexemes with
    | some (term, rest) => do
      let (filters, rest) ← readFilters fuel rest
      return (.mk false term filters, rest)
    | none => do
      let (first, rest) ← readFiltered fuel lexemes
      readSideTail fuel first rest

def readSideTail : Nat → Expr → List Lexeme → Read
  | 0, _, _ => none
  | fuel + 1, left, .plus :: rest => do
    let (right, rest) ← readFiltered fuel rest
    readSideTail fuel (ofTerm (.sum left right)) rest
  | _ + 1, left, rest => some (left, rest)

/-- A call or a sum, with filters behind it. -/
def readFiltered : Nat → List Lexeme → Read
  | 0, _ => none
  | fuel + 1, lexemes => do
    let (term, rest) ←
      match lexemes with
      | .path path :: .open :: rest => readCall fuel path rest
      | _ => sum? lexemes
    let (filters, rest) ← readFilters fuel rest
    return (.mk false term filters, rest)

/-- A call from behind its opening bracket. -/
def readCall : Nat → Path → List Lexeme → Option (Term × List Lexeme)
  | 0, _, _ => none
  | fuel + 1, path, lexemes => do
    guard (path.keys.isEmpty && !beginsWithTruth path)
    let (arguments, rest) ← readArguments fuel lexemes
    return (.call path.name arguments, rest)

def readFilters : Nat → List Lexeme → Option (List Filter × List Lexeme)
  | 0, _ => none
  | fuel + 1, .pipe :: .path path :: rest => do
    guard path.keys.isEmpty
    let (arguments, rest) ←
      match rest with
      | .open :: rest => readArguments fuel rest
      | _ => some ([], rest)
    let (filters, rest) ← readFilters fuel rest
    return (.mk path.name arguments :: filters, rest)
  | _ + 1, rest => some ([], rest)

/-- Named arguments, if there are any, and the bracket that closes them. A comma may stand behind the
last one. -/
def readArguments : Nat → List Lexeme → Option (List (String × Expr) × List Lexeme)
  | 0, _ => none
  | _ + 1, .close :: rest => some ([], rest)
  | fuel + 1, .path path :: .assign :: rest => do
    guard path.keys.isEmpty
    let (value, rest) ← read fuel rest
    match rest with
    | .close :: rest => return ([(path.name, value)], rest)
    | .comma :: rest =>
      let (arguments, rest) ← readArguments fuel rest
      return ((path.name, value) :: arguments, rest)
    | _ => none
  | _ + 1, _ => none

end

/-- Enough nested calls for any number of lexemes. -/
def callBound (lexemes : List Lexeme) : Nat := 8 * lexemes.length + 8

/-- The expression that all lexemes together spell. -/
def read? (lexemes : List Lexeme) : Option Expr :=
  match read (callBound lexemes) lexemes with
  | some (e, []) => some e
  | _ => none

/-- The sum with its filters that all lexemes together spell. -/
def readOperand? (lexemes : List Lexeme) : Option Expr :=
  match readFiltered (callBound lexemes) lexemes with
  | some (e, []) => some e
  | _ => none

end Expr

end FetchClient.Template
