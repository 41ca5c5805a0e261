/-!
# Log lines

Everything that reports what it does returns its result together with the lines it wrote:

- `Log.Line`: a level and a text;
- `Logged`: a value and the lines written on the way to it, oldest first.
-/

namespace FetchClient

namespace Log

inductive Level where
  | error
  | warn
  | info
  | debug
  deriving DecidableEq, Repr

structure Line where
  level : Level
  text : String
  deriving DecidableEq, Repr

end Log

/-- A value and the log lines written on the way to it. -/
structure Logged (α : Type) where
  value : α
  lines : List Log.Line

namespace Logged

instance : Monad Logged where
  pure a := ⟨a, []⟩
  bind x f := ⟨(f x.value).value, x.lines ++ (f x.value).lines⟩

/-- Writes one line. -/
def write (level : Log.Level) (text : String) : Logged Unit :=
  ⟨(), [⟨level, text⟩]⟩

@[simp] theorem value_pure {α : Type} (a : α) : (pure a : Logged α).value = a := rfl

@[simp] theorem lines_pure {α : Type} (a : α) : (pure a : Logged α).lines = [] := rfl

@[simp] theorem value_bind {α β : Type} (x : Logged α) (f : α → Logged β) :
    (x >>= f).value = (f x.value).value := rfl

@[simp] theorem lines_bind {α β : Type} (x : Logged α) (f : α → Logged β) :
    (x >>= f).lines = x.lines ++ (f x.value).lines := rfl

@[simp] theorem value_write (level : Log.Level) (text : String) :
    (write level text).value = () := rfl

@[simp] theorem lines_write (level : Log.Level) (text : String) :
    (write level text).lines = [⟨level, text⟩] := rfl

end Logged

end FetchClient
