import FetchClient.Toml.Statement

/-!
# TOML documents

- `Document`: the entries so far, and the table that entries are added to;
- `Document.obey?`: what a statement does to a document;
- `read?`: the entries of a text.
-/

namespace FetchClient.Toml

structure Document where
  entries : Entries
  /-- The path to the table that was named last. -/
  current : List String
  deriving Repr

def Document.empty : Document := ⟨[], []⟩

def Document.obey? (document : Document) : Statement → Option Document
  | .entry key item =>
    (document.entries.insertIn? document.current key.path key.last item).map fun entries =>
      ⟨entries, document.current⟩
  | .table key =>
    (document.entries.openTable? key.path key.last).map fun entries =>
      ⟨entries, key.path ++ [key.last]⟩
  | .element key =>
    (document.entries.openElement? key.path key.last).map fun entries =>
      ⟨entries, key.path ++ [key.last]⟩

/-- The entries of a text. -/
def read? (text : String) : Option Entries := do
  let statements ← Statement.read? text.toList
  let document ← statements.foldlM Document.obey? .empty
  return document.entries

end FetchClient.Toml
