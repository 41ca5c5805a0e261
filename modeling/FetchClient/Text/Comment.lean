import FetchClient.Text.Blank

/-!
# Text inside a block comment

- `Comment.line`: the text on one line, unable to end the comment that it stands in.
-/

namespace FetchClient.Text.Comment

/-- Parts every `*/` by a space. -/
def partTerminators : List Char → List Char
  | '*' :: '/' :: rest => '*' :: ' ' :: '/' :: partTerminators rest
  | c :: rest => c :: partTerminators rest
  | [] => []

/-- The words of the text, one space between two of them, with every `*/` parted. -/
def line (text : List Char) : List Char :=
  partTerminators ([' '].intercalate (words text))

end FetchClient.Text.Comment
