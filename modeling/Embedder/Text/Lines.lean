/-!
# Lines of a text

A line ends with a line feed, or with a carriage return and a line feed; the last line may end with
the text. `lines` cuts a text into lines without their ends.
-/

namespace Embedder.Text

/-- A reversed line without the carriage return at its end. -/
def dropReturn : List Char → List Char
  | '\r' :: cs => cs
  | cs => cs

/-- The lines of a text of which `done` is already read, last character first. -/
def linesFrom (done : List Char) : List Char → List (List Char)
  | [] => if done.isEmpty then [] else [done.reverse]
  | c :: cs => if c = '\n' then (dropReturn done).reverse :: linesFrom [] cs else linesFrom (c :: done) cs

/-- The lines of a text. -/
def lines (cs : List Char) : List (List Char) := linesFrom [] cs

end Embedder.Text
