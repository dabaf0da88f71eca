import Embedder.Text.Extending
import Embedder.Text.Unprintable

/-!
# Texts in quotes

A text for developers stands in double quotes. Whatever could not be seen, or would be taken for something
else, is escaped: quotes, backslashes, controls, marks that would join the character before them, and
characters that cannot be shown.
-/

namespace Embedder.Text

/-- The escape of a character by its code point. -/
def codeEscape (c : Char) : List Char :=
  ['\\', 'u', '\x7b'] ++ Nat.toDigits 16 c.toNat ++ ['\x7d']

/-- A character inside quotes. -/
def quotedChar (c : Char) : List Char :=
  if c = '\x00' then ['\\', '0']
  else if c = '\t' then ['\\', 't']
  else if c = '\r' then ['\\', 'r']
  else if c = '\n' then ['\\', 'n']
  else if c = '\\' then ['\\', '\\']
  else if c = '"' then ['\\', '"']
  else if isExtending c || !isPrintable c then codeEscape c
  else [c]

/-- A text in quotes. -/
def quoted (s : String) : String := "\"" ++ String.ofList (s.toList.flatMap quotedChar) ++ "\""

end Embedder.Text
