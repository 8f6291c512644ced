import BlobStore.Text.Combining
import BlobStore.Text.Unprintable
import BlobStore.Text.Digits

/-!
# Quoted text

How a message shows a key or a file name: between double quotes, on one line, and with every
character visible. A quote, a backslash and the usual control characters are written with a
backslash; any other character that leaves no mark, or would join the one before it, is written by
its number in braces.
-/

namespace BlobStore.Text

/-- Plain characters of ASCII, which no property table needs to be asked about. -/
def isPlain (c : Char) : Bool := ' ' ≤ c && c ≤ '~'

/-- One character between the quotes. -/
def quoteChar (c : Char) : List Char :=
  if c = '"' ∨ c = '\\' then ['\\', c]
  else if isPlain c then [c]
  else if c = '\x00' then ['\\', '0']
  else if c = '\t' then ['\\', 't']
  else if c = '\n' then ['\\', 'n']
  else if c = '\r' then ['\\', 'r']
  else if isCombining c || isUnprintable c then
    "\\u\x7b".toList ++ digits 16 c.toNat ++ ['}']
  else [c]

/-- The text between double quotes, every character visible. -/
def quote (text : String) : String :=
  .ofList ('"' :: text.toList.flatMap quoteChar ++ ['"'])

end BlobStore.Text
