import BlobStore.Text.Digits

/-!
# Percent encoding

A text in which every character outside a class is written as the bytes of its UTF-8 form, each as
`%` and two hexadecimal digits; and the bytes that such a text stands for.
-/

namespace BlobStore.Url

/-- A hexadecimal digit, `A` to `F` for ten to fifteen. -/
def upperHex (n : Nat) : Char := if n < 10 then .ofNat (48 + n) else .ofNat (55 + n)

def escapeByte (b : UInt8) : List Char := ['%', upperHex (b.toNat / 16), upperHex (b.toNat % 16)]

/-- The text with the characters outside the class escaped. -/
def encode (keep : Char → Bool) (text : List Char) : List Char :=
  text.flatMap fun c => if keep c then [c] else (String.utf8EncodeChar c).flatMap escapeByte

/-- The bytes that a text stands for; a `%` that is not followed by two digits stands for itself. -/
def decode : List Char → List UInt8
  | '%' :: a :: b :: rest =>
    match Text.digitValue? 16 a, Text.digitValue? 16 b with
    | some x, some y => .ofNat (16 * x + y) :: decode rest
    | _, _ => 37 :: decode (a :: b :: rest)
  | c :: rest => String.utf8EncodeChar c ++ decode rest
  | [] => []

/-! ## Classes of characters that stand for themselves -/

def isLetter (c : Char) : Bool := ('a' ≤ c && c ≤ 'z') || ('A' ≤ c && c ≤ 'Z')

/-- ASCII without control characters. -/
def inHost (c : Char) : Bool := ' ' ≤ c && c ≤ '~'

/-- Kept in the part after `#`. -/
def inFragment (c : Char) : Bool := inHost c && !" \"<>`".toList.contains c

/-- Kept in the part after `?`; a web address also escapes the apostrophe there. -/
def inQuery (web : Bool) (c : Char) : Bool :=
  inHost c && !" \"#<>".toList.contains c && !(web && c.toNat = 39)

/-- Kept in a path. -/
def inPath (c : Char) : Bool := inFragment c && !"#?\x7b\x7d".toList.contains c

/-- Kept in a user name or password. -/
def inUserInfo (c : Char) : Bool := inPath c && !"/:;=@[\\]^|".toList.contains c

/-- Kept in the path of a signed request: letters, digits, `-`, `.`, `_`, `~` and the slash. -/
def inSignedPath (c : Char) : Bool :=
  isLetter c || Text.isDecimalDigit c || "-._~/".toList.contains c

/-- Kept in a value of a signed query. -/
def inSignedQuery (c : Char) : Bool := inSignedPath c && c ≠ '/'

/-- Kept in a form field. -/
def inForm (c : Char) : Bool := isLetter c || Text.isDecimalDigit c || "*-._".toList.contains c

/-- A form field: like percent encoding, with `+` for a space. -/
def encodeForm (text : List Char) : List Char :=
  text.flatMap fun c => if c = ' ' then ['+'] else encode inForm [c]

end BlobStore.Url
