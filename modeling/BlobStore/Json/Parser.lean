import BlobStore.Json.Doc

/-!
# Reading JSON

The grammar of JSON text. Each reader takes a value off the front of a text and returns what is
left; the fuel of the mutual readers is the length of the text, which they never use up.
-/

namespace BlobStore.Json

def isSpace (c : Char) : Bool := c = ' ' || c = '\t' || c = '\n' || c = '\r'

def skipSpace (text : List Char) : List Char := text.dropWhile isSpace

/-! ## Strings -/

/-- Four hexadecimal digits. -/
def hexUnit? (a b c d : Char) : Option Nat := do
  let a ← Text.digitValue? 16 a
  let b ← Text.digitValue? 16 b
  let c ← Text.digitValue? 16 c
  let d ← Text.digitValue? 16 d
  return a * 4096 + b * 256 + c * 16 + d

/-- The character after a backslash, and what it stands for. -/
def plainEscape? : Char → Option Char
  | '"' => some '"'
  | '\\' => some '\\'
  | '/' => some '/'
  | 'b' => some (.ofNat 8)
  | 'f' => some (.ofNat 12)
  | 'n' => some '\n'
  | 'r' => some '\r'
  | 't' => some '\t'
  | _ => none

/-- The second half of a surrogate pair at the front of a text. -/
def lowSurrogate? : List Char → Option (Nat × List Char)
  | '\\' :: 'u' :: a :: b :: c :: d :: rest =>
    match hexUnit? a b c d with
    | some n => if 0xdc00 ≤ n ∧ n < 0xe000 then some (n, rest) else none
    | none => none
  | _ => none

/-- The rest of a string behind the characters `seen`, latest first. If half a character was named
the string is read on, but has no text. -/
def readString : (fuel : Nat) → (whole : Bool) → (seen : List Char) → List Char →
    Option (Option String × List Char)
  | 0, _, _, _ => none
  | _, _, _, [] => none
  | fuel + 1, whole, seen, c :: rest =>
    if c = '"' then some (if whole then some (.ofList seen.reverse) else none, rest)
    else if c = '\\' then
      match rest with
      | 'u' :: a :: b :: c :: d :: rest =>
        match hexUnit? a b c d with
        | none => none
        | some n =>
          if n < 0xd800 ∨ 0xe000 ≤ n then readString fuel whole (.ofNat n :: seen) rest
          else
            match lowSurrogate? rest with
            | some (low, rest') =>
              if n < 0xdc00 then
                readString fuel whole
                  (.ofNat (0x10000 + (n - 0xd800) * 1024 + (low - 0xdc00)) :: seen) rest'
              else readString fuel false seen rest
            | none => readString fuel false seen rest
      | c :: rest =>
        match plainEscape? c with
        | some c => readString fuel whole (c :: seen) rest
        | none => none
      | [] => none
    else if c < ' ' then none
    else readString fuel whole (c :: seen) rest

/-- The rest of a string behind its opening quote. -/
def string? (text : List Char) : Option (Option String × List Char) :=
  readString (text.length + 1) true [] text

/-! ## Numbers -/

/-- The digits at the front of a text. -/
def takeDigits (text : List Char) : List Char × List Char :=
  (text.takeWhile Text.isDecimalDigit, text.dropWhile Text.isDecimalDigit)

/-- Digits before the point: a zero alone, or no zero in front. -/
def wholePart? : List Char → Option (List Char × List Char)
  | '0' :: rest => some (['0'], rest)
  | text =>
    match takeDigits text with
    | ([], _) => none
    | part => some part

def fractionPart? : List Char → Option (List Char × List Char)
  | '.' :: rest =>
    match takeDigits rest with
    | ([], _) => none
    | part => some part
  | rest => some ([], rest)

def exponentPart? : List Char → Option (Option (Bool × List Char) × List Char)
  | c :: rest =>
    if c = 'e' ∨ c = 'E' then
      let (negative, rest) := match rest with
        | '+' :: rest => (false, rest)
        | '-' :: rest => (true, rest)
        | rest => (false, rest)
      match takeDigits rest with
      | ([], _) => none
      | (ds, rest) => some (some (negative, ds), rest)
    else some (none, c :: rest)
  | [] => some (none, [])

def numeral? (text : List Char) : Option (Numeral × List Char) := do
  let (negative, text) := match text with
    | '-' :: rest => (true, rest)
    | text => (false, text)
  let (whole, text) ← wholePart? text
  let (fraction, text) ← fractionPart? text
  let (exponent, text) ← exponentPart? text
  return (⟨negative, whole, fraction, exponent⟩, text)

/-! ## Values -/

mutual

/-- The value at the front of a text that does not start with space. -/
def doc? : (fuel : Nat) → List Char → Option (Doc × List Char)
  | 0, _ => none
  | fuel + 1, text =>
    match text with
    | 'n' :: 'u' :: 'l' :: 'l' :: rest => some (.null, rest)
    | 't' :: 'r' :: 'u' :: 'e' :: rest => some (.bool true, rest)
    | 'f' :: 'a' :: 'l' :: 's' :: 'e' :: rest => some (.bool false, rest)
    | '"' :: rest => (string? rest).map fun (text, rest) => (.str text, rest)
    | '[' :: rest =>
      match skipSpace rest with
      | ']' :: rest => some (.arr [], rest)
      | rest => (items? fuel rest).map fun (items, rest) => (.arr items, rest)
    | '{' :: rest =>
      match skipSpace rest with
      | '}' :: rest => some (.obj [], rest)
      | rest => (members? fuel rest).map fun (members, rest) => (.obj members, rest)
    | text => (numeral? text).map fun (n, rest) => (.number n, rest)

/-- Items up to the closing bracket; there is at least one. -/
def items? : (fuel : Nat) → List Char → Option (List Doc × List Char)
  | 0, _ => none
  | fuel + 1, text =>
    match doc? fuel text with
    | none => none
    | some (item, rest) =>
      match skipSpace rest with
      | ']' :: rest => some ([item], rest)
      | ',' :: rest => (items? fuel (skipSpace rest)).map fun (items, rest) => (item :: items, rest)
      | _ => none

/-- Members up to the closing brace; there is at least one. -/
def members? : (fuel : Nat) → List Char → Option (List (Option String × Doc) × List Char)
  | 0, _ => none
  | fuel + 1, text =>
    match text with
    | '"' :: rest =>
      match string? rest with
      | none => none
      | some (name, rest) =>
        match skipSpace rest with
        | ':' :: rest =>
          match doc? fuel (skipSpace rest) with
          | none => none
          | some (item, rest) =>
            match skipSpace rest with
            | '}' :: rest => some ([(name, item)], rest)
            | ',' :: rest =>
              (members? fuel (skipSpace rest)).map fun (members, rest) =>
                ((name, item) :: members, rest)
            | _ => none
        | _ => none
    | _ => none

end

/-- The document that a whole text spells. -/
def Doc.parse? (text : String) : Option Doc :=
  let cs := text.toList
  match doc? (cs.length + 1) (skipSpace cs) with
  | some (doc, rest) => if skipSpace rest = [] then some doc else none
  | none => none

/-- The value that a whole text spells. -/
def parse? (text : String) : Option Json := (Doc.parse? text).bind (Doc.value? Doc.maxDepth)

end BlobStore.Json
