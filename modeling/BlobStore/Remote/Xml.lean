import BlobStore.Text.Blank
import BlobStore.Text.Digits

/-!
# XML

Just enough of the language to read what an endpoint says: elements, text with its references, and
what is passed over (attributes, comments, instructions). The fuel of the mutual readers is the
length of the text, which they never use up.
-/

namespace BlobStore

inductive Xml where
  | element (name : List Char) (children : List Xml)
  | text (content : List Char)
  deriving Inhabited

namespace Xml

/-- The text before the first place where `mark` stands, and the text behind it. -/
def splitAt? (mark : List Char) : List Char → Option (List Char × List Char)
  | [] => if mark = [] then some ([], []) else none
  | c :: rest =>
    if mark.isPrefixOf (c :: rest) then some ([], (c :: rest).drop mark.length)
    else (splitAt? mark rest).map fun (before, after) => (c :: before, after)

/-! ## References -/

/-- The character that a reference stands for. -/
def reference? (name : List Char) : Option Char :=
  match name with
  | '#' :: 'x' :: ds => code? 16 ds
  | '#' :: ds => code? 10 ds
  | _ =>
    [("amp".toList, '&'), ("lt".toList, '<'), ("gt".toList, '>'), ("quot".toList, '"'),
      ("apos".toList, '\x27')].lookup name
where
  code? (base : Nat) (ds : List Char) : Option Char :=
    if ds ≠ [] ∧ ds.all fun c => (Text.digitValue? base c).isSome then
      let n := Text.valueFrom base 0 ds
      if 0 < n ∧ n.isValidChar then some (.ofNat n) else none
    else none

/-- The text with each reference replaced; `name` is what was read of one, latest first. -/
def resolve : (name : Option (List Char)) → List Char → Option (List Char)
  | none, [] => some []
  | some _, [] => none
  | none, c :: rest =>
    if c = '&' then resolve (some []) rest else (resolve none rest).map (c :: ·)
  | some name, c :: rest =>
    if c = ';' then do
      let first ← reference? name.reverse
      let others ← resolve none rest
      return first :: others
    else resolve (some (c :: name)) rest

/-! ## Elements -/

/-- The name in a tag, and whether the tag closes its element at once. -/
def tagName (tag : List Char) : List Char × Bool :=
  (tag.takeWhile fun c => !Text.isBlank c && c ≠ '/', tag.getLast? = some '/')

/-- The tag at the front of a text, up to its `>`; one in quotes is part of the tag. -/
def tag? : (quote : Option Char) → List Char → Option (List Char × List Char)
  | _, [] => none
  | none, c :: rest =>
    if c = '>' then some ([], rest)
    else
      let quote := if c = '"' || c = '\x27' then some c else none
      (tag? quote rest).map fun (tag, rest) => (c :: tag, rest)
  | some q, c :: rest =>
    (tag? (if c = q then none else some q) rest).map fun (tag, rest) => (c :: tag, rest)

/-- What is passed over at the front of a text, if it starts so: a comment or an instruction. -/
def skip? (text : List Char) : Option (Option (List Char)) :=
  if "<!--".toList.isPrefixOf text then some ((splitAt? "-->".toList text).map (·.2))
  else if "<?".toList.isPrefixOf text then some ((splitAt? "?>".toList text).map (·.2))
  else none

mutual

/-- The element whose tag stands at the front of a text, behind its `<`. -/
def element? : (fuel : Nat) → List Char → Option (Xml × List Char)
  | 0, _ => none
  | fuel + 1, cs =>
    match tag? none cs with
    | none => none
    | some (tag, rest) =>
      match tagName tag with
      | ([], _) => none
      | (name, true) => some (Xml.element name [], rest)
      | (name, false) =>
        (children? fuel name rest).map fun (children, rest) => (Xml.element name children, rest)

/-- The children of an element and the text behind its closing tag. -/
def children? : (fuel : Nat) → (name : List Char) → List Char → Option (List Xml × List Char)
  | 0, _, _ => none
  | _, _, [] => none
  | fuel + 1, name, c :: rest =>
    let all := c :: rest
    match skip? all with
    | some none => none
    | some (some rest) => children? fuel name rest
    | none =>
      if "</".toList.isPrefixOf all then
        match splitAt? ['>'] (all.drop 2) with
        | some (closing, rest) =>
          if Text.trimEnd Text.isBlank closing = name then some ([], rest) else none
        | none => none
      else if "<![CDATA[".toList.isPrefixOf all then
        match splitAt? "]]>".toList (all.drop 9) with
        | some (content, rest) =>
          (children? fuel name rest).map fun (children, rest) =>
            (Xml.text content :: children, rest)
        | none => none
      else if c = '<' then
        match element? fuel rest with
        | some (child, rest) =>
          (children? fuel name rest).map fun (children, rest) => (child :: children, rest)
        | none => none
      else
        match resolve none (all.takeWhile (· ≠ '<')) with
        | some content =>
          (children? fuel name (all.dropWhile (· ≠ '<'))).map fun (children, rest) =>
            (Xml.text content :: children, rest)
        | none => none

end

/-- The root of a document, behind blanks, comments and instructions. -/
def root? : (fuel : Nat) → List Char → Option Xml
  | 0, _ => none
  | fuel + 1, cs =>
    let cs := cs.dropWhile fun c => Text.isBlank c || c = '\ufeff'
    match skip? cs with
    | some none => none
    | some (some rest) => root? fuel rest
    | none =>
      match cs with
      | '<' :: rest => (element? (rest.length + 1) rest).map (·.1)
      | _ => none

/-- The root element of a document. -/
def parse? (text : String) : Option Xml :=
  let cs := text.toList
  root? (cs.length + 1) cs

/-! ## Reading off -/

/-- The child elements with the given name. -/
def childrenNamed (x : Xml) (name : String) : List Xml :=
  match x with
  | .element _ children => children.filter fun
    | .element n _ => n = name.toList
    | .text _ => false
  | .text _ => []

/-- The text directly inside an element. -/
def content (x : Xml) : String :=
  match x with
  | .element _ children => .ofList <| children.flatMap fun
    | .element _ _ => []
    | .text content => content
  | .text content => .ofList content

/-- The text of the one child with the given name. -/
def field? (x : Xml) (name : String) : Option String :=
  match x.childrenNamed name with
  | [child] => some child.content
  | _ => none

end Xml

end BlobStore
