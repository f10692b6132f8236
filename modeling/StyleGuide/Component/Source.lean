import StyleGuide.Ascending
import StyleGuide.Component.Basic
import StyleGuide.Text.Braces
import StyleGuide.Text.Class
import StyleGuide.Text.Search

namespace StyleGuide.Component

open Text

def docComment? (source : List Char) : Option (List Char) := do
  let (_, rest) ← splitAt? "/**".toList source
  let (text, _) ← splitAt? "*/".toList rest
  return text

/-- A documentation comment on one line: without stars, margins and empty lines. -/
def flattened (comment : List Char) : String :=
  let kept := (lines (comment.filter (· != '*'))).map trim
  " ".intercalate ((kept.filter (!·.isEmpty)).map String.ofList)

/-- A text between quotation marks. The marks need not be of one kind, and the text is not empty. -/
def quotedText? (cs : List Char) : Option (List Char × List Char) := do
  let cs ← oneOf? isQuote cs
  let (text, cs) ← run? (!isQuote ·) cs
  let cs ← oneOf? isQuote cs
  return (text, cs)

def displayName? (cs : List Char) : Option (List Char) := do
  let cs ← after? ".displayName".toList cs
  let cs ← char? '=' (skipBlanks cs)
  return (← quotedText? (skipBlanks cs)).1

/-- What a component's source says about it: its first documentation comment, or else its display
name. -/
def description (source : String) : String :=
  match docComment? source.toList with
  | some comment => flattened comment
  | none => match firstMatch displayName? source.toList with
    | some name => String.ofList name ++ " component"
    | none => ""

def variantsOpener? (cs : List Char) : Option (List Char) := do
  let cs ← after? "variants:".toList cs
  char? '{' (skipBlanks cs)

def groupName? (line : List Char) : Option (List Char) := do
  let (name, cs) ← run? isWord (trim line)
  let cs ← char? ':' cs
  let _ ← char? '{' (skipBlanks cs)
  return name

def variants (source : String) : List String :=
  match firstBlock? variantsOpener? source.toList with
  | some body => ((topLevelLines body).filterMap groupName?).map String.ofList
  | none => []

/-- The end of a statement: `from` between blanks, and a module between quotation marks. -/
def fromModule? (cs : List Char) : Option (List Char × List Char) := do
  let cs ← blanks? cs
  let cs ← after? "from".toList cs
  quotedText? (← blanks? cs)

def clause? : List Char → Option (List Char × List Char)
  | [] => none
  | c :: r => match fromModule? (c :: r) with
    | some found => some found
    | none => if isLineFeed c then none else clause? r

/-- At least one blank and then a clause. As many blanks as can be are passed before the clause is
sought. -/
def blanksClause? : List Char → Option (List Char × List Char)
  | [] => none
  | c :: r => if isBlank c then
      match blanksClause? r with
      | some found => some found
      | none => clause? r
    else none

def statement? (keyword cs : List Char) : Option (List Char × List Char) :=
  (after? keyword cs).bind blanksClause?

/-- The modules that statements name. A statement begins where a line begins. -/
def modules (keyword : List Char) (lineStart : Bool) (cs : List Char) : List (List Char) :=
  match cs with
  | [] => []
  | c :: r => match if lineStart then statement? keyword (c :: r) else none with
    | some (name, rest) =>
      if rest.length ≤ r.length then name :: modules keyword false rest else [name]
    | none => modules keyword (isLineFeed c) r
termination_by cs.length
decreasing_by all_goals simp_wf <;> omega

def isExternal : List Char → Bool
  | '.' :: _ => false
  | '/' :: _ => false
  | _ => true

def dependencies (source : String) (index : Option String) : List String :=
  let names := modules "import".toList true source.toList ++
    (match index with
    | some text => modules "export".toList true text.toList
    | none => [])
  ascending id ((names.filter isExternal).map String.ofList)

/-- A name that ends in `Props` and does not consist of that alone. -/
def propsName? (cs : List Char) : Option (List Char) := do
  let (name, rest) ← run? isWord cs
  match before? "Props".toList name with
  | some (_ :: _) => return rest
  | _ => none

def interfaceOpener? (cs : List Char) : Option (List Char) := do
  let cs ← blanks? (← after? "interface".toList cs)
  let cs ← propsName? cs
  char? '{' (cs.dropWhile (· != '{'))

def typeOpener? (cs : List Char) : Option (List Char) := do
  let cs ← blanks? (← after? "type".toList cs)
  let cs ← char? '=' (skipBlanks (← propsName? cs))
  char? '{' (skipBlanks cs)

def propsOpener? (cs : List Char) : Option (List Char) := do
  let cs ← blanks? (← after? "export".toList cs)
  interfaceOpener? cs <|> typeOpener? cs

/-- A declaration at the front of a line: the name, whether it must be given, and the type. -/
def declared? (line : List Char) : Option (List Char × Bool × List Char) := do
  let (name, cs) ← run? isWord line
  let (required, cs) := match char? '?' cs with
    | some cs => (false, cs)
    | none => (true, cs)
  let cs ← char? ':' cs
  let (type, _) ← run? (fun c => c != ';' && c != ',') cs
  return (name, required, trim type)

def nonempty? (cs : List Char) : Option (List Char) := if cs.isEmpty then none else some cs

def commentText (cs : List Char) : List Char := trim (cs.dropWhile (· == '*'))

def leadingComment? (line : List Char) : Option (List Char × List Char) := do
  let (comment, rest) ← splitAt? "*/".toList (← after? "/*".toList line)
  let rest ← nonempty? (trim rest)
  return (commentText comment, rest)

def docOnLine? (line : List Char) : Option (List Char) := do
  let (_, rest) ← splitAt? "/**".toList line
  return (← splitAt? "*/".toList rest).1

def lineComment? (line : List Char) : Option (List Char) :=
  firstMatch (fun cs => (after? "//".toList cs).bind nonempty?) line

/-- The comment on a declaration's own line. An empty documentation comment is no comment, and no
other is looked for then. -/
def sameLineComment? (line : List Char) : Option (List Char) :=
  match docOnLine? line with
  | some text => nonempty? (trim text)
  | none => (lineComment? line).bind fun text => nonempty? (trim text)

/-- The comment seen on the lines just above, and whether it is still open. -/
structure Pending where
  lines : List (List Char)
  isOpen : Bool

namespace Pending

def empty : Pending := ⟨[], false⟩

def push (p : Pending) (text : List Char) : Pending :=
  match nonempty? (commentText text) with
  | some text => { p with lines := p.lines ++ [text] }
  | none => p

/-- The comment after a line that belongs to one. Any other line gives nothing. -/
def absorb? (p : Pending) (line : List Char) : Option Pending :=
  if p.isOpen then
    match before? "*/".toList line with
    | some rest => some ({ p with isOpen := false }.push rest)
    | none => some (p.push line)
  else
    match after? "//".toList line with
    | some rest => some (empty.push rest)
    | none => match after? "/*".toList line with
      | some rest => match before? "*/".toList rest with
        | some inner => some (empty.push inner)
        | none => some (Pending.push ⟨[], true⟩ rest)
      | none => if line.head? = some '*' then some p else none

def text? (p : Pending) : Option (List Char) :=
  if p.lines.isEmpty then none else some ([' '].intercalate p.lines)

end Pending

/-- The property that a line declares. A comment before the declaration counts most, then one after
it, then the one above. -/
def propertyOf? (pending : Pending) (leading : Option (List Char)) (line : List Char) :
    Option Property := do
  let (name, required, type) ← declared? line
  let description := leading <|> sameLineComment? line <|> pending.text?
  return ⟨.ofList name, .ofList type, required, description.map .ofList⟩

/-- The properties on lines without margins. A blank line, and a line that is neither comment nor
declaration, forgets the comment above. -/
def propertiesAfter (pending : Pending) : List (List Char) → List Property
  | [] => []
  | line :: rest =>
    if line.isEmpty then propertiesAfter .empty rest
    else
      match if pending.isOpen then none else leadingComment? line with
      | some (comment, line) =>
        (propertyOf? pending (nonempty? comment) line).toList ++ propertiesAfter .empty rest
      | none => match pending.absorb? line with
        | some pending => propertiesAfter pending rest
        | none => (propertyOf? pending none line).toList ++ propertiesAfter .empty rest

def properties (source : String) : List Property :=
  match firstBlock? propsOpener? source.toList with
  | some body => propertiesAfter .empty ((topLevelLines body).map trim)
  | none => []

end StyleGuide.Component
