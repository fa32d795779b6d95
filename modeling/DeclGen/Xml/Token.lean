import DeclGen.Text.Case
import DeclGen.Xml.NameTable

/-!
Markup tokens of an XML document: tags with their attributes, runs of characters, and notes, that is,
comments and processing instructions. Every token is checked for well-formedness as far as this can be
done without looking at other tokens. Document type declarations are not read.
-/
namespace DeclGen.Xml

structure QualifiedName where
  space : Option Text
  base : Text
  deriving DecidableEq, Repr

inductive Token where
  | openTag (name : QualifiedName) (attributes : List (QualifiedName × Text)) (isEmpty : Bool)
  | closeTag (name : QualifiedName)
  | characters (areBlank : Bool)
  | note
  deriving DecidableEq, Repr

def isSpace (c : CodePoint) : Bool := c = ' ' || c = '\t' || c = '\n' || c = '\r'

def isAllowed (c : CodePoint) : Bool :=
  isSpace c || (decide (0x20 ≤ c.toNat) && c.toNat != 0xFFFE && c.toNat != 0xFFFF)

/-- The characters that names are made of: those of the table, and further letters that only some
documents have. -/
structure Alphabet where
  further : List Nat

def Alphabet.plain : Alphabet := ⟨[]⟩

def Alphabet.extended : Alphabet := ⟨[0xAA, 0xB5, 0xBA]⟩

def Alphabet.isNameStart (alphabet : Alphabet) (c : CodePoint) : Bool :=
  Text.inRanges nameStartRanges c.toNat || alphabet.further.contains c.toNat

def Alphabet.isNameChar (alphabet : Alphabet) (c : CodePoint) : Bool :=
  alphabet.isNameStart c || Text.inRanges nameRestRanges c.toNat

def skipSpace (t : Text) : Text := t.dropWhile isSpace

def readName? (alphabet : Alphabet) : Text → Option (Text × Text)
  | [] => none
  | c :: rest =>
    if alphabet.isNameStart c then
      some (c :: rest.takeWhile alphabet.isNameChar, rest.dropWhile alphabet.isNameChar)
    else none

def readQualified? (alphabet : Alphabet) (t : Text) : Option (QualifiedName × Text) := do
  let (first, rest) ← readName? alphabet t
  match rest with
  | ':' :: more =>
    let (base, rest) ← readName? alphabet more
    pure (⟨some first, base⟩, rest)
  | _ => pure (⟨none, first⟩, rest)

def cutAt? (mark t : Text) : Option (Text × Text) :=
  (Text.indexOf? mark t).map fun position => (t.take position, t.drop (position + mark.length))

def character? (n : Nat) : Option CodePoint :=
  if n.isValidChar ∧ isAllowed (Char.ofNat n) then some (Char.ofNat n) else none

/-- What a reference stands for; only the five predefined names are known. -/
def reference? : Text → Option CodePoint
  | '#' :: 'x' :: digits => (Text.number? 16 digits).bind character?
  | '#' :: digits => (Text.number? 10 digits).bind character?
  | name =>
    ([("lt".text, '<'), ("gt".text, '>'), ("amp".text, '&'), ("quot".text, '"'),
      ("apos".text, Char.ofNat 0x27)].lookup name).map CodePoint.char

/-- An attribute's value up to its closing quote. A line break or a tab counts as a space unless it is
written as a reference. -/
def readValue? (quote : CodePoint) (t : Text) : Option (Text × Text) :=
  match t with
  | [] => none
  | '\r' :: '\n' :: rest => (readValue? quote rest).map fun (value, rest) => (' ' :: value, rest)
  | c :: rest =>
    if c = quote then some ([], rest)
    else if c = '<' then none
    else if c = '&' then
      match _cut : Text.cutFirst? ';' rest with
      | none => none
      | some (name, after) => do
        let meant ← reference? name
        let (value, rest) ← readValue? quote after
        pure (meant :: value, rest)
    else if isSpace c then (readValue? quote rest).map fun (value, rest) => (' ' :: value, rest)
    else if isAllowed c then (readValue? quote rest).map fun (value, rest) => (c :: value, rest)
    else none
termination_by t.length
decreasing_by
  · simp only [List.length_cons]; omega
  · have := Text.length_cutFirst _cut
    simp only [List.length_cons]; omega
  · simp
  · simp

def readAttribute? (alphabet : Alphabet) (t : Text) : Option ((QualifiedName × Text) × Text) := do
  let (name, rest) ← readQualified? alphabet t
  match skipSpace rest with
  | '=' :: rest =>
    match skipSpace rest with
    | quote :: rest =>
      if quote = '"' ∨ quote.toNat = 0x27 then
        let (value, rest) ← readValue? quote rest
        pure ((name, value), rest)
      else none
    | [] => none
  | _ => none

def readAttributes? (alphabet : Alphabet) (t : Text) :
    Option (List (QualifiedName × Text) × Bool × Text) :=
  match skipSpace t with
  | '>' :: rest => some ([], false, rest)
  | '/' :: '>' :: rest => some ([], true, rest)
  | next =>
    if next.length < t.length then
      match readAttribute? alphabet next with
      | none => none
      | some (first, rest) =>
        if _h : rest.length < t.length then do
          let (others, isEmpty, rest) ← readAttributes? alphabet rest
          pure (first :: others, isEmpty, rest)
        else none
    else none
termination_by t.length

def isReservedTarget (name : Text) : Bool := Text.lower name == "xml".text

def readInstruction? (alphabet : Alphabet) (t : Text) : Option (Token × Text) := do
  let (target, rest) ← readName? alphabet t
  let (inner, after) ← cutAt? "?>".text rest
  if isReservedTarget target ∨ !inner.all isAllowed then none
  else if inner.isEmpty ∨ (inner.head?.map isSpace).getD false then pure (.note, after)
  else none

/-- A comment after its opening mark; two dashes may only end it. -/
def readComment? (t : Text) : Option (Token × Text) := do
  let (inner, after) ← cutAt? "--".text t
  match after with
  | '>' :: rest => if inner.all isAllowed then pure (.note, rest) else none
  | _ => none

def readCloseTag? (alphabet : Alphabet) (t : Text) : Option (Token × Text) := do
  let (name, rest) ← readQualified? alphabet t
  match skipSpace rest with
  | '>' :: rest => pure (.closeTag name, rest)
  | _ => none

def readOpenTag? (alphabet : Alphabet) (t : Text) : Option (Token × Text) := do
  let (name, rest) ← readQualified? alphabet t
  let (attributes, isEmpty, rest) ← readAttributes? alphabet rest
  pure (.openTag name attributes isEmpty, rest)

def readSection? (t : Text) : Option (Token × Text) := do
  let (inner, after) ← cutAt? "]]>".text t
  if inner.all isAllowed then pure (.characters false, after) else none

def readCharacters? (t : Text) : Option (Token × Text) :=
  let isPlain := fun (c : CodePoint) => c != '<' && c != '&'
  let run := t.takeWhile isPlain
  if run.all isAllowed ∧ Text.indexOf? "]]>".text run = none then
    some (.characters (run.all isSpace), t.dropWhile isPlain)
  else none

def nextToken? (alphabet : Alphabet) : Text → Option (Token × Text)
  | '<' :: '!' :: '-' :: '-' :: rest => readComment? rest
  | '<' :: '!' :: rest =>
    if "[CDATA[".text.isPrefixOf rest then readSection? (rest.drop 7) else none
  | '<' :: '?' :: rest => readInstruction? alphabet rest
  | '<' :: '/' :: rest => readCloseTag? alphabet rest
  | '<' :: rest => readOpenTag? alphabet rest
  | '&' :: rest => do
    let (name, rest) ← Text.cutFirst? ';' rest
    let _ ← reference? name
    pure (.characters false, rest)
  | t => readCharacters? t

def tokens? (alphabet : Alphabet) (t : Text) : Option (List Token) :=
  match t with
  | [] => some []
  | c :: others =>
    match nextToken? alphabet (c :: others) with
    | none => none
    | some (token, rest) =>
      if _h : rest.length < (c :: others).length then
        (tokens? alphabet rest).map fun more => token :: more
      else none
termination_by t.length
decreasing_by exact _h

end DeclGen.Xml
