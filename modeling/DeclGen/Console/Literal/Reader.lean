import DeclGen.Console.Literal.Formatted
import DeclGen.Console.Literal.Matcher

/-!
Reading expressions. A text that is no expression is read a second time, now with an eye for common
mistakes, so that the fault can say more than that the text is wrong. Whatever is found then, a fault
in a token comes before it.
-/
namespace DeclGen.Console.Literal

/-! Strings -/

structure StringContent where
  letters : Text
  text : Text

def StringContent.ofToken (token : Token) : StringContent :=
  let letters := token.text.takeWhile (!isQuote ·)
  let quoted := token.text.drop letters.length
  let size := match quoted with
    | c :: rest => if goesOnWith c rest && 6 ≤ quoted.length then 3 else 1
    | [] => 0
  ⟨letters.map CodePoint.toLower, (quoted.drop size).take (quoted.length - 2 * size)⟩

def StringContent.isBytes (content : StringContent) : Bool := content.letters.contains 'b'

def StringContent.isRaw (content : StringContent) : Bool := content.letters.contains 'r'

def StringContent.isFormatted (content : StringContent) : Bool := content.letters.contains 'f'

/-- What is wrong with a string on its own; one with expressions in it is looked at later. -/
def StringContent.mistake? (content : StringContent) : Option Text :=
  if content.isFormatted then none
  else if content.isBytes then
    if !content.text.all isBasic then some "bytes can only contain ASCII literal characters".text
    else if content.isRaw then none
    else bytesFault? content.text
  else if content.isRaw then none
  else textFault? content.text

/-- Reads strings in a row, which are all bytes or all texts; `before` says what those before are. -/
def stringsFault? (label : Text) (inner : Nat → Text → Option Fault) (before : Option Bool) :
    List Token → Option Fault
  | [] => none
  | token :: rest =>
    let content := StringContent.ofToken token
    let mistake := fun (message : Text) => some (Fault.syntactic (label ++ message))
    match content.mistake? with
    | some message => mistake message
    | none =>
      if before = some (!content.isBytes) then
        mistake "cannot mix bytes and nonbytes literals".text
      else
        let lastLine := token.line + content.text.count (CodePoint.char '\n')
        let formatting : Formatting := ⟨label, content.isRaw, lastLine, inner⟩
        match if content.isFormatted then formatting.fault? content.text else none with
        | some fault => some fault
        | none => stringsFault? label inner (some content.isBytes) rest

def readStrings (label : Text) (inner : Nat → Text → Option Fault) (strings : List Token) : Outcome :=
  match stringsFault? label inner none strings with
  | some fault => .fault fault
  | none =>
    let isFormatted := strings.any fun token => (StringContent.ofToken token).isFormatted
    .value (.expr (.leaf (if isFormatted then .formatted else .text)))

/-! Faults -/

def Source.lastToken? (source : Source) (seen : Nat) : Option Token := source.tokens.items[seen - 1]?

/-- The fault that counts. A fault in a later token comes before any other, and so does a bracket that
is left open on an earlier line. -/
def Source.overrule (source : Source) (fault : Fault) (seen : Nat) : Fault :=
  match source.tokens.halt with
  | none => fault
  | some (.fault message, _) => .syntactic message
  | some (.stop _, []) => fault
  | some (.stop _, (c, line) :: _) =>
    if line < ((source.lastToken? seen).map Token.line).getD 0 then source.mistake (neverClosed c)
    else fault

/-- The fault that counts when a mistake was found. It is not overruled if the whole text has been
looked at by then. -/
def Source.overruleMistake (source : Source) (fault : Fault) (seen : Nat) : Fault :=
  if fault = .tooDeep || decide (source.tokens.items.size < seen)
      || ((source.lastToken? seen).map Token.isAtEnd).getD false then fault
  else source.overrule fault seen

/-- The fault of a text in which no mistake was found; `seen` tokens were looked at in the first
reading, and `seenLater` in the second. -/
def Source.plainFault (source : Source) (seen seenLater : Nat) : Fault :=
  match (source.lastToken? seen).map Token.kind with
  | some .indent => source.mistake "unexpected indent".text
  | some .dedent => source.mistake "unexpected unindent".text
  | _ => source.overrule (source.mistake "invalid syntax".text) seenLater

def Source.read (source : Source) (rule : Rule) : Except Fault Expr :=
  match source.matchRule rule false 0 with
  | .found node _ _ =>
    match node.exprs with
    | expr :: _ => .ok expr
    | [] => .error (source.plainFault 0 0)
  | .fault fault seen => .error (source.overruleMistake fault seen)
  | .missed first =>
    match source.matchRule rule true first.seen with
    | .fault fault seen => .error (source.overruleMistake fault seen)
    | .missed second => .error (source.plainFault first.seen second.seen)
    | .found _ _ second => .error (source.plainFault first.seen second.seen)

def innerLabel : Text := "f-string: ".text

/-- What is wrong with an expression inside a string. The first number bounds how deep strings are
nested in one another. -/
def innerFault? : (nesting : Nat) → (line : Nat) → Text → Option Fault
  | 0, _, _ => none
  | nesting + 1, line, t =>
    let source : Source :=
      ⟨tokens line (t ++ "\n".text), innerLabel, readStrings innerLabel (innerFault? nesting)⟩
    match source.read .formattedPart with
    | .error fault => some fault
    | .ok _ => none

def parse (t : Text) : Except Fault Expr :=
  (Source.mk (tokens 1 t) [] (readStrings [] (innerFault? t.length))).read .whole

end DeclGen.Console.Literal
