import DeclGen.Text.IdentifierTable
import DeclGen.Text.Quoted

/-!
The tokens of literal expressions. Reading tokens ends in one of three ways: at the end of the text,
at a fault in a token, which is a fault of the whole text wherever it stands, or at a place where no
token can be read, which matters only if a reader comes so far.
-/
namespace DeclGen.Console.Literal

open CodePoint (char)

inductive TokenKind where
  | word
  | number
  | string
  | mark
  | newline
  | indent
  | dedent
  | finish
  deriving DecidableEq, Repr

structure Token where
  kind : TokenKind
  text : Text
  line : Nat
  depth : Nat
  isAtEnd : Bool
  deriving DecidableEq, Repr

abbrev Brackets := List (CodePoint × Nat)

inductive Halt where
  | fault (message : Text)
  | stop (message : Text)
  deriving DecidableEq

structure Tokens where
  items : Array Token
  halt : Option (Halt × Brackets)

def isWordStart (c : CodePoint) : Bool := c.isAlpha || c = '_' || decide (0x80 ≤ c.toNat)

def isWordChar (c : CodePoint) : Bool := isWordStart c || c.isDigit

/-! Numbers -/

def badNumber (kind : String) : Text := "invalid ".text ++ kind.text ++ " literal".text

def glueWords : List Text :=
  ["and".text, "else".text, "for".text, "or".text, "not".text]

def mayEndNumber (t : Text) : Bool :=
  match t with
  | [] => true
  | 'i' :: c :: _ => c = 'f' || c = 'n' || c = 's'
  | c :: _ =>
    !isWordChar c || glueWords.contains (t.takeWhile isWordChar)

def endNumber (kind : String) (t : Text) : Except Text Text :=
  if mayEndNumber t then .ok t else .error (badNumber kind)

def afterDigits : Text → Except Text Text
  | '_' :: c :: rest => if c.isDigit then afterDigits rest else .error (badNumber "decimal")
  | ['_'] => .error (badNumber "decimal")
  | c :: rest => if c.isDigit then afterDigits rest else .ok (c :: rest)
  | [] => .ok []

structure Radix where
  letter : CodePoint
  kind : String
  base : Nat

def radixes : List Radix := [⟨'x', "hexadecimal", 16⟩, ⟨'o', "octal", 8⟩, ⟨'b', "binary", 2⟩]

def Radix.isDigit (radix : Radix) (c : CodePoint) : Bool :=
  ((Text.digit? c).map fun digit => decide (digit < radix.base)).getD false

def Radix.fault (radix : Radix) (c : Option CodePoint) : Text :=
  match c with
  | some c =>
    if c.isDigit then
      "invalid digit '".text ++ [c] ++ "' in ".text ++ radix.kind.text ++ " literal".text
    else badNumber radix.kind
  | none => badNumber radix.kind

/-- The text after the digits of a base; `needed` says whether there must be one more. -/
def Radix.after (radix : Radix) (needed : Bool) : Text → Except Text Text
  | '_' :: c :: rest =>
    if radix.isDigit c then radix.after false rest else .error (radix.fault (some c))
  | c :: rest =>
    if radix.isDigit c then radix.after false rest
    else if needed ∨ c = '_' then .error (radix.fault (if c = '_' then none else some c))
    else if c.isDigit then .error (radix.fault (some c))
    else .ok (c :: rest)
  | [] => if needed then .error (radix.fault none) else .ok []

def afterImaginary (t : Text) : Except Text Text :=
  match t with
  | c :: rest =>
    if c = 'j' ∨ c = 'J' then endNumber "imaginary" rest else endNumber "decimal" t
  | [] => endNumber "decimal" t

def afterExponent (t : Text) : Except Text Text :=
  match t with
  | c :: next :: rest =>
    if c = 'e' ∨ c = 'E' then
      if next = '+' ∨ next = '-' then
        match rest with
        | digit :: rest =>
          if digit.isDigit then do afterImaginary (← afterDigits rest)
          else .error (badNumber "decimal")
        | [] => .error (badNumber "decimal")
      else if next.isDigit then do afterImaginary (← afterDigits rest)
      else endNumber "decimal" t
    else afterImaginary t
  | _ => afterImaginary t

def afterPoint (t : Text) : Except Text Text :=
  match t with
  | c :: rest => if c.isDigit then do afterExponent (← afterDigits rest) else afterExponent t
  | [] => afterExponent t

def afterWhole (t : Text) : Except Text Text :=
  match t with
  | '.' :: rest => afterPoint rest
  | _ => afterExponent t

def afterZeros : Text → Except Text Text
  | '_' :: c :: rest =>
    if c = '0' then afterZeros rest
    else if c.isDigit then .ok (c :: rest)
    else .error (badNumber "decimal")
  | ['_'] => .error (badNumber "decimal")
  | '0' :: rest => afterZeros rest
  | t => .ok t

def leadingZeros : Text :=
  ("leading zeros in decimal integer literals are not permitted; "
    ++ "use an 0o prefix for octal integers").text

/-- The text after a number that starts with a zero. Other digits may only follow in a fraction. -/
def afterZero (t : Text) : Except Text Text := do
  let rest ← afterZeros t
  match rest with
  | c :: more =>
    if c.isDigit then
      let rest ← afterDigits more
      match rest with
      | c :: _ =>
        if [char '.', 'e', 'E', 'j', 'J'].contains c then afterWhole rest else throw leadingZeros
      | [] => throw leadingZeros
    else afterWhole rest
  | [] => afterWhole rest

def readNumber (t : Text) : Except Text Text :=
  match t with
  | '.' :: rest => afterPoint rest
  | '0' :: letter :: rest =>
    match radixes.find? fun radix => radix.letter == letter.toLower with
    | some radix => do endNumber radix.kind (← radix.after true rest)
    | none => afterZero (letter :: rest)
  | _ => do afterWhole (← afterDigits t)

/-- How many characters may belong to a number, from the one after `before` on: the characters of words,
points, and signs of exponents. -/
def numberSpan (before : CodePoint) : Text → Nat
  | [] => 0
  | c :: rest =>
    if isWordChar c || c = '.' || ((c = '+' || c = '-') && before.toLower = 'e') then
      numberSpan c rest + 1
    else 0

def splitNumber (t : Text) : Except Text (Text × Text) := do
  let span := t.take (numberSpan '.' t)
  let after ← readNumber span
  let number := span.take (span.length - after.length)
  pure (number, t.drop number.length)

/-! Strings -/

def unterminated (kind : String) (line : Nat) : Text :=
  "unterminated ".text ++ kind.text ++ " literal (detected at line ".text ++ Text.ofNat line
    ++ [char ')']

/-- The number of the line after a line break; there is none at the end of the text. -/
def lineAfter (line : Nat) (rest : Text) : Nat := if rest.isEmpty then line else line + 1

/-- What is read of a string: its text so far, last character first, the line that it ends on, and the
text after it. -/
structure StringRead where
  read : Text
  line : Nat
  rest : Text

/-- Reads a string on one line; `read` is what has been read of it, last character first. -/
def afterString (quote : CodePoint) (read : Text) (line : Nat) : Text → Except Text StringRead
  | '\\' :: c :: rest =>
    afterString quote (c :: '\\' :: read) (if c = '\n' then lineAfter line rest else line) rest
  | c :: rest =>
    if c = quote then .ok ⟨c :: read, line, rest⟩
    else if c = '\n' then .error (unterminated "string" line)
    else afterString quote (c :: read) line rest
  | [] => .error (unterminated "string" line)

def afterLongString (quote : CodePoint) (read : Text) (line : Nat) : Text → Except Text StringRead
  | '\\' :: c :: rest =>
    afterLongString quote (c :: '\\' :: read) (if c = '\n' then lineAfter line rest else line) rest
  | c :: rest =>
    if c = quote ∧ [quote, quote].isPrefixOf rest then .ok ⟨c :: c :: c :: read, line, rest.drop 2⟩
    else afterLongString quote (c :: read) (if c = '\n' then lineAfter line rest else line) rest
  | [] => .error (unterminated "triple-quoted string" line)

def isQuote (c : CodePoint) : Bool := c = Text.singleQuote || c = Text.doubleQuote

def readString (line : Nat) : Text → Except Text StringRead
  | quote :: rest =>
    if [quote, quote].isPrefixOf rest then
      afterLongString quote [quote, quote, quote] line (rest.drop 2)
    else afterString quote [quote] line rest
  | [] => .ok ⟨[], line, []⟩

def stringLetters : List Text :=
  [[], ['b'], ['r'], ['u'], ['f'], ['b', 'r'], ['r', 'b'], ['f', 'r'], ['r', 'f']]

def stringLetters? (t : Text) : Option Text :=
  stringLetters.find? fun letters =>
    (t.take letters.length).map CodePoint.toLower == letters
      && ((t.drop letters.length).head?.map isQuote).getD false

/-! Marks and words -/

def longMarks : List Text :=
  (["**=", "//=", "<<=", ">>=", "...", "!=", "%=", "&=", "**", "*=", "+=", "-=", "->", "//", "/=", ":=",
    "<<", "<=", "<>", "==", ">=", ">>", "@=", "^=", "|="]).map String.text

def codePoint (c : CodePoint) : Text := "U+".text ++ (Text.hexDigits 4 c.toNat).map CodePoint.toUpper

def badCharacter (c : CodePoint) : Text :=
  if Text.isPrintable c then
    "invalid character '".text ++ [c] ++ "' (".text ++ codePoint c ++ [char ')']
  else "invalid non-printable character ".text ++ codePoint c

def startsIdentifier (c : CodePoint) : Bool :=
  c.isAlpha || c = '_' || Text.inRanges Text.identifierStarts c.toNat

def continuesIdentifier (c : CodePoint) : Bool :=
  startsIdentifier c || c.isDigit || Text.inRanges Text.identifierExtras c.toNat

def misplaced? : Text → Option CodePoint
  | [] => none
  | c :: rest => if startsIdentifier c then rest.find? (!continuesIdentifier ·) else some c

def readWord (t : Text) : Except Text (Text × Text) :=
  let word := t.takeWhile isWordChar
  match misplaced? word with
  | some c => .error (badCharacter c)
  | none => .ok (word, t.dropWhile isWordChar)

def deepest : Nat := 200

def closers : List (CodePoint × CodePoint) := [(')', '('), (']', '['), ('}', '{')]

def Brackets.after (brackets : Brackets) (line : Nat) (c : CodePoint) : Except Text Brackets :=
  if (closers.map (·.2)).contains c then
    if deepest ≤ brackets.length then .error "too many nested parentheses".text
    else .ok ((c, line) :: brackets)
  else
    match closers.lookup c, brackets with
    | none, _ => .ok brackets
    | some _, [] => .error ("unmatched '".text ++ [c, Text.singleQuote])
    | some opener, (found, start) :: outer =>
      if found = opener then .ok outer
      else
        .error ("closing parenthesis '".text ++ [c] ++ "' does not match opening parenthesis '".text
          ++ [found, Text.singleQuote]
          ++ if start = line then [] else " on line ".text ++ Text.ofNat start)

def neverClosed (c : CodePoint) : Text := [Text.singleQuote, c] ++ "' was never closed".text

def Brackets.endMessage : Brackets → Text
  | [] => "unexpected EOF while parsing".text
  | (c, _) :: _ => neverClosed c

/-! Lines -/

structure Cursor where
  rest : Text
  line : Nat
  brackets : Brackets
  /-- The columns that open blocks start at, innermost first, each measured with wide and with narrow
  tabs. -/
  margins : List (Nat × Nat)
  isFresh : Bool

def Cursor.token (cursor : Cursor) (kind : TokenKind) (text : Text) : Token :=
  ⟨kind, text, cursor.line, cursor.brackets.length, false⟩

def afterContinuation (brackets : Brackets) : Text → Except Halt Text
  | '\n' :: rest => if rest.isEmpty then .error (.stop brackets.endMessage) else .ok rest
  | _ => .error (.stop "unexpected character after line continuation character".text)

/-- The blanks at the start of a line: their width with wide and with narrow tabs, the lines that end
among them, and the text behind them. A backslash at the end of a line settles the width, unless it is
zero. -/
structure Margin where
  wide : Nat := 0
  narrow : Nat := 0
  settled : Nat := 0
  lines : Nat := 0

def tabWidth : Nat := 8

def readMargin (brackets : Brackets) (margin : Margin) : Text → Except Halt (Margin × Text)
  | ' ' :: rest =>
    readMargin brackets { margin with wide := margin.wide + 1, narrow := margin.narrow + 1 } rest
  | '\t' :: rest =>
    readMargin brackets
      { margin with
        wide := (margin.wide / tabWidth + 1) * tabWidth
        narrow := margin.narrow + 1 } rest
  | '\x0c' :: rest => readMargin brackets { margin with wide := 0, narrow := 0 } rest
  | '\\' :: '\n' :: c :: rest =>
    readMargin brackets
      { margin with
        settled := if margin.settled = 0 then margin.wide else margin.settled
        lines := margin.lines + 1 } (c :: rest)
  | '\\' :: rest => do
    let _ ← afterContinuation brackets rest
    pure (margin, rest)
  | t => .ok (margin, t)

def tabFault : Halt := .stop "inconsistent use of tabs and spaces in indentation".text

def deepestMargin : Nat := 100

def closeBlocks (column : Nat) : List (Nat × Nat) → Nat × List (Nat × Nat)
  | [] => (0, [])
  | (wide, narrow) :: outer =>
    if column < wide then
      let (closed, rest) := closeBlocks column outer
      (closed + 1, rest)
    else (0, (wide, narrow) :: outer)

def Cursor.enterLine (cursor : Cursor) (margin : Margin) :
    Except Halt (List Token × List (Nat × Nat)) :=
  let wide := if margin.settled = 0 then margin.wide else margin.settled
  let narrow := if margin.settled = 0 then margin.narrow else margin.settled
  let (before, beforeNarrow) := cursor.margins.headD (0, 0)
  if wide = before then
    if narrow = beforeNarrow then .ok ([], cursor.margins) else .error tabFault
  else if before < wide then
    if deepestMargin ≤ cursor.margins.length + 1 then
      .error (.stop "too many levels of indentation".text)
    else if narrow ≤ beforeNarrow then .error tabFault
    else .ok ([cursor.token .indent []], (wide, narrow) :: cursor.margins)
  else
    let (closed, rest) := closeBlocks wide cursor.margins
    let (reached, reachedNarrow) := rest.headD (0, 0)
    if wide ≠ reached then
      .error (.stop "unindent does not match any outer indentation level".text)
    else if narrow ≠ reachedNarrow then .error tabFault
    else .ok (List.replicate closed (cursor.token .dedent []), rest)

structure Step where
  tokens : List Token
  next : Option Cursor

/-- Reads the start of a line. A line of blanks and a comment says nothing. -/
def Cursor.lineStep (cursor : Cursor) : Except Halt Step := do
  let (margin, rest) ← readMargin cursor.brackets {} cursor.rest
  let cursor := { cursor with rest, line := cursor.line + margin.lines, isFresh := false }
  match rest with
  | '#' :: _ | '\n' :: _ =>
    match rest.dropWhile (· != char '\n') with
    | '\n' :: more =>
      pure ⟨[], some { cursor with rest := more, line := lineAfter cursor.line more, isFresh := true }⟩
    | _ => pure ⟨[], some { cursor with rest := [] }⟩
  | _ =>
    if cursor.brackets.isEmpty then
      let (tokens, margins) ← cursor.enterLine margin
      pure ⟨tokens, some { cursor with margins }⟩
    else pure ⟨[], some cursor⟩

/-- A step that reads one token. Three characters are the most that a mark has. -/
def Cursor.take (cursor : Cursor) (kind : TokenKind) (text rest : Text) : Step :=
  let isAtEnd := rest.isEmpty && (kind != .mark || decide (text.length < 3))
  ⟨[{ cursor.token kind text with isAtEnd }], some { cursor with rest }⟩

def asFault {α : Type} (reading : Except Text α) : Except Halt α := reading.mapError .fault

/-- Reads a string with the letters before it. Two quotes could be the start of three. -/
def Cursor.stringStep (cursor : Cursor) (letters : Text) : Except Halt Step := do
  let ⟨read, line, rest⟩ ← asFault (readString cursor.line (cursor.rest.drop letters.length))
  let isAtEnd := rest.isEmpty && read.length == 2
  let text := cursor.rest.take letters.length ++ read.reverse
  pure ⟨[{ cursor.token .string text with isAtEnd }], some { cursor with rest, line }⟩

def Cursor.markStep (cursor : Cursor) (c : CodePoint) (rest : Text) : Except Halt Step := do
  match longMarks.find? fun mark => mark.isPrefixOf cursor.rest with
  | some mark => pure (cursor.take .mark mark (cursor.rest.drop mark.length))
  | none =>
    let brackets ← asFault (cursor.brackets.after cursor.line c)
    if Text.isPrintable c then pure ({ cursor with brackets }.take .mark [c] rest)
    else throw (.fault (badCharacter c))

def Cursor.innerStep (cursor : Cursor) (c : CodePoint) (rest : Text) : Except Halt Step :=
  if c = ' ' ∨ c = '\t' ∨ c.toNat = 0xC then .ok ⟨[], some { cursor with rest }⟩
  else if c = '\n' then
    .ok ⟨if cursor.brackets.isEmpty then [cursor.token .newline []] else [],
      some { cursor with rest, line := lineAfter cursor.line rest, isFresh := true }⟩
  else if c = '#' then .ok ⟨[], some { cursor with rest := rest.dropWhile (· != char '\n') }⟩
  else if c = '\\' then do
    let rest ← afterContinuation cursor.brackets rest
    pure ⟨[], some { cursor with rest, line := cursor.line + 1 }⟩
  else
    match stringLetters? cursor.rest with
    | some letters => cursor.stringStep letters
    | none =>
      if isWordStart c then do
        let (word, rest) ← asFault (readWord cursor.rest)
        pure (cursor.take .word word rest)
      else if c.isDigit ∨ (c = '.' ∧ (rest.head?.map CodePoint.isDigit).getD false) then do
        let (number, rest) ← asFault (splitNumber cursor.rest)
        pure (cursor.take .number number rest)
      else cursor.markStep c rest

def Cursor.step (cursor : Cursor) : Except Halt Step :=
  if cursor.isFresh then cursor.lineStep
  else
    match cursor.rest with
    | [] =>
      if cursor.brackets.isEmpty then .ok ⟨[cursor.token .finish []], none⟩
      else .error (.stop cursor.brackets.endMessage)
    | c :: rest => cursor.innerStep c rest

/-- Reads tokens to the end, after those before. The first number bounds the number of steps. -/
def Cursor.tokens : Nat → Cursor → Array Token → Tokens
  | 0, _, before => ⟨before, none⟩
  | steps + 1, cursor, before =>
    match cursor.step with
    | .error halt => ⟨before, some (halt, cursor.brackets)⟩
    | .ok ⟨tokens, none⟩ => ⟨before ++ tokens, none⟩
    | .ok ⟨tokens, some next⟩ => Cursor.tokens steps next (before ++ tokens)

def normalBreaks : Text → Text
  | '\r' :: '\n' :: rest => '\n' :: normalBreaks rest
  | '\r' :: rest => '\n' :: normalBreaks rest
  | c :: rest => c :: normalBreaks rest
  | [] => []

/-- The tokens of a text whose first line has a number. A step passes a character or the start of a
line, and the last one finds the end. -/
def tokens (line : Nat) (t : Text) : Tokens :=
  Cursor.tokens (2 * t.length + 3) ⟨normalBreaks t, line, [], [], true⟩ #[]

end DeclGen.Console.Literal
