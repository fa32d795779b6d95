import DeclGen.Console.Literal.Escape
import DeclGen.Console.Literal.Grammar

/-!
Strings with expressions in braces. Such a string is cut into plain text, in which a doubled brace
stands for a brace, and into expressions, each perhaps with a conversion and a format. A format may
have expressions of its own.
-/
namespace DeclGen.Console.Literal

open CodePoint (char)

structure Formatting where
  label : Text
  isRaw : Bool
  lastLine : Nat
  inner : (line : Nat) → Text → Option Fault

def Formatting.mistake {α : Type} (f : Formatting) (message : Text) : Except Fault α :=
  .error (.syntactic (f.label ++ message))

def Formatting.badBraces {α : Type} (f : Formatting) (message : String) : Except Fault α :=
  f.mistake ("f-string: ".text ++ message.text)

def missingBrace : String := "expecting '\x7d'"

/-! Plain text -/

structure Plain where
  text : Text
  isDoubled : Bool
  rest : Text

def isBrace (c : CodePoint) : Bool := c = '{' || c = '}'

/-- What a brace does to the plain text before it. Inside a format it always ends the text. -/
def Formatting.atBrace (f : Formatting) (isFormat : Bool) (before : Text) (c : CodePoint) (rest : Text) :
    Except Fault Plain :=
  if isFormat then .ok ⟨before.reverse, false, c :: rest⟩
  else if rest.head? = some c then .ok ⟨(c :: before).reverse, true, rest.drop 1⟩
  else if c = '}' then f.badBraces "single '\x7d' is not allowed"
  else .ok ⟨before.reverse, false, c :: rest⟩

/-- Reads plain text; `before` is what has been read, last character first, and `inName` says whether
the name of a character goes on. -/
def Formatting.readPlain (f : Formatting) (isFormat inName : Bool) (before : Text) :
    Text → Except Fault Plain
  | [] => .ok ⟨before.reverse, false, []⟩
  | c :: rest =>
    if inName then f.readPlain isFormat (c != '}') (c :: before) rest
    else if c = '\\' && !f.isRaw then
      match rest with
      | [] => .ok ⟨(c :: before).reverse, false, []⟩
      | 'N' :: [] => .ok ⟨(.char 'N' :: c :: before).reverse, false, []⟩
      | 'N' :: next :: more => f.readPlain isFormat (next = '{') (next :: 'N' :: c :: before) more
      | next :: more =>
        if isBrace next then f.atBrace isFormat (c :: before) next more
        else f.readPlain isFormat false (next :: c :: before) more
    else if isBrace c then f.atBrace isFormat before c rest
    else f.readPlain isFormat false (c :: before) rest

/-! Expressions -/

structure Search where
  quote : Option (CodePoint × Bool) := none
  brackets : Text := []

def endsExpression (c : CodePoint) : Bool := [char '!', ':', '}', '='].contains c

def isComparing (c next : CodePoint) : Bool := next = '=' && [char '!', '=', '<', '>'].contains c

def goesOnWith (c : CodePoint) (rest : Text) : Bool := [c, c].isPrefixOf rest

/-- What a character does to the search: where the search stands behind it, and how many of the next
characters go with it. Nothing means that the expression ends before the character. -/
def Formatting.searchStep (f : Formatting) (search : Search) (c : CodePoint) (rest : Text) :
    Except Fault (Option (Search × Nat)) :=
  let pass := fun (search : Search) (taken : Nat) => Except.ok (some (search, taken))
  if c = '\\' then f.mistake "f-string expression part cannot include a backslash".text
  else
    match search.quote with
    | some (quote, isTriple) =>
      if c = quote && !isTriple then pass { search with quote := none } 0
      else if c = quote && goesOnWith c rest then pass { search with quote := none } 2
      else pass search 0
    | none =>
      if isQuote c then
        if goesOnWith c rest then pass { search with quote := some (c, true) } 2
        else pass { search with quote := some (c, false) } 0
      else if (closers.map (·.2)).contains c then
        if deepest ≤ search.brackets.length then f.badBraces "too many nested parenthesis"
        else pass { search with brackets := c :: search.brackets } 0
      else if c = '#' then f.mistake "f-string expression part cannot include '#'".text
      else
        match search.brackets, closers.lookup c with
        | [], closer =>
          if (rest.head?.map (isComparing c)).getD false then pass search 1
          else if endsExpression c then .ok none
          else if closer.isSome then
            f.mistake ("f-string: unmatched '".text ++ [c, Text.singleQuote])
          else pass search 0
        | opener :: outer, some wanted =>
          if opener = wanted then pass { search with brackets := outer } 0
          else
            f.mistake ("f-string: closing parenthesis '".text ++ [c]
              ++ "' does not match opening parenthesis '".text ++ [opener, Text.singleQuote])
        | _ :: _, none => pass search 0

/-- Finds the end of an expression, which must come before the end of the text; `before` is what has
been passed, last character first, and `taken` characters go with it. -/
def Formatting.findEnd (f : Formatting) (search : Search) (taken : Nat) (before : Text) :
    Text → Except Fault (Text × Text)
  | [] =>
    match search.quote, search.brackets with
    | some _, _ => f.badBraces "unterminated string"
    | none, c :: _ => f.mistake ("f-string: unmatched '".text ++ [c, Text.singleQuote])
    | none, [] => f.badBraces missingBrace
  | c :: rest =>
    if 0 < taken then f.findEnd search (taken - 1) (c :: before) rest
    else
      match f.searchStep search c rest with
      | .error fault => .error fault
      | .ok none => .ok (before.reverse, c :: rest)
      | .ok (some (search, taken)) => f.findEnd search taken (c :: before) rest

def isExpressionBlank (c : CodePoint) : Bool := c = ' ' || c = '\t' || c = '\n' || c.toNat = 0xC

def Formatting.lineOf (f : Formatting) (rest : Text) : Nat := f.lastLine - rest.count (char '\n')

/-- Reads an expression that is written before some rest. It must not be blank. -/
def Formatting.readExpression (f : Formatting) (written rest : Text) : Except Fault Unit :=
  if written.all isExpressionBlank then
    match rest with
    | c :: _ =>
      if c = '}' then f.badBraces "empty expression not allowed"
      else f.mistake ("f-string: expression required before '".text ++ [c, Text.singleQuote])
    | [] => f.badBraces "empty expression not allowed"
  else
    match f.inner (f.lineOf (written ++ rest)) ([char '('] ++ written ++ [char ')']) with
    | some fault => .error fault
    | none => .ok ()

def isSignBlank (c : CodePoint) : Bool := c = ' ' || (9 ≤ c.toNat && c.toNat ≤ 13)

def Formatting.afterSign (f : Formatting) : Text → Except Fault Text
  | '=' :: rest =>
    let rest := rest.dropWhile isSignBlank
    if rest.isEmpty then f.badBraces missingBrace else .ok rest
  | t => .ok t

def Formatting.afterConversion (f : Formatting) : Text → Except Fault Text
  | ['!'] => f.badBraces missingBrace
  | '!' :: c :: rest =>
    if c = 's' || c = 'r' || c = 'a' then .ok rest
    else f.badBraces "invalid conversion character: expected 's', 'r', or 'a'"
  | t => .ok t

def formatLevels : Nat := 2

/-- Reads the text and the expressions of a string, or of a format inside it, and gives what follows.
The first number bounds the number of parts. -/
def Formatting.readParts (f : Formatting) : (parts : Nat) → (level : Nat) → Text → Except Fault Text
  | 0, _, t => .ok t
  | parts + 1, level, t => do
    let plain ← f.readPlain (level != 0) false [] t
    if !f.isRaw then
      match textFault? plain.text with
      | some message => f.mistake message
      | none => pure ()
    if plain.isDoubled then f.readParts parts level plain.rest
    else
      match plain.rest with
      | '{' :: rest =>
        if formatLevels ≤ level then f.badBraces "expressions nested too deeply"
        let (written, rest) ← f.findEnd {} 0 [] rest
        f.readExpression written rest
        let rest ← f.afterConversion (← f.afterSign rest)
        let rest ← match rest with
          | [':'] => f.badBraces missingBrace
          | ':' :: format => do
            let rest ← f.readParts parts (level + 1) format
            if rest.head? = some (char '}') then pure rest else f.badBraces missingBrace
          | _ => pure rest
        match rest with
        | '}' :: rest => f.readParts parts level rest
        | _ => f.badBraces missingBrace
      | rest => pure rest

def Formatting.fault? (f : Formatting) (content : Text) : Option Fault :=
  match f.readParts (content.length + 1) 0 content with
  | .error fault => some fault
  | .ok _ => none

end DeclGen.Console.Literal
