import DeclGen.Console.Emoji
import DeclGen.Console.Glyph
import DeclGen.Console.Literal
import DeclGen.Console.Style
import DeclGen.Text.WordTable

/-!
Console markup: text with tags in square brackets. Styles have no effect here, so rendering removes the
tags and only notes where a style lies that cannot be read; but every closing tag must close something,
and an action that is closed must have parameters that can be evaluated. A backslash before a tag makes
it text. The names of pictographs are replaced in the text between tags.
-/
namespace DeclGen.Console

open CodePoint (char)

inductive MarkupError where
  | unmatched (tag : Text) (position : Nat)
  | nothingToClose (position : Nat)
  | badExpression (evaluated written message : Text)
  | noValue (written message : Text)
  | emptyNumber
  deriving DecidableEq

def MarkupError.message : MarkupError → Text
  | .unmatched tag position =>
    "closing tag '".text ++ tag ++ "' at position ".text ++ Text.ofNat position
      ++ " doesn't match any open tag".text
  | .nothingToClose position =>
    "closing tag '[/]' at position ".text ++ Text.ofNat position ++ " has nothing to close".text
  | .badExpression evaluated written message =>
    "error parsing ".text ++ Text.quoted evaluated ++ " in ".text ++ Text.quoted written
      ++ "; ".text ++ message
  | .noValue written message =>
    "error parsing ".text ++ Text.quoted written ++ "; ".text ++ message
  | .emptyNumber => "invalid literal for int() with base 10: ''".text

def startsTag (c : CodePoint) : Bool :=
  (decide ('a' ≤ c) && decide (c ≤ 'z')) || c = '#' || c = '/' || c = '@'

def upToBracket? : Text → Option Text
  | [] => none
  | c :: rest =>
    if c = ']' then some [] else if c = '[' then none else (upToBracket? rest).map (c :: ·)

def tagAt? : Text → Option Text
  | '[' :: c :: rest => if startsTag c then (upToBracket? rest).map (c :: ·) else none
  | _ => none

def backslash : CodePoint := '\\'

def leadingBackslashes (t : Text) : Nat := (t.takeWhile (· = backslash)).length

inductive Segment where
  | plain (text : Text)
  | tag (text : Text) (position : Nat)
  deriving DecidableEq, Repr

def bracketed (tag : Text) : Text := [char '['] ++ tag ++ [char ']']

def plainSegments (t : Text) : List Segment := if t.isEmpty then [] else [.plain t]

/-- What a tag after some backslashes stands for: two of them make one, and one left over makes the
tag text. -/
def tagSegments (backslashes : Nat) (tag : Text) (position : Nat) : List Segment :=
  plainSegments (List.replicate (backslashes / 2) backslash)
    ++ if backslashes % 2 = 1 then [.plain (bracketed tag)] else [.tag tag (position + backslashes)]

/-- The segments of a text from a position on; `pending` is the plain text before, last character
first. -/
def segmentsFrom (position : Nat) (pending t : Text) : List Segment :=
  match t with
  | [] => plainSegments pending.reverse
  | c :: rest =>
    let backslashes := leadingBackslashes (c :: rest)
    match tagAt? ((c :: rest).drop backslashes) with
    | some tag =>
      plainSegments pending.reverse ++ tagSegments backslashes tag position
        ++ segmentsFrom (position + backslashes + tag.length + 2) []
          (rest.drop (backslashes + tag.length + 1))
    | none => segmentsFrom (position + 1) (c :: pending) rest
termination_by t.length
decreasing_by
  · simp only [List.length_drop, List.length_cons]; omega
  · simp

def segments (t : Text) : List Segment := segmentsFrom 0 [] t

def unescapeBrackets : Text → Text
  | '\\' :: '[' :: rest => '[' :: unescapeBrackets rest
  | c :: rest => c :: unescapeBrackets rest
  | [] => []

structure Tag where
  name : Text
  parameters : Option Text
  deriving DecidableEq

def Tag.ofText (t : Text) : Tag :=
  match Text.cutFirst? '=' t with
  | some (name, parameters) => ⟨name, some parameters⟩
  | none => ⟨t, none⟩

def styleName (t : Text) : Except MarkupError Text :=
  (Style.normalForm t).mapError fun _ => .emptyNumber

def isWordOrDot (c : CodePoint) : Bool := c = '.' || Text.inRanges Text.wordRanges c.toNat

/-- What is evaluated of an action's parameters: the arguments behind a name, or everything. -/
def evaluatedPart (parameters : Text) : Text :=
  match parameters.dropWhile isWordOrDot with
  | [] => ['(', ')']
  | c :: rest =>
    if c = '(' ∧ rest.getLast? = some (char ')') ∧ !rest.contains '\n' then c :: rest else parameters

def checkAction (written : Text) : Except MarkupError Unit :=
  let evaluated := evaluatedPart (Text.strip written)
  match Literal.fault? evaluated with
  | none => .ok ()
  | some (.syntactic message) => .error (.badExpression evaluated written message)
  | some (.valueless message) => .error (.noValue written message)

/-- Checks a tag that is closed. Only actions with parameters can be wrong. -/
def Tag.checkClosed (tag : Tag) : Except MarkupError Unit :=
  match tag.name, tag.parameters with
  | '@' :: _, some (c :: rest) => checkAction (c :: rest)
  | _, _ => .ok ()

def Tag.isFaulty (tag : Tag) : Bool :=
  match tag.parameters with
  | none => false
  | some parameters => (styleName (tag.name ++ [char ' '] ++ parameters)).toOption.isNone

/-- An action, once it is closed, is no style. -/
def Tag.isAction (tag : Tag) : Bool := tag.name.head? = some (char '@')

structure OpenTag where
  tag : Tag
  start : Nat

def OpenTag.faults (opened : OpenTag) (stop : Nat) : List Stretch :=
  if opened.tag.isFaulty then [⟨opened.start, stop⟩] else []

def OpenTag.close (opened : OpenTag) (stop : Nat) : Except MarkupError (List Stretch) := do
  opened.tag.checkClosed
  pure (if opened.tag.isAction then [] else opened.faults stop)

def closeNamed? (name : Text) : List OpenTag → Option (OpenTag × List OpenTag)
  | [] => none
  | opened :: outer =>
    if opened.tag.name = name then some (opened, outer)
    else (closeNamed? name outer).map fun (found, others) => (found, opened :: others)

def isControlCode (c : CodePoint) : Bool := [7, 8, 11, 12, 13].contains c.toNat

def showPlain (t : Text) : Text := (replaceNames t).filter fun c => !isControlCode c

/-- What has been made of segments: the text that is shown, and the stretches of styles that cannot be
read. -/
structure Rendering where
  shown : Text := []
  faults : List Stretch := []

def Rendering.after (rendering : Rendering) (t : Text) : Rendering :=
  { rendering with shown := t ++ rendering.shown }

def renderSegments (position : Nat) (tags : List OpenTag) :
    List Segment → Except MarkupError Rendering
  | [] => .ok { faults := tags.flatMap (·.faults position) }
  | .plain t :: rest =>
    let shown := showPlain (unescapeBrackets t)
    (renderSegments (position + shown.length) tags rest).map (·.after shown)
  | .tag written place :: rest =>
    match Tag.ofText written with
    | ⟨'/' :: name, _⟩ =>
      if (Text.strip name).isEmpty then
        match tags with
        | [] => .error (.nothingToClose place)
        | opened :: outer => do
          let faults ← opened.close position
          let rendering ← renderSegments position outer rest
          pure { rendering with faults := faults ++ rendering.faults }
      else do
        match closeNamed? (← styleName (Text.strip name)) tags with
        | none => throw (.unmatched (bracketed written) place)
        | some (opened, others) =>
          let faults ← opened.close position
          let rendering ← renderSegments position others rest
          pure { rendering with faults := faults ++ rendering.faults }
    | ⟨name, parameters⟩ => do
      renderSegments position (⟨⟨← styleName name, parameters⟩, position⟩ :: tags) rest

def render (t : Text) : Except MarkupError StyledText :=
  if t.contains '[' then
    (renderSegments 0 [] (segments t)).map fun rendering =>
      StyledText.ofFaults rendering.shown rendering.faults
  else .ok ⟨unstyled (showPlain t), []⟩

def escapeTags (t : Text) : Text :=
  match t with
  | [] => []
  | c :: rest =>
    let backslashes := leadingBackslashes (c :: rest)
    match tagAt? ((c :: rest).drop backslashes) with
    | some tag =>
      List.replicate (2 * backslashes + 1) backslash ++ bracketed tag
        ++ escapeTags (rest.drop (backslashes + tag.length + 1))
    | none => c :: escapeTags rest
termination_by t.length
decreasing_by
  · simp only [List.length_drop, List.length_cons]; omega
  · simp

/-- A text written so that rendering shows it. A single backslash at the end is doubled. -/
def escape (t : Text) : Text :=
  let escaped := escapeTags t
  let trailing := leadingBackslashes escaped.reverse
  if trailing = 1 then escaped ++ [backslash] else escaped

end DeclGen.Console
