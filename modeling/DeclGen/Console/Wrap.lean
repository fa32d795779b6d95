import DeclGen.Console.Width

/-!
Laying out text in lines of limited width. Lines break before words; what to do with a word that is
wider than a line depends on the place: it is folded where everything has to be shown, and cut off
with an ellipsis in the cells of a table.
-/
namespace DeclGen.Console

def tabStop : Nat := 8

/-- Puts a space in the place of a tab and fills up with more of them to the next tab stop. A style on
the tab lies on the spaces. -/
def fillToStop (part : List Glyph) (tab : Glyph) : List Glyph :=
  let space : Glyph := { tab with char := ' ' }
  let shown := part ++ [space]
  shown ++ List.replicate ((tabStop - lineWidth shown % tabStop) % tabStop) space

/-- Replaces the tabs of a line; `pending` is what stands before, since the last tab stop, last glyph
first. -/
def expandTabsFrom (pending : List Glyph) : List Glyph → List Glyph
  | [] => pending.reverse
  | glyph :: rest =>
    if glyph.char = '\t' then fillToStop pending.reverse glyph ++ expandTabsFrom [] rest
    else expandTabsFrom (glyph :: pending) rest

def expandTabs (line : List Glyph) : List Glyph := expandTabsFrom [] line

def startsBlank (line : List Glyph) : Bool := line.head?.any fun glyph => Text.isBlank glyph.char

def extendRun (glyph : Glyph) (runs : List (List Glyph)) : List (List Glyph) :=
  match runs with
  | run :: _ =>
    if Text.isBlank glyph.char && !startsBlank run then [glyph] :: runs else extendFirst glyph runs
  | [] => [[glyph]]

/-- The words of a line, each with the blanks behind it. Blanks at the start belong to the first word;
a line of blanks has no words. -/
def wordRuns (line : List Glyph) : List (List Glyph) :=
  match line.foldr extendRun [] with
  | [] => []
  | [run] => if startsBlank run then [] else [run]
  | first :: second :: rest =>
    if startsBlank first then (first ++ second) :: rest else first :: second :: rest

/-- Lines being filled: the finished ones, and the one that words are added to with the columns that it
counts for. -/
structure Filling where
  done : List (List Glyph)
  line : List Glyph
  used : Nat

def Filling.finished (filling : Filling) : List (List Glyph) :=
  if filling.line.isEmpty then filling.done else filling.done ++ [filling.line]

/-- Adds a word. Blanks at its end may stick out of the line. -/
def Filling.add (room : Nat) (folding : Bool) (filling : Filling) (word : List Glyph) : Filling :=
  let width := textWidth (Text.stripRight (plainText word))
  if filling.used + width ≤ room then
    { filling with line := filling.line ++ word, used := filling.used + lineWidth word }
  else if folding && decide (room < width) then
    let parts := chop room word
    let last := parts.getLast?.getD []
    ⟨filling.finished ++ parts.dropLast, last, lineWidth last⟩
  else ⟨filling.finished, word, lineWidth word⟩

def breakLine (room : Nat) (folding : Bool) (line : List Glyph) :
    List (List Glyph) :=
  match wordRuns line with
  | [] => [line]
  | words =>
    let filling := words.foldl (Filling.add room folding) ⟨[], [], 0⟩
    filling.done ++ [filling.line]

def dropOverhang (room : Nat) (line : List Glyph) : List Glyph :=
  let blanks := line.length - (Text.stripRight (plainText line)).length
  line.take (line.length - min blanks (line.length - room))

/-- The lines between line feeds; there is always at least one. -/
def linesOf : List Glyph → List (List Glyph)
  | [] => [[]]
  | glyph :: rest =>
    if glyph.char = '\n' then [] :: linesOf rest else extendFirst glyph (linesOf rest)

def layOut (room : Nat) (glyphs : List Glyph) : List (List Glyph) :=
  (linesOf glyphs).flatMap fun line =>
    (breakLine room true (expandTabs line)).map fun part => cutTo room (dropOverhang room part)

/-- Whether a position between the glyphs is still known when they are laid out. Cutting glyphs into
lines or at tabs forgets it, and so does cutting them off before it. -/
def isKept (room : Nat) (glyphs : List Glyph) (position : Nat) : Bool :=
  if glyphs.any fun glyph => glyph.char = '\n' || glyph.char = '\t' then false
  else
    match layOut room glyphs with
    | [line] => line.length = glyphs.length || position < line.length
    | _ => false

def StyledText.meetsFault (room : Nat) (styled : StyledText) : Bool :=
  ((layOut room styled.glyphs).any fun line => line.any Glyph.isFaulty)
    || styled.emptyFaults.any (isKept room styled.glyphs)

def StyledText.lines? (room : Nat) (styled : StyledText) : Option (List Text) :=
  if styled.meetsFault room then none else some ((layOut room styled.glyphs).map plainText)

def ellipsis : CodePoint := '…'

def shorten (room : Nat) (line : List Glyph) : List Glyph :=
  if room < lineWidth line then cutTo (room - 1) line ++ unstyled [ellipsis] else line

/-- A line of exactly a width. It is measured again after the first spaces, since a joiner at its end
hides one of them. -/
def fillLine (room : Nat) (line : List Glyph) : List Glyph :=
  padTo room (cutTo room (padTo room line))

def layOutCell (room : Nat) (t : Text) : List Text :=
  (linesOf (unstyled t)).flatMap fun line =>
    (breakLine room false (expandTabs line)).map fun part =>
      plainText (fillLine room (shorten room (dropOverhang room part)))

end DeclGen.Console
