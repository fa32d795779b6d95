import DeclGen.Text.Basic

/-!
Text that is about to be shown. Colours and attributes are not kept, since nothing here shows them; but
a style that cannot be read matters when a part of the text that it lies on is shown, so every
character says whether such a style lies on it.
-/
namespace DeclGen.Console

structure Glyph where
  char : CodePoint
  isFaulty : Bool := false
  deriving DecidableEq, Repr

def plainText (glyphs : List Glyph) : Text := glyphs.map Glyph.char

def unstyled (t : Text) : List Glyph := t.map fun c => { char := c }

structure Stretch where
  start : Nat
  stop : Nat
  deriving DecidableEq, Repr

def Stretch.covers (stretch : Stretch) (position : Nat) : Bool :=
  decide (stretch.start ≤ position) && decide (position < stretch.stop)

/-- Text with what is to be known of its styles: the glyphs, and the positions of styles that cannot be
read and lie on no glyph. -/
structure StyledText where
  glyphs : List Glyph
  emptyFaults : List Nat := []
  deriving DecidableEq, Repr

def StyledText.ofFaults (t : Text) (faults : List Stretch) : StyledText where
  glyphs := t.zipIdx.map fun (c, position) => ⟨c, faults.any (·.covers position)⟩
  emptyFaults := (faults.filter fun fault => fault.start = fault.stop).map Stretch.start

end DeclGen.Console
