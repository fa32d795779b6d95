import DeclGen.Console.Glyph
import DeclGen.Console.WidthTable

/-!
How much room text takes on a console. Most characters take one column, some take two, and marks that
combine with the character before them take none. A joiner hides the character behind it, and a selector
makes some signs a column wider. What belongs together in this way is a cluster, and text is only cut
between clusters.
-/
namespace DeclGen.Console

def charWidth (c : CodePoint) : Nat :=
  if Text.inRanges zeroWidthRanges c.toNat then 0
  else if Text.inRanges doubleWidthRanges c.toNat then 2
  else 1

def joiner : CodePoint := '\u200d'

def selector : CodePoint := '\ufe0f'

def widening (last : Option CodePoint) : Nat :=
  if last.any fun c => Text.inRanges widenedRanges c.toNat then 1 else 0

/-- A text being measured: its columns so far, the last character that took some, unless a selector has
followed it, and whether the next character is hidden. -/
structure Measure where
  width : Nat := 0
  last : Option CodePoint := none
  hides : Bool := false

def Measure.add (measure : Measure) (c : CodePoint) : Measure :=
  if measure.hides then { measure with hides := false }
  else if c = joiner then { measure with hides := true }
  else if c = selector then ⟨measure.width + widening measure.last, none, false⟩
  else if charWidth c = 0 then measure
  else ⟨measure.width + charWidth c, some c, false⟩

def textWidth (t : Text) : Nat := (t.foldl Measure.add {}).width

def lineWidth (line : List Glyph) : Nat := textWidth (plainText line)

structure Cluster where
  glyphs : List Glyph
  width : Nat

def Cluster.extend (cluster : Cluster) (glyph : Glyph) (width : Nat) : Cluster :=
  ⟨cluster.glyphs ++ [glyph], cluster.width + width⟩

/-- The clusters from an unfinished one on. A character with a width starts a cluster, unless a joiner
stands before it. -/
def clustersFrom (cluster : Cluster) (last : Option CodePoint) (hides : Bool) :
    List Glyph → List Cluster
  | [] => [cluster]
  | glyph :: rest =>
    if hides then clustersFrom (cluster.extend glyph 0) last false rest
    else if glyph.char = joiner then clustersFrom (cluster.extend glyph 0) last true rest
    else if glyph.char = selector then
      let widened := widening last
      clustersFrom (cluster.extend glyph widened) (if widened = 0 then last else none) false rest
    else if charWidth glyph.char = 0 then clustersFrom (cluster.extend glyph 0) last false rest
    else cluster :: clustersFrom ⟨[glyph], charWidth glyph.char⟩ (some glyph.char) false rest

/-- The clusters of a line. Its first glyph starts one in any case. -/
def clusters : List Glyph → List Cluster
  | [] => []
  | glyph :: rest =>
    let width := charWidth glyph.char
    clustersFrom ⟨[glyph], width⟩ (if width = 0 then none else some glyph.char) false rest

/-- As many of the clusters as fit. One that would stick out gives way to a space. -/
def takeClusters (room : Nat) : List Cluster → List Glyph
  | [] => []
  | cluster :: rest =>
    if cluster.width ≤ room then cluster.glyphs ++ takeClusters (room - cluster.width) rest
    else if room = 0 then []
    else (cluster.glyphs.take 1).map fun glyph => { glyph with char := ' ' }

def cutTo (room : Nat) (line : List Glyph) : List Glyph :=
  if lineWidth line ≤ room then line
  else if room = 0 then []
  else takeClusters room (clusters line)

def padTo (room : Nat) (line : List Glyph) : List Glyph :=
  line ++ unstyled (List.replicate (room - lineWidth line) (CodePoint.char ' '))

def chopFrom (room : Nat) (piece : List Glyph) (used : Nat) : List Cluster → List (List Glyph)
  | [] => [piece]
  | cluster :: rest =>
    if room < used + cluster.width then piece :: chopFrom room cluster.glyphs cluster.width rest
    else chopFrom room (piece ++ cluster.glyphs) (used + cluster.width) rest

def chop (room : Nat) (line : List Glyph) : List (List Glyph) := chopFrom room [] 0 (clusters line)

end DeclGen.Console
