import DeclGen.Console.EmojiTable
import DeclGen.Text.Case

/-!
Pictographs in console text. A name between two colons, without blanks, is shown as the pictograph of
that name; a name that is not known stays as it is written, together with both colons.
-/
namespace DeclGen.Console

def ofCodePoints (written : Text) : Text :=
  (pieces (.char '-') written).filterMap fun digits => (Text.number? 16 digits).map CodePoint.ofNat

def pictographs : List (Text × Text) :=
  emojiLines.flatMap fun line =>
    (pieces (.char ' ') line.text).filterMap fun word =>
      (Text.cutFirst? '=' word).map fun (name, written) => (name, ofCodePoints written)

def shapeSuffixes : List (Text × CodePoint) :=
  [("-text".text, Char.ofNat 0xFE0E), ("-emoji".text, Char.ofNat 0xFE0F)]

def splitShape (code : Text) : Text × Text :=
  match shapeSuffixes.find? fun (suffix, _) => Text.endsWith suffix code with
  | some (suffix, selector) => (code.take (code.length - suffix.length), [selector])
  | none => (code, [])

def showCode (code : Text) : Text :=
  let (name, selector) := splitShape code
  match pictographs.lookup (Text.lower name) with
  | some pictograph => pictograph ++ selector
  | none => [CodePoint.char ':'] ++ code ++ [CodePoint.char ':']

def replaceNames (t : Text) : Text :=
  match t with
  | [] => []
  | c :: rest =>
    if c = ':' then
      match _cut : Text.cutFirst? ':' rest with
      | none => c :: replaceNames rest
      | some (code, after) =>
        if code.any Text.isBlank then c :: replaceNames rest
        else showCode code ++ replaceNames after
    else c :: replaceNames rest
termination_by t.length
decreasing_by
  · simp
  · simp
  · have := Text.length_cutFirst _cut
    simp only [List.length_cons]; omega
  · simp

end DeclGen.Console
