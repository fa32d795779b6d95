import DeclGen.Text.Basic
import DeclGen.Text.CharacterNameTable

/-!
Which texts are names of characters. Most names stand in a table; the names of ideographs and of
syllables are put together from parts.
-/
namespace DeclGen.Text

def sharedLength (n : Nat) : Text → Nat × Text
  | [] => (n, [])
  | c :: rest =>
    if c.isLower then sharedLength (n * 26 + (c.toNat - 'a'.toNat)) rest else (n, c :: rest)

def entrySuffix (t : Text) : Text := t.takeWhile fun c => !c.isLower

def inEntries (wanted before : Text) (entries : Text) : Bool × Text :=
  match entries with
  | [] => (false, before)
  | c :: rest =>
    let (shared, more) := sharedLength 0 (c :: rest)
    let suffix := entrySuffix more
    let name := before.take shared ++ suffix
    if name == wanted then (true, name)
    else if _h : (more.drop suffix.length).length < (c :: rest).length then
      inEntries wanted name (more.drop suffix.length)
    else (false, name)
termination_by entries.length
decreasing_by exact _h

def inNameLines (wanted before : Text) : List String → Bool
  | [] => false
  | line :: rest =>
    match inEntries wanted before line.text with
    | (true, _) => true
    | (false, last) => inNameLines wanted last rest

def afterLongest? (beginnings : List String) (t : Text) : Option Text :=
  let fitting := (beginnings.map String.text).filter fun beginning => beginning.isPrefixOf t
  match fitting with
  | [] => none
  | first :: rest =>
    let longest := rest.foldl (fun best next => if best.length < next.length then next else best) first
    some (t.drop longest.length)

def leadingSounds : List String :=
  ["", "G", "GG", "N", "D", "DD", "R", "M", "B", "BB", "S", "SS", "J", "JJ", "C", "K", "T", "P", "H"]

def middleSounds : List String :=
  ["A", "AE", "YA", "YAE", "EO", "E", "YEO", "YE", "O", "WA", "WAE", "OE", "YO", "U", "WEO", "WE", "WI",
   "YU", "EU", "YI", "I"]

def trailingSounds : List String :=
  ["", "G", "GG", "GS", "N", "NJ", "NH", "D", "L", "LG", "LM", "LB", "LS", "LT", "LP", "LH", "M", "B",
   "BS", "S", "SS", "NG", "J", "C", "K", "T", "P", "H"]

def isSyllable (t : Text) : Bool :=
  ((afterLongest? leadingSounds t).bind fun t =>
    (afterLongest? middleSounds t).bind (afterLongest? trailingSounds)) == some []

def ideographRanges : List (Nat × Nat) :=
  [(0x3400, 0x4DBF), (0x4E00, 0x9FFF), (0x20000, 0x2A6DF), (0x2A700, 0x2B738), (0x2B740, 0x2B81D),
   (0x2B820, 0x2CEA1), (0x2CEB0, 0x2EBE0), (0x30000, 0x3134A)]

def isIdeograph (digits : Text) : Bool :=
  (digits.length = 4 || digits.length = 5) && digits.all (fun c => c.isDigit || c.isUpper)
    && ((number? 16 digits).map (inRanges ideographRanges)).getD false

/-- Whether a text is the name of a character. Case matters only in names that are put together. -/
def isCharacterName (t : Text) : Bool :=
  let syllable := "HANGUL SYLLABLE ".text
  let ideograph := "CJK UNIFIED IDEOGRAPH-".text
  (syllable.isPrefixOf t && isSyllable (t.drop syllable.length))
    || (ideograph.isPrefixOf t && isIdeograph (t.drop ideograph.length))
    || inNameLines (t.map CodePoint.toUpper) [] characterNameLines

end DeclGen.Text
