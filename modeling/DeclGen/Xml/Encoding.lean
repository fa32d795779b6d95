import DeclGen.Text.Case
import DeclGen.Text.Quoted
import DeclGen.Text.Utf8
import DeclGen.Xml.EncodingTable

/-!
The encodings of documents. The first bytes of a document show whether it is written in bytes or in
pairs of bytes; a name in its declaration may then choose among the encodings with that unit. Some
names are taken as they are written. All others are compared without their punctuation, and stand for
encodings with one character per byte; a byte that such an encoding leaves open is refused.
-/
namespace DeclGen.Xml

open Utf8 (Bytes)

inductive Encoding where
  | utf8
  | utf16 (bigEndian : Bool)
  | ascii
  | latin1
  | charset (upper : Text)
  | tilde
  deriving DecidableEq

inductive EncodingError where
  | unknown (name : Text)
  | notText (name : Text)
  | multiByte
  | refused (name : Text) (reason : Text)
  | unreadableByte
  deriving DecidableEq

def EncodingError.message : EncodingError → Text
  | .unknown name => "unknown encoding: ".text ++ name
  | .notText name =>
    [Text.singleQuote] ++ name ++ [Text.singleQuote]
      ++ " is not a text encoding; use codecs.decode() to handle arbitrary codecs".text
  | .multiByte => "multi-byte encodings are not supported".text
  | .refused name reason =>
    "decoding with '".text ++ name ++ "' codec failed (UnicodeError: ".text ++ reason ++ ")".text
  | .unreadableByte =>
    "'ascii' codec can't decode byte 0x80 in position 82: ordinal not in range(128)".text

namespace Encoding

def unitSize : Encoding → Nat
  | .utf16 _ => 2
  | _ => 1

/-- The units of two bytes; a single byte at the end is left over. -/
def units (bigEndian : Bool) : Bytes → List Nat
  | first :: second :: rest =>
    (if bigEndian then first.toNat * 0x100 + second.toNat else second.toNat * 0x100 + first.toNat)
      :: units bigEndian rest
  | _ => []

def isLead (unit : Nat) : Bool := decide (0xD800 ≤ unit) && decide (unit < 0xDC00)

def isTrail (unit : Nat) : Bool := decide (0xDC00 ≤ unit) && decide (unit < 0xE000)

/-- The characters of units. A first half takes the low bits of the unit after it, whatever that is; a
second half without a first has no meaning. -/
def ofUnits? : List Nat → Option Text
  | [] => some []
  | [unit] => if isLead unit || isTrail unit then none else some [Char.ofNat unit]
  | unit :: next :: rest =>
    if isTrail unit then none
    else if isLead unit then
      (ofUnits? rest).map
        (Char.ofNat (0x10000 + (unit - 0xD800) * 0x400 + next % 0x400) :: ·)
    else (ofUnits? (next :: rest)).map (Char.ofNat unit :: ·)

def charsetChar? (upper : Text) (b : UInt8) : Option CodePoint :=
  if b < 0x80 then some (Char.ofNat b.toNat)
  else (upper[b.toNat - 0x80]?).filter (· != Utf8.replacement)

def decode? (encoding : Encoding) (bytes : Bytes) : Option Text :=
  match encoding with
  | .utf8 => if Utf8.isWellFormed bytes then some (Utf8.decode bytes) else none
  | .utf16 bigEndian => if bytes.length % 2 = 0 then ofUnits? (units bigEndian bytes) else none
  | .ascii => if bytes.all (· < 0x80) then some (bytes.map fun b => Char.ofNat b.toNat) else none
  | .latin1 => some (bytes.map fun b => Char.ofNat b.toNat)
  | .charset upper => bytes.mapM (charsetChar? upper)
  | .tilde =>
    if bytes.all fun b => b < 0x80 ∧ b ≠ 0x7E then some (bytes.map fun b => Char.ofNat b.toNat)
    else none

/-- The text of a document as far as it concerns the declaration, with one character per unit there;
what has no meaning is replaced. -/
def preview (encoding : Encoding) (bytes : Bytes) : Text :=
  match encoding with
  | .utf16 bigEndian =>
    (units bigEndian bytes).map fun unit =>
      if isLead unit || isTrail unit then Utf8.replacement else Char.ofNat unit
  | _ => Utf8.decode bytes

def detect (bytes : Bytes) : Encoding × Bytes :=
  if [0xEF, 0xBB, 0xBF].isPrefixOf bytes then (.utf8, bytes.drop 3)
  else if [0xFE, 0xFF].isPrefixOf bytes then (.utf16 true, bytes.drop 2)
  else if [0xFF, 0xFE].isPrefixOf bytes then (.utf16 false, bytes.drop 2)
  else
    match bytes with
    | first :: second :: _ =>
      if first = 0 then (.utf16 true, bytes)
      else if second = 0 then (.utf16 false, bytes)
      else (.utf8, bytes)
    | _ => (.utf8, bytes)

/-- The encodings whose names are taken as they are written, in lower case. In a document that is
written in pairs of bytes, the order of the bytes need not be named. -/
def native? (shown : Encoding) (name : Text) : Option Encoding :=
  let pairs := if shown.unitSize = 2 then shown else .utf16 true
  [("utf-8".text, .utf8), ("us-ascii".text, .ascii), ("iso-8859-1".text, .latin1),
   ("utf-16".text, pairs), ("utf-16be".text, .utf16 true),
   ("utf-16le".text, .utf16 false)].lookup name

def agrees (shown named : Encoding) : Bool :=
  if shown.unitSize = 2 then named == shown else named.unitSize = 1

/-- The words of a name with single underscores between them; a dot is part of a word. -/
def plainName (name : Text) : Text :=
  let words := name.foldr (fun (c : CodePoint) words =>
    if c.isAlphanum || c = '.' then extendFirst c words else [] :: words) []
  joinWith [CodePoint.char '_'] (words.filter fun word => !word.isEmpty)

def hasWord (lines : List String) (word : Text) : Bool :=
  lines.any fun line => (pieces (.char ' ') line.text).contains word

def isNamed (names : EncodingNames) (name : Text) : Bool :=
  hasWord names.proper name || hasWord names.aliases name
    || hasWord names.aliases (name.map fun (c : CodePoint) => if c = '.' then '_' else c)

def latinUpper : Text := (List.range 0x80).map fun n => Char.ofNat (0x80 + n)

/-- What the names without a table stand for; an unusable encoding is none. -/
def plainEncodings : List (EncodingNames × Option Encoding) :=
  [(basicNames, some .ascii), (tildeNames, some .tilde), (latinNames, some (.charset latinUpper)),
   (unusableNames, none)]

def fault? (name plain : Text) : Option EncodingError :=
  if isNamed multiByteNames plain then some .multiByte
  else if isNamed nonTextNames plain then some (.notText name)
  else
    [("idna".text, .refused name "Unsupported error handling replace".text),
     ("undefined".text, .refused name "undefined encoding".text),
     ("punycode".text, EncodingError.unreadableByte)].lookup plain

/-- The encoding that a name other than the native ones stands for; an unusable encoding is none. -/
def named (name : Text) : Except EncodingError (Option Encoding) :=
  let plain := plainName (name.map CodePoint.toLower)
  match plainEncodings.find? fun entry => isNamed entry.1 plain with
  | some (_, encoding) => .ok encoding
  | none =>
    match charsets.find? fun entry => isNamed entry.names plain with
    | some entry => .ok (some (.charset (entry.upper.flatMap String.text)))
    | none => .error ((fault? name plain).getD (.unknown name))

end Encoding
end DeclGen.Xml
