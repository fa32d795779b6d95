import DeclGen.Text.Utf8

/-!
Names as a file system has them, which are bytes. A text stands for a name: a character for its bytes
in UTF-8, and a surrogate of one certain block for a single byte outside of ASCII. So every name has a
text, also one that is not in UTF-8. The other surrogates stand for nothing, and a text that spells out
the bytes of a character stands for the same name as the character.
-/
namespace DeclGen.FileName

open Utf8 (Bytes)

def unit : CodePoint → Option Bytes
  | .char c => some (String.utf8EncodeChar c)
  | .surrogate place =>
    if 0x480 ≤ place.val ∧ place.val < 0x500 then some [UInt8.ofNat (place.val - 0x400)] else none

abbrev Encodable (t : Text) : Prop := Utf8.EncodableWith unit t

def bytes (t : Text) : Bytes := Utf8.bytesWith unit t

def encode (t : Text) : Except Utf8.Unencodable Bytes := Utf8.encodeWith unit t

/-- The character that the bytes begin with. -/
def front? (name : Bytes) : Option Char := ByteArray.utf8DecodeChar? ⟨name.toArray⟩ 0

def escaped (b : UInt8) : CodePoint := .surrogate ⟨b.toNat + 0x400, by have := b.toNat_lt; omega⟩

/-- The text of a name whose first bytes, so many of them, are already read. -/
def textFrom : Nat → Bytes → Text
  | _, [] => []
  | past + 1, _ :: rest => textFrom past rest
  | 0, b :: rest =>
    if b < 0x80 then .char (Char.ofNat b.toNat) :: textFrom 0 rest
    else
      match front? (b :: rest) with
      | some c => .char c :: textFrom (c.utf8Size - 1) rest
      | none => escaped b :: textFrom 0 rest

def text (name : Bytes) : Text := textFrom 0 name

end DeclGen.FileName
