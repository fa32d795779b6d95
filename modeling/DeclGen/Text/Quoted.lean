import DeclGen.Text.Basic
import DeclGen.Text.PrintableTable

/-!
Quoted text as messages show it: single quotes unless only those occur inside, escapes for the quote
itself, for the backslash and for every character that has no shape of its own.
-/
namespace DeclGen.Text

def isPrintable (c : CodePoint) : Bool := !inRanges hiddenRanges c.toNat

def hexDigits (width n : Nat) : Text :=
  let digits := (Nat.toDigits 16 n).map CodePoint.char
  List.replicate (width - digits.length) (CodePoint.char '0') ++ digits

def singleQuote : CodePoint := Char.ofNat 0x27

def doubleQuote : CodePoint := Char.ofNat 0x22

def quoteMark (t : Text) : CodePoint :=
  if t.contains singleQuote && !t.contains doubleQuote then doubleQuote else singleQuote

def quoteChar (mark c : CodePoint) : Text :=
  if c = mark ∨ c = '\\' then ['\\', c]
  else if c = '\n' then ['\\', 'n']
  else if c = '\r' then ['\\', 'r']
  else if c = '\t' then ['\\', 't']
  else if isPrintable c then [c]
  else if c.toNat < 0x100 then '\\' :: 'x' :: hexDigits 2 c.toNat
  else if c.toNat < 0x10000 then '\\' :: 'u' :: hexDigits 4 c.toNat
  else '\\' :: 'U' :: hexDigits 8 c.toNat

def quoted (t : Text) : Text :=
  let mark := quoteMark t
  mark :: t.flatMap (quoteChar mark) ++ [mark]

end DeclGen.Text
