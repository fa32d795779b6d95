import DeclGen.Console.ColourTable
import DeclGen.Text.Case

/-!
Styles of console text. A style is written as words in any order: attributes, perhaps with `not`
before them, a colour, a colour after `on` for the background, and an address after `link`. Two ways
of writing one style have the same normal form.
-/
namespace DeclGen.Console

open CodePoint (char)

/-- The characters that stand for zero in the scripts with digits of their own; the other nine digits
follow them. -/
def zeroDigits : List Nat :=
  [0x30, 0x660, 0x6F0, 0x7C0, 0x966, 0x9E6, 0xA66, 0xAE6, 0xB66, 0xBE6, 0xC66, 0xCE6, 0xD66,
   0xDE6, 0xE50, 0xED0, 0xF20, 0x1040, 0x1090, 0x17E0, 0x1810, 0x1946, 0x19D0, 0x1A80, 0x1A90,
   0x1B50, 0x1BB0, 0x1C40, 0x1C50, 0xA620, 0xA8D0, 0xA900, 0xA9D0, 0xA9F0, 0xAA50, 0xABF0,
   0xFF10, 0x104A0, 0x10D30, 0x11066, 0x110F0, 0x11136, 0x111D0, 0x112F0, 0x11450, 0x114D0,
   0x11650, 0x116C0, 0x11730, 0x118E0, 0x11950, 0x11C50, 0x11D50, 0x11DA0, 0x16A60, 0x16AC0,
   0x16B50, 0x1D7CE, 0x1D7D8, 0x1D7E2, 0x1D7EC, 0x1D7F6, 0x1E140, 0x1E2F0, 0x1E950, 0x1FBF0]

def decimalDigit? (c : CodePoint) : Option Nat :=
  (zeroDigits.find? fun first => decide (first ≤ c.toNat) && decide (c.toNat ≤ first + 9)).map
    (c.toNat - ·)

inductive StyleFault where
  | unreadable
  | emptyNumber
  deriving DecidableEq

def attributeNames : List (String × List String) :=
  [("bold", ["b"]), ("dim", ["d"]), ("italic", ["i"]), ("underline", ["u"]), ("blink", []),
   ("blink2", []), ("reverse", ["r"]), ("conceal", ["c"]), ("strike", ["s"]), ("underline2", ["uu"]),
   ("frame", []), ("encircle", []), ("overline", ["o"])]

def attribute? (word : Text) : Option Text :=
  (attributeNames.find? fun (name, short) =>
    (name :: short).any fun known => known.text == word).map (·.1.text)

structure Style where
  attributes : List (Text × Bool) := []
  colour : Option Text := none
  background : Option Text := none
  link : Option Text := none

def inParentheses? (word : String) (t : Text) : Option Text :=
  let opening := word.text ++ [char '(']
  if opening.isPrefixOf t ∧ t.getLast? = some (char ')') then
    some (t.drop opening.length).dropLast
  else none

def colourLimit : Nat := 255

def component (digits : Text) : Except StyleFault Nat :=
  if digits.isEmpty then .error .emptyNumber
  else
    match digits.mapM decimalDigit? with
    | some values => .ok (values.foldl (fun number value => number * 10 + value) 0)
    | none => .error .unreadable

def checkComponents (parts : Text) : Except StyleFault Unit :=
  if parts.isEmpty ∨ !parts.all fun c => c = ',' || (decimalDigit? c).isSome then .error .unreadable
  else
    match pieces (.char ',') parts with
    | [red, green, blue] => do
      let values ← [red, green, blue].mapM component
      if values.all (· ≤ colourLimit) then pure () else throw .unreadable
    | _ => .error .unreadable

def isColourNumber (digits : Text) : Bool :=
  decide (digits.length ≤ 3)
    && ((Text.number? 10 digits).map fun number => decide (number ≤ colourLimit)).getD false

def isColour (name : Text) : Bool :=
  name == "default".text || colourLines.any fun line => (pieces (.char ' ') line.text).contains name

def colourName (word : Text) : Except StyleFault Text :=
  let name := Text.lower word
  match name, inParentheses? "color" name, inParentheses? "rgb" name with
  | '#' :: digits, _, _ =>
    if digits.length = 6 ∧ (Text.number? 16 digits).isSome then .ok name else .error .unreadable
  | _, some digits, _ => if isColourNumber digits then .ok name else .error .unreadable
  | _, _, some parts => (checkComponents parts).map fun _ => name
  | _, _, _ => if isColour name then .ok name else .error .unreadable

namespace Style

def readWords (style : Style) : List Text → Except StyleFault Style
  | [] => .ok style
  | word :: rest =>
    let lower := Text.lower word
    if lower = "on".text then
      match rest with
      | [] => .error .unreadable
      | next :: rest => do readWords { style with background := some (← colourName next) } rest
    else if lower = "not".text then
      match rest with
      | [] => .error .unreadable
      | next :: rest =>
        match attribute? next with
        | some name => readWords { style with attributes := (name, false) :: style.attributes } rest
        | none => .error .unreadable
    else if lower = "link".text then
      match rest with
      | [] => .error .unreadable
      | next :: rest => readWords { style with link := some next } rest
    else
      match attribute? lower with
      | some name => readWords { style with attributes := (name, true) :: style.attributes } rest
      | none => do readWords { style with colour := some (← colourName lower) } rest

def noneWord : Text := "none".text

def ofText (t : Text) : Except StyleFault Style :=
  if Text.strip t = noneWord then .ok {} else readWords {} (Text.words t)

def words (style : Style) : List Text :=
  let attributes := attributeNames.filterMap fun (name, _) =>
    (style.attributes.lookup name.text).map fun isSet =>
      if isSet then name.text else "not ".text ++ name.text
  let background := style.background.map fun name => "on ".text ++ name
  let link := style.link.map fun address => "link ".text ++ address
  attributes ++ style.colour.toList ++ background.toList ++ link.toList

def text (style : Style) : Text :=
  if style.words.isEmpty then noneWord else joinWith [char ' '] style.words

/-- The normal form of a style; what cannot be read is taken in lower case. -/
def normalForm (t : Text) : Except StyleFault Text :=
  match ofText t with
  | .ok style => .ok style.text
  | .error .unreadable => .ok (Text.lower (Text.strip t))
  | .error .emptyNumber => .error .emptyNumber

end Style
end DeclGen.Console
