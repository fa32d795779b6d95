import DeclGen.Text.CharacterName

/-!
Escapes in strings. A string is decoded from a text of basic characters in which every other character
is written as an escape of its own, and faults give their positions in that text.
-/
namespace DeclGen.Console.Literal

open CodePoint (char)

def isBasic (c : CodePoint) : Bool := decide (c.toNat < 0x80)

def basicWidth (c : CodePoint) : Nat := if isBasic c then 1 else 10

/-- How many basic characters a text takes. A backslash is written as an escape where nothing follows
that it could escape. -/
def textWidth : Text → Nat
  | [] => 0
  | ['\\'] => 6
  | '\\' :: c :: rest => (if isBasic c then 2 else 6 + basicWidth c) + textWidth rest
  | c :: rest => basicWidth c + textWidth rest

def isHexDigit (c : CodePoint) : Bool := (Text.digit? c).isSome

def digitEscapes : List (CodePoint × Nat) := [('x', 2), ('u', 4), ('U', 8)]

structure EscapeFault where
  width : Nat
  reason : Text

def digitFault? (letter : CodePoint) (count : Nat) (t : Text) : Option EscapeFault :=
  let digits := (t.take count).takeWhile isHexDigit
  if digits.length < count then
    some ⟨digits.length + 2,
      "truncated \\".text ++ [letter] ++ List.replicate count (char 'X') ++ " escape".text⟩
  else if 0x10FFFF < (Text.number? 16 digits).getD 0 then
    some ⟨count + 2, "illegal Unicode character".text⟩
  else none

def nameFault? (t : Text) : Option EscapeFault :=
  let malformed := "malformed \\N character escape".text
  match t with
  | '{' :: rest =>
    match Text.cutFirst? '}' rest with
    | none => some ⟨textWidth rest + 3, malformed⟩
    | some ([], _) => some ⟨3, malformed⟩
    | some (name, _) =>
      if Text.isCharacterName name then none
      else some ⟨textWidth (name ++ [char '}']) + 3, "unknown Unicode character name".text⟩
  | _ => some ⟨2, malformed⟩

def escapeFault? (letter : CodePoint) (rest : Text) : Option EscapeFault :=
  match digitEscapes.lookup letter with
  | some count => digitFault? letter count rest
  | none => if letter = 'N' then nameFault? rest else none

def textFaultFrom? (position : Nat) : Text → Option (Nat × EscapeFault)
  | [] => none
  | '\\' :: c :: rest =>
    if isBasic c then
      match escapeFault? c rest with
      | some fault => some (position, fault)
      | none => textFaultFrom? (position + 2) rest
    else textFaultFrom? (position + 6 + basicWidth c) rest
  | c :: rest => textFaultFrom? (position + basicWidth c) rest

def textFault? (t : Text) : Option Text :=
  (textFaultFrom? 0 t).map fun (position, fault) =>
    "(unicode error) 'unicodeescape' codec can't decode bytes in position ".text
      ++ Text.ofNat position ++ [char '-'] ++ Text.ofNat (position + fault.width - 1) ++ ": ".text
      ++ fault.reason

def bytesFaultFrom? (position : Nat) : Text → Option Nat
  | [] => none
  | '\\' :: 'x' :: rest =>
    if ((rest.take 2).takeWhile isHexDigit).length < 2 then some position
    else bytesFaultFrom? (position + 2) rest
  | '\\' :: _ :: rest => bytesFaultFrom? (position + 2) rest
  | _ :: rest => bytesFaultFrom? (position + 1) rest

def bytesFault? (t : Text) : Option Text :=
  (bytesFaultFrom? 0 t).map fun position =>
    "(value error) invalid \\x escape at position ".text ++ Text.ofNat position

end DeclGen.Console.Literal
