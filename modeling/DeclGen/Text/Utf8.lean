import DeclGen.Text.Quoted

/-!
Bytes and text in UTF-8. Reading never fails: every maximal part of an ill-formed sequence becomes one
replacement character. The reader is a machine with one pending sequence, so a line feed always
stands for itself and leaves nothing pending. Writing fails on a surrogate, which has no bytes.
-/
namespace DeclGen.Utf8

abbrev Bytes := List UInt8

def replacement : CodePoint := Char.ofNat 0xFFFD

/-- A sequence begun and not ended: how many continuation bytes are missing, the bounds of the next
one, and the bits read so far. -/
structure Pending where
  missing : Nat
  low : Nat
  high : Nat
  bits : Nat
  deriving DecidableEq, Repr

def start (b : Nat) : Text × Option Pending :=
  if b < 0x80 then ([Char.ofNat b], none)
  else if b < 0xC2 then ([replacement], none)
  else if b < 0xE0 then ([], some ⟨1, 0x80, 0xBF, b - 0xC0⟩)
  else if b = 0xE0 then ([], some ⟨2, 0xA0, 0xBF, 0⟩)
  else if b = 0xED then ([], some ⟨2, 0x80, 0x9F, 0xD⟩)
  else if b < 0xF0 then ([], some ⟨2, 0x80, 0xBF, b - 0xE0⟩)
  else if b = 0xF0 then ([], some ⟨3, 0x90, 0xBF, 0⟩)
  else if b < 0xF4 then ([], some ⟨3, 0x80, 0xBF, b - 0xF0⟩)
  else if b = 0xF4 then ([], some ⟨3, 0x80, 0x8F, 4⟩)
  else ([replacement], none)

/-- One byte further. A byte that cannot continue the pending sequence ends it and starts anew. -/
def step (pending : Option Pending) (b : Nat) : Text × Option Pending :=
  match pending with
  | none => start b
  | some p =>
    if p.low ≤ b ∧ b ≤ p.high then
      let bits := p.bits * 64 + (b - 0x80)
      if p.missing ≤ 1 then ([Char.ofNat bits], none)
      else ([], some ⟨p.missing - 1, 0x80, 0xBF, bits⟩)
    else
      let next := start b
      (replacement :: next.1, next.2)

def decodeFrom (pending : Option Pending) : Bytes → Text
  | [] => if pending.isSome then [replacement] else []
  | b :: rest =>
    let next := step pending b.toNat
    next.1 ++ decodeFrom next.2 rest

def decode (bytes : Bytes) : Text := decodeFrom none bytes

/-- The first code point without bytes, by its position and with the surrogates that stand there in a
row. -/
structure Unencodable where
  position : Nat
  surrogates : Text
  deriving DecidableEq

def Unencodable.message (u : Unencodable) : Text :=
  let place :=
    match u.surrogates with
    | [] | [_] =>
      " character ".text ++ Text.quoted u.surrogates ++ " in position ".text ++ Text.ofNat u.position
    | surrogates =>
      " characters in position ".text ++ Text.ofNat u.position ++ [CodePoint.char '-']
        ++ Text.ofNat (u.position + surrogates.length - 1)
  "'utf-8' codec can't encode".text ++ place ++ ": surrogates not allowed".text

section Units

variable (unit : CodePoint → Option Bytes)

/-- Every code point of the text has bytes. -/
def EncodableWith (t : Text) : Prop := ∀ c ∈ t, (unit c).isSome = true

instance (t : Text) : Decidable (EncodableWith unit t) :=
  inferInstanceAs (Decidable (∀ c ∈ t, (unit c).isSome = true))

def bytesWith (t : Text) : Bytes := t.flatMap fun c => (unit c).getD []

def encodeWith (t : Text) : Except Unencodable Bytes :=
  match t.findIdx? fun c => (unit c).isNone with
  | none => .ok (bytesWith unit t)
  | some position => .error ⟨position, (t.drop position).takeWhile CodePoint.isSurrogate⟩

theorem encodeWith_of_encodable {t : Text} (encodable : EncodableWith unit t) :
    encodeWith unit t = .ok (bytesWith unit t) := by
  have none : t.findIdx? (fun c => (unit c).isNone) = none := by
    rw [List.findIdx?_eq_none_iff]
    intro c member
    simpa using encodable c member
  rw [encodeWith, none]

theorem encodeWith_error_iff {t : Text} :
    (∃ place, encodeWith unit t = .error place) ↔ ¬ EncodableWith unit t := by
  constructor
  · rintro ⟨place, stuck⟩ encodable
    rw [encodeWith_of_encodable unit encodable] at stuck
    cases stuck
  · intro stuck
    rw [encodeWith]
    cases found : t.findIdx? fun c => (unit c).isNone with
    | some position => exact ⟨_, rfl⟩
    | none =>
      rw [List.findIdx?_eq_none_iff] at found
      exact absurd (fun c member => by simpa using found c member) stuck

end Units

def unit : CodePoint → Option Bytes
  | .char c => some (String.utf8EncodeChar c)
  | .surrogate _ => none

abbrev Encodable (t : Text) : Prop := EncodableWith unit t

def bytes (t : Text) : Bytes := bytesWith unit t

def encode (t : Text) : Except Unencodable Bytes := encodeWith unit t

def isWellFormed (read : Bytes) : Bool := bytes (decode read) == read

def slice (bytes : Bytes) (first last : Nat) : Bytes := (bytes.take last).drop first

end DeclGen.Utf8
