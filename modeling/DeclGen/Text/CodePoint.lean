/-!
Code points. Text that was decoded from bytes has characters only, but a text can also come from where
nothing is decoded, such as the name of a file or an argument of the program, and there it may hold one
half of a surrogate pair without the other. No encoding has bytes for such a half.
-/
namespace DeclGen

inductive CodePoint where
  | char (c : Char)
  /-- Half of a surrogate pair on its own, by its place among all halves. -/
  | surrogate (place : Fin 0x800)
  deriving DecidableEq, Repr

namespace CodePoint

instance : Coe Char CodePoint := ⟨.char⟩

def toNat : CodePoint → Nat
  | .char c => c.toNat
  | .surrogate place => 0xD800 + place

def ofNat (n : Nat) : CodePoint :=
  if half : 0xD800 ≤ n ∧ n < 0xE000 then .surrogate ⟨n - 0xD800, by omega⟩ else .char (Char.ofNat n)

instance : LE CodePoint := ⟨fun c d => c.toNat ≤ d.toNat⟩

instance : LT CodePoint := ⟨fun c d => c.toNat < d.toNat⟩

instance (c d : CodePoint) : Decidable (c ≤ d) := inferInstanceAs (Decidable (c.toNat ≤ d.toNat))

instance (c d : CodePoint) : Decidable (c < d) := inferInstanceAs (Decidable (c.toNat < d.toNat))

instance : Std.Asymm (α := CodePoint) (· < ·) := ⟨fun _ _ before => Nat.lt_asymm before⟩

def isSurrogate : CodePoint → Bool
  | .char _ => false
  | .surrogate _ => true

/-- A surrogate has none of the properties of characters. -/
def satisfies (test : Char → Bool) : CodePoint → Bool
  | .char c => test c
  | .surrogate _ => false

def isDigit : CodePoint → Bool := satisfies Char.isDigit

def isLower : CodePoint → Bool := satisfies Char.isLower

def isUpper : CodePoint → Bool := satisfies Char.isUpper

def isAlpha : CodePoint → Bool := satisfies Char.isAlpha

def isAlphanum : CodePoint → Bool := satisfies Char.isAlphanum

def mapChar (f : Char → Char) : CodePoint → CodePoint
  | .char c => .char (f c)
  | .surrogate place => .surrogate place

def toLower : CodePoint → CodePoint := mapChar Char.toLower

def toUpper : CodePoint → CodePoint := mapChar Char.toUpper

theorem toNat_injective {c d : CodePoint} (h : c.toNat = d.toNat) : c = d := by
  cases c with
  | char a =>
    cases d with
    | char b => rw [Char.toNat_inj.mp h]
    | surrogate place =>
      -- no character has a number among the surrogates
      have := a.valid
      have := place.isLt
      simp only [toNat, Char.toNat, UInt32.isValidChar, Nat.isValidChar] at *
      omega
  | surrogate place =>
    cases d with
    | char b =>
      have := b.valid
      have := place.isLt
      simp only [toNat, Char.toNat, UInt32.isValidChar, Nat.isValidChar] at *
      omega
    | surrogate other =>
      simp only [toNat] at h
      rw [Fin.ext (by omega : place.val = other.val)]

end CodePoint

abbrev Text := List CodePoint

end DeclGen

def String.text (s : String) : DeclGen.Text := s.toList.map .char
