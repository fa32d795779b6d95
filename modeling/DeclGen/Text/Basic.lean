import DeclGen.Text.CodePoint

/-!
Text is a list of code points, and every position in a directive, a type spelling or a path counts
them. This module has the blank characters and the searching, cutting and joining that the readers
are built from. Order on texts is the lexicographic order of their code points.
-/
namespace DeclGen

/-- The lexicographic order: the first difference decides, and a shorter list comes before its
continuations. -/
def lexLe {α : Type} [DecidableEq α] (le : α → α → Bool) : List α → List α → Bool
  | [], _ => true
  | _ :: _, [] => false
  | x :: xs, y :: ys => if x = y then lexLe le xs ys else le x y

namespace Text

def inRanges (ranges : List (Nat × Nat)) (n : Nat) : Bool :=
  ranges.any fun r => decide (r.1 ≤ n) && decide (n ≤ r.2)

/-- The blank characters: controls that move the carriage, separators and the spaces of every width. -/
def blankRanges : List (Nat × Nat) :=
  [(0x9, 0xD), (0x1C, 0x20), (0x85, 0x85), (0xA0, 0xA0), (0x1680, 0x1680), (0x2000, 0x200A),
   (0x2028, 0x2029), (0x202F, 0x202F), (0x205F, 0x205F), (0x3000, 0x3000)]

def isBlank (c : CodePoint) : Bool := inRanges blankRanges c.toNat

def stripLeft (t : Text) : Text := t.dropWhile isBlank

def stripRight (t : Text) : Text := (t.reverse.dropWhile isBlank).reverse

def strip (t : Text) : Text := stripRight (stripLeft t)

def squeeze (t : Text) : Text := t.filter fun c => !isBlank c

def allBlank (t : Text) : Bool := t.all isBlank

/-- The position of the first occurrence of `needle`; the empty text occurs at the start. -/
def indexOf? (needle : Text) : Text → Option Nat
  | [] => if needle.isEmpty then some 0 else none
  | c :: rest => if needle.isPrefixOf (c :: rest) then some 0 else (indexOf? needle rest).map (· + 1)

def beforeLast? (mark : CodePoint) (t : Text) : Option Text :=
  match t.reverse.dropWhile (· != mark) with
  | [] => none
  | _ :: before => some before.reverse

def cutFirst? (mark : CodePoint) : Text → Option (Text × Text)
  | [] => none
  | c :: rest =>
    if c = mark then some ([], rest)
    else (cutFirst? mark rest).map fun parts => (c :: parts.1, parts.2)

theorem length_cutFirst {mark : CodePoint} {t before after : Text}
    (h : cutFirst? mark t = some (before, after)) : after.length < t.length := by
  induction t generalizing before with
  | nil => simp [cutFirst?] at h
  | cons c rest ih =>
    simp only [cutFirst?] at h
    split at h
    · simp only [Option.some.injEq, Prod.mk.injEq] at h
      rw [← h.2]; simp
    · cases found : cutFirst? mark rest with
      | none => simp [found] at h
      | some parts =>
        simp only [found, Option.map_some, Option.some.injEq, Prod.mk.injEq] at h
        have := @ih parts.1 (by rw [found, ← h.2])
        simp only [List.length_cons]; omega

def endsWith (suffix t : Text) : Bool := suffix.isSuffixOf t

def ofNat (n : Nat) : Text := (Nat.toDigits 10 n).map .char

def ofInt : Int → Text
  | .ofNat n => ofNat n
  | .negSucc n => '-' :: ofNat (n + 1)

def digit? (c : CodePoint) : Option Nat :=
  if '0' ≤ c ∧ c ≤ '9' then some (c.toNat - 0x30)
  else if 'a' ≤ c ∧ c ≤ 'f' then some (c.toNat - 0x61 + 10)
  else if 'A' ≤ c ∧ c ≤ 'F' then some (c.toNat - 0x41 + 10)
  else none

def number? (base : Nat) (digits : Text) : Option Nat :=
  if digits.isEmpty then none
  else digits.foldlM (fun value c => do
    let digit ← digit? c
    if digit < base then some (value * base + digit) else none) 0

def le (a b : Text) : Bool := lexLe (fun c d => decide (c.toNat ≤ d.toNat)) a b

end Text

def extendFirst {α : Type} (x : α) : List (List α) → List (List α)
  | [] => [[x]]
  | part :: others => (x :: part) :: others

/-- The pieces between the occurrences of `sep`; there is always at least one. -/
def pieces {α : Type} [DecidableEq α] (sep : α) : List α → List (List α)
  | [] => [[]]
  | x :: rest => if x = sep then [] :: pieces sep rest else extendFirst x (pieces sep rest)

def Text.words (t : Text) : List Text :=
  (pieces (.char ' ') (t.map fun c => if isBlank c then .char ' ' else c)).filter fun word =>
    !word.isEmpty

def joinWith {α : Type} (sep : List α) : List (List α) → List α
  | [] => []
  | [part] => part
  | part :: next :: others => part ++ sep ++ joinWith sep (next :: others)

theorem extendFirst_ne_nil {α : Type} (x : α) (parts : List (List α)) : extendFirst x parts ≠ [] := by
  cases parts <;> simp [extendFirst]

theorem length_extendFirst {α : Type} (x : α) (parts : List (List α)) :
    (extendFirst x parts).flatten.length = parts.flatten.length + 1 := by
  cases parts <;> simp [extendFirst]

theorem joinWith_cons {α : Type} (sep part : List α) {parts : List (List α)} (h : parts ≠ []) :
    joinWith sep (part :: parts) = part ++ sep ++ joinWith sep parts := by
  cases parts with
  | nil => exact absurd rfl h
  | cons next others => rfl

theorem joinWith_extendFirst {α : Type} (sep : List α) (x : α) (parts : List (List α)) :
    joinWith sep (extendFirst x parts) = x :: joinWith sep parts := by
  cases parts with
  | nil => rfl
  | cons part others => cases others <;> simp [extendFirst, joinWith]

section Order

variable {α : Type} [DecidableEq α] {le : α → α → Bool}

theorem lexLe_total (total : ∀ x y, le x y ∨ le y x) (xs ys : List α) :
    lexLe le xs ys ∨ lexLe le ys xs := by
  induction xs generalizing ys with
  | nil => exact .inl rfl
  | cons x rest ih =>
    cases ys with
    | nil => exact .inr rfl
    | cons y others =>
      by_cases same : x = y
      · simpa [lexLe, same] using ih others
      · simpa [lexLe, same, Ne.symm same] using total x y

theorem lexLe_antisymm (antisymm : ∀ x y, le x y → le y x → x = y) {xs ys : List α}
    (h : lexLe le xs ys) (back : lexLe le ys xs) : xs = ys := by
  induction xs generalizing ys with
  | nil =>
    cases ys with
    | nil => rfl
    | cons y others => simp [lexLe] at back
  | cons x rest ih =>
    cases ys with
    | nil => simp [lexLe] at h
    | cons y others =>
      by_cases same : x = y
      · simp only [lexLe, same, if_true] at h back
        rw [same, ih h back]
      · simp only [lexLe, same, Ne.symm same, if_false] at h back
        exact absurd (antisymm x y h back) same

theorem lexLe_trans (antisymm : ∀ x y, le x y → le y x → x = y)
    (trans : ∀ x y z, le x y → le y z → le x z) {xs ys zs : List α} (h : lexLe le xs ys)
    (next : lexLe le ys zs) : lexLe le xs zs := by
  induction xs generalizing ys zs with
  | nil => rfl
  | cons x rest ih =>
    cases ys with
    | nil => simp [lexLe] at h
    | cons y others =>
      cases zs with
      | nil => simp [lexLe] at next
      | cons z more =>
        by_cases first : x = y
        · subst first
          by_cases second : x = z
          · simp only [lexLe, second, if_true] at h next ⊢
            exact ih h next
          · simpa [lexLe, second] using next
        · by_cases second : y = z
          · subst second
            simpa [lexLe, first] using h
          · simp only [lexLe, first, second, if_false] at h next
            have apart : x ≠ z := fun same => first (antisymm x y h (same ▸ next))
            simpa [lexLe, apart] using trans x y z h next

end Order

namespace Text

theorem le_total (a b : Text) : le a b ∨ le b a := by
  refine lexLe_total ?_ a b
  intro c d
  simpa using Nat.le_total c.toNat d.toNat

theorem code_antisymm (c d : CodePoint) (h : decide (c.toNat ≤ d.toNat) = true)
    (back : decide (d.toNat ≤ c.toNat) = true) : c = d := by
  apply CodePoint.toNat_injective
  exact Nat.le_antisymm (of_decide_eq_true h) (of_decide_eq_true back)

theorem le_antisymm {a b : Text} (h : le a b) (back : le b a) : a = b :=
  lexLe_antisymm code_antisymm h back

theorem le_trans {a b c : Text} (h : le a b) (next : le b c) : le a c := by
  refine lexLe_trans code_antisymm ?_ h next
  intro x y z first second
  simp only [decide_eq_true_eq] at first second ⊢
  exact Nat.le_trans first second

end Text

section Pieces

variable {α : Type} [DecidableEq α]

theorem pieces_ne_nil (sep : α) (xs : List α) : pieces sep xs ≠ [] := by
  cases xs with
  | nil => simp [pieces]
  | cons x rest =>
    simp only [pieces]
    split
    · simp
    · exact extendFirst_ne_nil x _

theorem joinWith_pieces (sep : α) (xs : List α) : joinWith [sep] (pieces sep xs) = xs := by
  induction xs with
  | nil => rfl
  | cons x rest ih =>
    simp only [pieces]
    split
    · next same =>
      rw [joinWith_cons _ _ (pieces_ne_nil sep rest), ih, same]
      rfl
    · rw [joinWith_extendFirst, ih]

theorem pieces_of_not_mem {sep : α} {xs : List α} (h : sep ∉ xs) : pieces sep xs = [xs] := by
  induction xs with
  | nil => rfl
  | cons x rest ih =>
    have apart : x ≠ sep := fun same => h (same ▸ List.mem_cons_self)
    simp [pieces, apart, ih fun inside => h (List.mem_cons_of_mem _ inside), extendFirst]

theorem pieces_append_cons {sep : α} {part : List α} (h : sep ∉ part) (xs : List α) :
    pieces sep (part ++ sep :: xs) = part :: pieces sep xs := by
  induction part with
  | nil => simp [pieces]
  | cons x rest ih =>
    have apart : x ≠ sep := fun same => h (same ▸ List.mem_cons_self)
    simp [pieces, apart, ih fun inside => h (List.mem_cons_of_mem _ inside), extendFirst]

theorem pieces_joinWith {sep : α} {parts : List (List α)} (nonempty : parts ≠ [])
    (h : ∀ part ∈ parts, sep ∉ part) : pieces sep (joinWith [sep] parts) = parts := by
  induction parts with
  | nil => exact absurd rfl nonempty
  | cons part others ih =>
    have first := h part List.mem_cons_self
    cases others with
    | nil => exact pieces_of_not_mem first
    | cons next more =>
      have rest := ih (by simp) fun p inside => h p (List.mem_cons_of_mem _ inside)
      rw [joinWith_cons _ _ (by simp), List.append_assoc, List.singleton_append,
        pieces_append_cons first, rest]

end Pieces
end DeclGen
