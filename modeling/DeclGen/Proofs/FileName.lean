import DeclGen.Path
import DeclGen.Text.FileName
import Mathlib.Tactic.SplitIfs

/-!
Names and their texts. Every name has a text, and the bytes of that text are the name again. A byte of
ASCII comes from that character and from nothing else, so no two texts stand for one name in ASCII.
-/
namespace DeclGen.FileName

open Utf8 (Bytes)

section Units

variable {c d : CodePoint} {bs : Bytes}

theorem le_ofNat {n : Nat} (low : 0x80 ≤ n) (high : n < 0x100) : 0x80 ≤ UInt8.ofNat n := by
  rw [UInt8.le_iff_toNat_le, UInt8.toNat_ofNat', Nat.mod_eq_of_lt high]
  exact low

theorem ofNat_lt {n : Nat} (small : n < 0x80) : UInt8.ofNat n < 0x80 := by
  rw [UInt8.lt_iff_toNat_lt, UInt8.toNat_ofNat', Nat.mod_eq_of_lt (by omega)]
  exact small

theorem utf8EncodeChar_high {c : Char} (large : 0x80 ≤ c.toNat) :
    ∀ b ∈ String.utf8EncodeChar c, 0x80 ≤ b := by
  have wide : ¬ c.val.toNat ≤ 0x7F := Nat.not_le.mpr large
  unfold String.utf8EncodeChar
  simp only [if_neg wide]
  split_ifs
  all_goals
    simp only [List.mem_cons, List.not_mem_nil, or_false, forall_eq_or_imp, forall_eq]
    repeat' constructor
    all_goals exact le_ofNat (by omega) (by omega)

/-- A code point has its own byte of ASCII, or bytes outside of it. -/
theorem unit_cases (has : unit c = some bs) :
    (c.toNat < 0x80 ∧ bs = [UInt8.ofNat c.toNat]) ∨ (bs ≠ [] ∧ ∀ b ∈ bs, 0x80 ≤ b) := by
  cases c with
  | char c =>
    obtain rfl : String.utf8EncodeChar c = bs := Option.some.inj has
    by_cases small : c.toNat < 0x80
    · have byte : c.val.toNat ≤ 0x7F := Nat.le_of_lt_succ small
      refine .inl ⟨small, ?_⟩
      unfold String.utf8EncodeChar
      exact if_pos byte
    · refine .inr ⟨fun none => ?_, utf8EncodeChar_high (Nat.le_of_not_lt small)⟩
      have size := String.length_utf8EncodeChar c
      rw [none] at size
      exact absurd size.symm (Nat.ne_of_gt c.utf8Size_pos)
  | surrogate place =>
    rw [unit] at has
    split at has
    · next block =>
      obtain rfl := Option.some.inj has
      refine .inr ⟨by simp, fun b member => ?_⟩
      rw [List.mem_singleton.mp member]
      exact le_ofNat (by omega) (by omega)
    · cases has

theorem unit_of_lt (small : c.toNat < 0x80) : unit c = some [UInt8.ofNat c.toNat] := by
  cases c with
  | char c =>
    have byte : c.val.toNat ≤ 0x7F := Nat.le_of_lt_succ small
    refine congrArg some ?_
    unfold String.utf8EncodeChar
    exact if_pos byte
  | surrogate place =>
    simp only [CodePoint.toNat] at small
    omega

theorem eq_of_ofNat_eq (first : c.toNat < 0x80) (second : d.toNat < 0x80)
    (same : UInt8.ofNat c.toNat = UInt8.ofNat d.toNat) : c = d := by
  have codes := congrArg UInt8.toNat same
  rw [UInt8.toNat_ofNat', UInt8.toNat_ofNat', Nat.mod_eq_of_lt (by omega),
    Nat.mod_eq_of_lt (by omega)] at codes
  exact CodePoint.toNat_injective codes

theorem ofNat_mem_unit_iff (small : c.toNat < 0x80) (has : unit d = some bs) :
    UInt8.ofNat c.toNat ∈ bs ↔ c = d := by
  constructor
  · intro member
    rcases unit_cases has with ⟨other, rfl⟩ | ⟨_, high⟩
    · exact eq_of_ofNat_eq small other (List.mem_singleton.mp member)
    · exact absurd (high _ member) (UInt8.not_le.mpr (ofNat_lt small))
  · rintro rfl
    obtain rfl := Option.some.inj ((unit_of_lt small).symm.trans has)
    exact List.mem_singleton_self _

end Units

section Texts

variable {c : CodePoint} {t u : Text}

theorem bytes_cons {bs : Bytes} (has : unit c = some bs) (t : Text) :
    bytes (c :: t) = bs ++ bytes t := by
  change (unit c).getD [] ++ bytes t = _
  rw [has]
  rfl

theorem Encodable.cons (encodable : Encodable (c :: t)) :
    (∃ bs, unit c = some bs) ∧ Encodable t :=
  ⟨Option.isSome_iff_exists.mp (encodable c List.mem_cons_self),
    fun d member => encodable d (List.mem_cons_of_mem _ member)⟩

theorem ofNat_mem_bytes_iff (small : c.toNat < 0x80) (encodable : Encodable t) :
    UInt8.ofNat c.toNat ∈ bytes t ↔ c ∈ t := by
  induction t with
  | nil => exact ⟨nofun, nofun⟩
  | cons d rest ih =>
    obtain ⟨⟨bs, has⟩, further⟩ := encodable.cons
    rw [bytes_cons has, List.mem_append, List.mem_cons, ih further, ofNat_mem_unit_iff small has]

theorem bytes_eq_nil_iff (encodable : Encodable t) : bytes t = [] ↔ t = [] := by
  cases t with
  | nil => exact ⟨fun _ => rfl, fun _ => rfl⟩
  | cons c rest =>
    obtain ⟨⟨bs, has⟩, _⟩ := encodable.cons
    have some : bs ≠ [] := by
      rcases unit_cases has with ⟨_, rfl⟩ | ⟨some, _⟩
      · simp
      · exact some
    rw [bytes_cons has]
    simp [some]

/-- A name in ASCII comes from one text. -/
theorem eq_of_bytes_eq (ascii : ∀ c ∈ u, c.toNat < 0x80) (encodable : Encodable t)
    (same : bytes t = bytes u) : t = u := by
  induction t generalizing u with
  | nil =>
    cases u with
    | nil => rfl
    | cons d others =>
      rw [bytes_cons (unit_of_lt (ascii d List.mem_cons_self))] at same
      cases same
  | cons c rest ih =>
    cases u with
    | nil => exact absurd ((bytes_eq_nil_iff encodable).mp same) (by simp)
    | cons d others =>
      obtain ⟨⟨bs, has⟩, further⟩ := encodable.cons
      have small := ascii d List.mem_cons_self
      rw [bytes_cons has, bytes_cons (unit_of_lt small), List.singleton_append] at same
      rcases unit_cases has with ⟨other, rfl⟩ | ⟨some, high⟩
      · obtain ⟨first, later⟩ := List.cons.inj same
        rw [eq_of_ofNat_eq other small first,
          ih (fun e member => ascii e (List.mem_cons_of_mem _ member)) further later]
      · -- bytes outside of ASCII cannot be where the byte of `d` is
        obtain ⟨b, others, rfl⟩ := List.exists_cons_of_ne_nil some
        have first : b = UInt8.ofNat d.toNat := (List.cons.inj same).1
        have large := high b List.mem_cons_self
        rw [first] at large
        exact absurd large (UInt8.not_le.mpr (ofNat_lt small))

end Texts

section Reading

variable {name : Bytes}

theorem eq_append_of_front {c : Char} (starts : front? name = some c) :
    name = String.utf8EncodeChar c ++ name.drop c.utf8Size := by
  have whole := ByteArray.eq_of_utf8DecodeChar?_eq_some starts
  have lists := congrArg (fun b => b.data.toList) whole
  rw [ByteArray.toList_data_append, ByteArray.data_extract, List.data_toByteArray,
    List.extract_toArray, List.extract_eq_drop_take'] at lists
  have size : ByteArray.size ⟨name.toArray⟩ = name.length := rfl
  rwa [size, List.take_length] at lists

theorem unit_ascii {b : UInt8} (small : b < 0x80) : unit (.char (Char.ofNat b.toNat)) = some [b] := by
  have low : b.toNat < 0x80 := UInt8.lt_iff_toNat_lt.mp small
  have code : (CodePoint.char (Char.ofNat b.toNat)).toNat = b.toNat := by
    have valid : b.toNat.isValidChar := .inl (by omega)
    rw [CodePoint.toNat, Char.ofNat, dif_pos valid]
    rfl
  rw [unit_of_lt (by rw [code]; exact low), code, UInt8.ofNat_toNat]

theorem unit_escaped {b : UInt8} (high : 0x80 ≤ b) : unit (escaped b) = some [b] := by
  have low : 0x80 ≤ b.toNat := UInt8.le_iff_toNat_le.mp high
  have := b.toNat_lt
  rw [escaped, unit, if_pos (by constructor <;> simp <;> omega)]
  simp

theorem encodable_cons {c : CodePoint} {t : Text} {bs : Bytes} (has : unit c = some bs)
    (rest : Encodable t) : Encodable (c :: t) := by
  refine List.forall_mem_cons.mpr ⟨?_, rest⟩
  rw [has]
  rfl

theorem textFrom_spec (past : Nat) (name : Bytes) :
    Encodable (textFrom past name) ∧ bytes (textFrom past name) = name.drop past := by
  induction name generalizing past with
  | nil => cases past <;> exact ⟨nofun, rfl⟩
  | cons b rest ih =>
    cases past with
    | succ past => exact ih past
    | zero =>
      rw [textFrom]
      split
      · next small =>
        obtain ⟨encodable, same⟩ := ih 0
        refine ⟨encodable_cons (unit_ascii small) encodable, ?_⟩
        rw [bytes_cons (unit_ascii small), same]
        rfl
      · next large =>
        have high : 0x80 ≤ b := UInt8.not_lt.mp large
        split
        · next c starts =>
          obtain ⟨encodable, same⟩ := ih (c.utf8Size - 1)
          have size : c.utf8Size = c.utf8Size - 1 + 1 := (Nat.sub_add_cancel c.utf8Size_pos).symm
          have parts := eq_append_of_front starts
          rw [size, List.drop_succ_cons] at parts
          refine ⟨encodable_cons rfl encodable, ?_⟩
          rw [bytes_cons rfl, same]
          exact parts.symm
        · obtain ⟨encodable, same⟩ := ih 0
          refine ⟨encodable_cons (unit_escaped high) encodable, ?_⟩
          rw [bytes_cons (unit_escaped high), same]
          rfl

theorem encodable_text (name : Bytes) : Encodable (text name) := (textFrom_spec 0 name).1

theorem bytes_text (name : Bytes) : bytes (text name) = name := (textFrom_spec 0 name).2

end Reading

end DeclGen.FileName
