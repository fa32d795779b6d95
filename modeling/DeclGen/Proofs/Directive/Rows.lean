import DeclGen.Directive.Mask

/-!
The rows of a source. A line feed stands for itself in whatever bytes it occurs, and nothing else is
decoded to one; so the lines of a decoded source are its byte lines, decoded one by one. Masking works
on the byte lines and keeps them apart, so that rows are the same before and after.
-/
namespace DeclGen.Utf8

open CodePoint (char)
open Directive (lineFeed)

/-- A pending sequence wants a continuation byte next, and its value is past the control characters. -/
structure Pending.Sound (p : Pending) : Prop where
  low : 0x80 ≤ p.low
  value : 0x10 ≤ p.bits * 64 + (p.low - 0x80)

theorem ofNat_ne_lineFeed {n : Nat} (other : n ≠ 10) : Char.ofNat n ≠ '\n' := by
  unfold Char.ofNat
  by_cases valid : n.isValidChar
  · rw [dif_pos valid]
    exact fun same => other (congrArg Char.toNat same)
  · rw [dif_neg valid]
    decide

/-- What a byte `b` may give: a line feed only for a line feed, and a sound sequence. -/
structure Begins (b : Nat) (next : Text × Option Pending) : Prop where
  text : b ≠ 10 → char '\n' ∉ next.1
  pending : ∀ p ∈ next.2, p.Sound

theorem Begins.sequence {b : Nat} {p : Pending} (low : 0x80 ≤ p.low)
    (value : 0x10 ≤ p.bits * 64 + (p.low - 0x80)) : Begins b ([], some p) := by
  refine ⟨fun _ => List.not_mem_nil, ?_⟩
  intro q same
  rw [← Option.some.inj same]
  exact ⟨low, value⟩

theorem Begins.replaced {b : Nat} : Begins b ([replacement], none) :=
  ⟨fun _ => by decide, nofun⟩

theorem start_begins (b : Nat) : Begins b (start b) := by
  have ascii : Begins b ([Char.ofNat b], none) :=
    ⟨fun other => by simpa using (ofNat_ne_lineFeed other).symm, nofun⟩
  unfold start
  refine iteInduction (fun _ => ascii) fun notAscii => ?_
  refine iteInduction (fun _ => .replaced) fun leads => ?_
  refine iteInduction (fun _ => .sequence (Nat.le_refl _) (by dsimp only; omega)) fun long => ?_
  refine iteInduction (fun _ => .sequence (by decide) (by decide)) fun notFirst => ?_
  refine iteInduction (fun _ => .sequence (by decide) (by decide)) fun _ => ?_
  refine iteInduction (fun _ => .sequence (Nat.le_refl _) (by dsimp only; omega)) fun longer => ?_
  refine iteInduction (fun _ => .sequence (by decide) (by decide)) fun notFirstOfFour => ?_
  refine iteInduction (fun _ => .sequence (Nat.le_refl _) (by dsimp only; omega)) fun _ => ?_
  exact iteInduction (fun _ => .sequence (by decide) (by decide)) fun _ => .replaced

theorem step_begins {pending : Option Pending} (sound : ∀ p ∈ pending, p.Sound) (b : Nat) :
    Begins b (step pending b) := by
  have anew := start_begins b
  cases pending with
  | none => exact anew
  | some p =>
    have value := (sound p rfl).value
    simp only [step]
    refine iteInduction (fun fits => ?_) fun misfit => ?_
    · refine iteInduction (fun last => ?_) fun more => ?_
      · have past : p.bits * 64 + (b - 0x80) ≠ 10 := by omega
        exact ⟨fun _ => by simpa using (ofNat_ne_lineFeed past).symm, nofun⟩
      · exact .sequence (Nat.le_refl _) (by dsimp only; omega)
    · refine ⟨fun other member => ?_, anew.pending⟩
      rcases List.mem_cons.mp member with same | later
      · exact absurd same (by decide)
      · exact anew.text other later

theorem step_lineFeed {pending : Option Pending} (sound : ∀ p ∈ pending, p.Sound) :
    step pending 10 = (decodeFrom pending [] ++ [char '\n'], none) := by
  cases pending with
  | none => rfl
  | some p =>
    have low := (sound p rfl).low
    have misfit : ¬ (p.low ≤ 10 ∧ 10 ≤ p.high) := by omega
    simp only [step, misfit, if_false]
    rfl

theorem decodeFrom_append_lineFeed {pending : Option Pending} (sound : ∀ p ∈ pending, p.Sound)
    (line rest : Bytes) :
    decodeFrom pending (line ++ lineFeed :: rest) =
      decodeFrom pending line ++ char '\n' :: decode rest := by
  induction line generalizing pending with
  | nil =>
    change (step pending 10).1 ++ decodeFrom (step pending 10).2 rest = _
    rw [step_lineFeed sound, List.append_assoc]
    rfl
  | cons b line ih =>
    change (step pending b.toNat).1 ++ decodeFrom _ (line ++ lineFeed :: rest) = _
    rw [ih (step_begins sound _).pending, ← List.append_assoc]
    rfl

theorem decode_joinWith (lines : List Bytes) :
    decode (joinWith [lineFeed] lines) = joinWith [char '\n'] (lines.map decode) := by
  induction lines with
  | nil => rfl
  | cons line rest ih =>
    cases rest with
    | nil => rfl
    | cons next more =>
      have nothing : ∀ p ∈ (none : Option Pending), p.Sound := nofun
      calc decode (joinWith [lineFeed] (line :: next :: more))
          = decode (line ++ lineFeed :: joinWith [lineFeed] (next :: more)) := by
            rw [joinWith_cons _ _ (by simp), List.append_assoc, List.singleton_append]
        _ = decode line ++ char '\n' :: decode (joinWith [lineFeed] (next :: more)) :=
            decodeFrom_append_lineFeed nothing line _
        _ = joinWith [char '\n'] ((line :: next :: more).map decode) := by
            change _ = joinWith [char '\n'] (decode line :: (next :: more).map decode)
            rw [ih, joinWith_cons _ (decode line) (by simp), List.append_assoc]
            rfl

theorem lineFeed_not_mem_decodeFrom {pending : Option Pending} (sound : ∀ p ∈ pending, p.Sound)
    {line : Bytes} (whole : lineFeed ∉ line) : char '\n' ∉ decodeFrom pending line := by
  induction line generalizing pending with
  | nil =>
    rw [decodeFrom]
    split
    · decide
    · exact List.not_mem_nil
  | cons b rest ih =>
    have other : b.toNat ≠ 10 := by
      intro same
      have isLineFeed : lineFeed = b := UInt8.toNat_inj.mp same.symm
      exact whole (isLineFeed ▸ List.mem_cons_self)
    intro member
    rcases List.mem_append.mp member with here | later
    · exact (step_begins sound _).text other here
    · exact ih (step_begins sound _).pending (fun inside => whole (List.mem_cons_of_mem _ inside)) later

end DeclGen.Utf8

namespace DeclGen

theorem not_mem_extendFirst {α : Type} {sep x : α} {parts : List (List α)} (apart : x ≠ sep)
    (each : ∀ part ∈ parts, sep ∉ part) : ∀ part ∈ extendFirst x parts, sep ∉ part := by
  intro part member inside
  cases parts with
  | nil =>
    rw [extendFirst, List.mem_singleton] at member
    rw [member, List.mem_singleton] at inside
    exact apart inside.symm
  | cons first others =>
    rw [extendFirst] at member
    rcases List.mem_cons.mp member with rfl | later
    · rcases List.mem_cons.mp inside with same | deeper
      · exact apart same.symm
      · exact each first List.mem_cons_self deeper
    · exact each part (List.mem_cons_of_mem _ later) inside

theorem not_mem_pieces {α : Type} [DecidableEq α] (sep : α) (xs : List α) :
    ∀ part ∈ pieces sep xs, sep ∉ part := by
  induction xs with
  | nil => simp [pieces]
  | cons x rest ih =>
    rw [pieces]
    split
    · intro part member
      rcases List.mem_cons.mp member with rfl | later
      · exact List.not_mem_nil
      · exact ih part later
    · next apart => exact not_mem_extendFirst apart ih

namespace Directive

open Utf8 (Bytes)

theorem byteLines_ne_nil (source : Bytes) : byteLines source ≠ [] := pieces_ne_nil lineFeed source

theorem lines_decode (source : Bytes) :
    pieces (.char '\n') (Utf8.decode source) = (byteLines source).map Utf8.decode := by
  have cut : source = joinWith [lineFeed] (byteLines source) := (joinWith_pieces lineFeed source).symm
  have nonempty : (byteLines source).map Utf8.decode ≠ [] := by
    simpa using byteLines_ne_nil source
  have nothing : ∀ p ∈ (none : Option Utf8.Pending), p.Sound := nofun
  calc pieces (.char '\n') (Utf8.decode source)
      = pieces (.char '\n') (Utf8.decode (joinWith [lineFeed] (byteLines source))) := by rw [← cut]
    _ = pieces (.char '\n') (joinWith [.char '\n'] ((byteLines source).map Utf8.decode)) := by
      rw [Utf8.decode_joinWith]
    _ = (byteLines source).map Utf8.decode := by
      refine pieces_joinWith nonempty ?_
      intro text member
      obtain ⟨line, listed, rfl⟩ := List.mem_map.mp member
      exact Utf8.lineFeed_not_mem_decodeFrom nothing (not_mem_pieces lineFeed source line listed)

theorem lineFeed_not_mem_maskLine {line : Bytes} (whole : lineFeed ∉ line) :
    lineFeed ∉ maskLine line := by
  unfold maskLine
  split
  · intro member
    exact absurd (List.eq_of_mem_replicate member) (by decide)
  · exact whole

theorem byteLines_mask (source : Bytes) :
    byteLines (mask source) = (byteLines source).map maskLine := by
  refine pieces_joinWith ?_ ?_
  · simpa using byteLines_ne_nil source
  · intro masked member
    obtain ⟨line, listed, rfl⟩ := List.mem_map.mp member
    exact lineFeed_not_mem_maskLine (not_mem_pieces lineFeed source line listed)

theorem maskLine_of_not_directive {line : Bytes} (plain : isDirectiveLine (Utf8.decode line) = false) :
    maskLine line = line := by
  simp [maskLine, plain]

/-- Sources that are masked to the same bytes have the same line in every row, unless it is a
directive in one of them. -/
theorem byteLine_eq_of_mask_eq {first second : Bytes} (same : mask first = mask second) {row : Nat}
    (plain : ∀ line, (byteLines first)[row]? = some line → isDirectiveLine (Utf8.decode line) = false)
    (plainToo : ∀ line, (byteLines second)[row]? = some line →
      isDirectiveLine (Utf8.decode line) = false) :
    (byteLines first)[row]? = (byteLines second)[row]? := by
  have masked : (byteLines first).map maskLine = (byteLines second).map maskLine := by
    rw [← byteLines_mask, ← byteLines_mask, same]
  have rows := congrArg (fun lines => lines[row]?) masked
  simp only [List.getElem?_map] at rows
  cases here : (byteLines first)[row]? with
  | none =>
    rw [here, Option.map_none] at rows
    exact (Option.map_eq_none_iff.mp rows.symm).symm
  | some line =>
    rw [here, Option.map_some, maskLine_of_not_directive (plain line here)] at rows
    obtain ⟨other, there, equal⟩ := Option.map_eq_some_iff.mp rows.symm
    rw [maskLine_of_not_directive (plainToo other there)] at equal
    rw [there, equal]

end Directive
end DeclGen
