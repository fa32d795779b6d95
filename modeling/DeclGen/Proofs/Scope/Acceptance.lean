import DeclGen.Proofs.Scope.Endings
import DeclGen.Proofs.Scope.Following

/-!
Which streams a tracker gets through. The answer is read off the stream alone, with nothing kept but
the declarations that are open: frames, skip depth and function stack do not occur in it.
-/
namespace DeclGen.Scope

/-- Some event does not fit, or something is open at the end. -/
def Breaks (path : Path) (around : List Declaration) : List Event → Prop
  | [] => around ≠ []
  | event :: rest => Misfit path around event ∨ Breaks path (openAfter around event) rest

/-- Some first part of the stream ends more declarations than the `count` that were open and those
that it begins. -/
def Excess (count : Nat) (events : List Event) : Prop :=
  ∃ first, first <+: events ∧ count + enters first < exits first

section Counting

variable {count : Nat} {d : Declaration} {rest : List Event}

theorem enters_enter : enters (.enter d :: rest) = enters rest + 1 := by simp [enters]

theorem enters_exit : enters (.exit d :: rest) = enters rest := by simp [enters]

theorem exits_enter : exits (.enter d :: rest) = exits rest := by simp [exits]

theorem exits_exit : exits (.exit d :: rest) = exits rest + 1 := by simp [exits]

theorem not_excess_nil : ¬ Excess count [] := by
  rintro ⟨first, part, more⟩
  rw [List.prefix_nil.mp part] at more
  simp [enters, exits] at more

theorem excess_cons {event : Event} :
    Excess count (event :: rest) ↔
      ∃ first, first <+: rest ∧ count + enters (event :: first) < exits (event :: first) := by
  constructor
  · rintro ⟨first, part, more⟩
    rcases List.prefix_cons_iff.mp part with rfl | ⟨tail, rfl, inside⟩
    · simp [enters, exits] at more
    · exact ⟨tail, inside, more⟩
  · rintro ⟨first, part, more⟩
    exact ⟨event :: first, List.prefix_cons_iff.mpr (.inr ⟨first, rfl, part⟩), more⟩

theorem excess_enter : Excess count (.enter d :: rest) ↔ Excess (count + 1) rest := by
  rw [excess_cons]
  refine exists_congr fun first => and_congr_right fun _ => ?_
  rw [enters_enter, exits_enter]
  omega

theorem excess_exit : Excess (count + 1) (.exit d :: rest) ↔ Excess count rest := by
  rw [excess_cons]
  refine exists_congr fun first => and_congr_right fun _ => ?_
  rw [enters_exit, exits_exit]
  omega

theorem excess_surplus_exit : Excess 0 (.exit d :: rest) := by
  refine ⟨[.exit d], ⟨rest, rfl⟩, ?_⟩
  simp [enters, exits]

end Counting

/-- The first misfit of a stream, told by counts and by the openings alone. What comes after a
surplus end does not matter, since the surplus itself counts. -/
theorem breaks_iff (path : Path) (around : List Declaration) (events : List Event) :
    Breaks path around events ↔
      Excess around.length events ∨ around.length + enters events ≠ exits events ∨
        ∃ o ∈ openings around events, Offends path o := by
  induction events generalizing around with
  | nil =>
    have total : around.length + enters [] ≠ exits [] ↔ around ≠ [] := by
      simp [enters, exits]
    simp [Breaks, openings, not_excess_nil, total]
  | cons event rest ih =>
    cases event with
    | enter d =>
      have total : around.length + enters (.enter d :: rest) ≠ exits (.enter d :: rest) ↔
          (d :: around).length + enters rest ≠ exits rest := by
        rw [enters_enter, exits_enter, List.length_cons]
        omega
      rw [Breaks, openAfter, ih, excess_enter, total]
      simp only [Misfit, openings, List.mem_cons, exists_eq_or_imp, List.length_cons]
      exact or_left_comm.trans (or_congr_right or_left_comm)
    | exit d =>
      cases around with
      | nil =>
        have surplus : Excess ([] : List Declaration).length (.exit d :: rest) := excess_surplus_exit
        simp only [Breaks, Misfit, surplus, true_or]
      | cons inner outer =>
        have total : (inner :: outer).length + enters (.exit d :: rest) ≠ exits (.exit d :: rest) ↔
            outer.length + enters rest ≠ exits rest := by
          rw [enters_exit, exits_exit, List.length_cons]
          omega
        rw [Breaks, openAfter, List.tail_cons, ih, total, List.length_cons, excess_exit]
        simp [Misfit, openings]

theorem conclude_refuses_iff {path : Path} {around : List Declaration} {s : State}
    (agree : StacksAgree s) (follows : Follows path around s) (events : List Event) :
    (∃ error, s.conclude events = .error error) ↔ Breaks path around events := by
  induction events generalizing s around with
  | nil =>
    change (∃ error, s.finish = .error error) ↔ around ≠ []
    rw [finish_refuses_iff, ← follows.length]
    simp
  | cons event rest ih =>
    have fits := accepts_iff agree follows event
    rw [Breaks]
    by_cases accepted : ∃ next, Accepts s event next
    · obtain ⟨next, step⟩ := accepted
      have fit := fits.mp ⟨next, step⟩
      rw [conclude_of_accepts step, ih (agree.step step) (follows.step step)]
      simp [fit]
    · have misfit : Misfit path around event :=
        Classical.byContradiction fun fit => accepted (fits.mpr fit)
      simp [conclude_of_refused agree accepted, misfit]

/-- The tracker refuses a stream exactly if some first part ends more declarations than it begins,
or the numbers of beginnings and ends differ, or a declaration that is read has an unknown kind, or a
function that is read begins inside an annotated function. Which declarations the ends name changes
neither that nor the unit. -/
theorem track_refuses_iff (path : Path) (events : List Event) :
    ((∃ error, track path events = .error error) ↔
      (∃ first, first <+: events ∧ enters first < exits first) ∨
      enters events ≠ exits events ∨
      (∃ o ∈ openings [] events, Read path o ∧ o.decl.kind ∉ DeclKind.known) ∨
      (∃ o ∈ openings [] events, Read path o ∧ o.decl.kind.isFunctionKind = true ∧ InFunction o)) ∧
    ∀ others, others.map beginning? = events.map beginning? →
      (track path others).toOption = (track path events).toOption := by
  have agree := stacksAgree_initial path
  refine ⟨?_, fun others same => conclude_noting agree same []⟩
  rw [track_eq_conclude, conclude_refuses_iff agree (follows_initial path), breaks_iff, Excess]
  simp only [Offends, and_or_left, exists_or, List.length_nil, Nat.zero_add]

namespace Sample

def outer : Declaration := declaration .function "f" "CGFUNCTION()"

def inner : Declaration := declaration .function "g" ""

/-- A function around a declaration of another file, which holds all that is refused elsewhere. -/
def passing (last : Declaration) : List Event :=
  let odd := declaration (.unknown "enum".text) "odd" ""
  let other := declaration .record "Other" "" (Path.ofText "far.h".text)
  [.enter outer, .enter other, .enter outer, .enter odd, .exit odd, .exit outer, .exit other,
    .exit last]

def nested : List Event := [.enter outer, .enter inner, .exit inner, .exit outer]

end Sample

theorem track_refuses_iff_sample :
    (Sample.passing Sample.inner).map beginning? = (Sample.passing Sample.outer).map beginning? ∧
      (track Path.here (Sample.passing Sample.inner)).toOption =
        (track Path.here (Sample.passing Sample.outer)).toOption ∧
      (track Path.here (Sample.passing Sample.outer)).toOption.isSome = true ∧
      ∃ error, track Path.here Sample.nested = .error error := by
  have same : (Sample.passing Sample.inner).map beginning? =
      (Sample.passing Sample.outer).map beginning? := by
    simp only [Sample.passing, List.map_cons, List.map_nil, beginning?]
  have read : Read Path.here ⟨Sample.inner, [Sample.outer]⟩ := by
    refine ⟨rfl, ?_⟩
    intro d member
    rw [List.mem_singleton.mp member]
    exact not_passedOver rfl fun _ => by decide +kernel
  have inside : InFunction ⟨Sample.inner, [Sample.outer]⟩ :=
    ⟨Sample.outer, List.mem_singleton_self _, rfl, by decide +kernel⟩
  refine ⟨same, (track_refuses_iff Path.here _).2 _ same, by decide +kernel, ?_⟩
  apply (track_refuses_iff Path.here Sample.nested).1.mpr
  exact .inr (.inr (.inr ⟨_, .tail _ (.head _), read, rfl, inside⟩))

end DeclGen.Scope
