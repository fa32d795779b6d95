import DeclGen.Proofs.Handler.Trace

/-!
Merged handler sets. Sets are values: merging reads them and makes another one. To see in a run of the
merged set which call is owed to which set, the handlers are marked with the place of their set before
the sets are merged. The calls with one mark are then exactly the calls that this set makes alone, and
at each entity the marks ascend.
-/
namespace DeclGen

structure Marked (H : HandlerKind → Type) (kind : HandlerKind) where
  place : Nat
  handler : H kind

namespace Marked

variable {H : HandlerKind → Type} {kind : HandlerKind}

def from? (place : Nat) (marked : Marked H kind) : Option (H kind) :=
  if marked.place = place then some marked.handler else none

theorem filterMap_from? (place : Nat) (i : Nat) (handlers : List (H kind)) :
    (handlers.map (Marked.mk i)).filterMap (from? place) = if i = place then handlers else [] := by
  rw [List.filterMap_map]
  split
  · next same =>
    have keeps : (from? place ∘ Marked.mk i : H kind → Option (H kind)) = some :=
      funext fun _ => if_pos same
    rw [keeps, List.filterMap_some]
  · next other => exact List.filterMap_eq_nil_iff.mpr fun _ _ => if_neg other

end Marked

section Lists

theorem joinWith_concat (sep last : Text) {parts : List Text} (nonempty : parts ≠ []) :
    joinWith sep (parts ++ [last]) = joinWith sep parts ++ sep ++ last := by
  induction parts with
  | nil => exact absurd rfl nonempty
  | cons part rest ih =>
    cases rest with
    | nil => rfl
    | cons next others =>
      rw [List.cons_append, joinWith_cons sep part (by simp), ih (by simp), joinWith]
      simp only [List.append_assoc]

theorem flatMap_zipIdx {α β : Type} (f : α → List β) (xs : List α) (first place : Nat) :
    ((xs.zipIdx first).flatMap fun entry => if entry.2 = first + place then f entry.1 else []) =
      (xs[place]?.map f).getD [] := by
  induction xs generalizing first place with
  | nil => rfl
  | cons x rest ih =>
    rw [List.zipIdx_cons, List.flatMap_cons]
    cases place with
    | zero =>
      -- the numbers that follow are greater
      have later : ((rest.zipIdx (first + 1)).flatMap
          fun entry => if entry.2 = first + 0 then f entry.1 else []) = [] := by
        refine List.flatMap_eq_nil_iff.mpr fun entry member => if_neg ?_
        have bound := List.le_snd_of_mem_zipIdx member
        omega
      rw [later, if_pos (Nat.add_zero first).symm, List.append_nil]
      rfl
    | succ place =>
      have number : first + (place + 1) = first + 1 + place := by omega
      rw [if_neg (by simp), List.nil_append, number, ih]
      rfl

end Lists

namespace Call

variable {H : HandlerKind → Type}

def unmarked (call : Call (Marked H)) : Call H := call.map fun _ marked => marked.handler

def from? (place : Nat) (call : Call (Marked H)) : Option (Call H) :=
  (call.handler.from? place).map fun handler => ⟨call.kind, handler, call.subject⟩

end Call

namespace HandlerSet

variable {H K : HandlerKind → Type}

def mark (set : HandlerSet H) (place : Nat) : HandlerSet (Marked H) :=
  set.map fun _ handler => ⟨place, handler⟩

def unmark (set : HandlerSet (Marked H)) : HandlerSet H := set.map fun _ marked => marked.handler

def markAll (sets : List (HandlerSet H)) : List (HandlerSet (Marked H)) :=
  sets.zipIdx.map fun entry => entry.1.mark entry.2

def part (whole : HandlerSet (Marked H)) (place : Nat) (name : Text) : HandlerSet H where
  name := name
  handlersFor := fun kind => (whole.handlersFor kind).filterMap (Marked.from? place)

/-- The set has the handlers of all the sets, one set after the other, and nothing else. -/
structure Comprises (sets : List (HandlerSet H)) (merged : HandlerSet H) : Prop where
  handlersFor : ∀ kind, merged.handlersFor kind = sets.flatMap fun set => set.handlersFor kind
  size : merged.size = sets.foldl (fun total set => total + set.size) 0
  name : merged.name = joinWith [CodePoint.char '+'] (sets.map HandlerSet.name)

section Merge

theorem size_merge (first second : HandlerSet H) :
    (first.merge second).size = first.size + second.size := by
  simp only [HandlerSet.size, HandlerKind.all, List.foldl_cons, List.foldl_nil, count, merge,
    List.length_append]
  omega

theorem comprises_single (set : HandlerSet H) : Comprises [set] set where
  handlersFor := fun kind => (List.flatMap_singleton (fun s => s.handlersFor kind) set).symm
  size := (Nat.zero_add set.size).symm
  name := rfl

theorem Comprises.merge {sets : List (HandlerSet H)} {merged : HandlerSet H}
    (comprises : Comprises sets merged) (nonempty : sets ≠ []) (next : HandlerSet H) :
    Comprises (sets ++ [next]) (merged.merge next) where
  handlersFor := by
    intro kind
    rw [List.flatMap_append, List.flatMap_singleton, ← comprises.handlersFor kind]
    rfl
  size := by
    rw [size_merge, comprises.size, List.foldl_append]
    rfl
  name := by
    have names : sets.map HandlerSet.name ≠ [] := by simpa using nonempty
    rw [List.map_append, List.map_singleton, joinWith_concat _ _ names, ← comprises.name]
    rfl

theorem Comprises.foldl {sets : List (HandlerSet H)} {merged : HandlerSet H}
    (comprises : Comprises sets merged) (nonempty : sets ≠ []) (rest : List (HandlerSet H)) :
    Comprises (sets ++ rest) (rest.foldl HandlerSet.merge merged) := by
  induction rest generalizing sets merged with
  | nil =>
    rw [List.append_nil]
    exact comprises
  | cons next rest ih =>
    have further := ih (comprises.merge nonempty next) (by simp)
    rw [List.append_assoc] at further
    exact further

theorem comprises_of_mergeAll? {sets : List (HandlerSet H)} {merged : HandlerSet H}
    (made : mergeAll? sets = some merged) : Comprises sets merged := by
  cases sets with
  | nil => cases made
  | cons first rest =>
    cases made
    exact (comprises_single first).foldl (List.cons_ne_nil first []) rest

theorem foldl_merge_map (f : (kind : HandlerKind) → H kind → K kind) (first : HandlerSet H)
    (rest : List (HandlerSet H)) :
    (rest.map fun set => set.map f).foldl merge (first.map f) = (rest.foldl merge first).map f := by
  induction rest generalizing first with
  | nil => rfl
  | cons next rest ih =>
    have step : (first.map f).merge (next.map f) = (first.merge next).map f := by
      simp only [merge, HandlerSet.map, List.map_append]
    rw [List.map_cons, List.foldl_cons, step, ih, List.foldl_cons]

theorem mergeAll?_map (f : (kind : HandlerKind) → H kind → K kind) (sets : List (HandlerSet H)) :
    mergeAll? (sets.map fun set => set.map f) = (mergeAll? sets).map fun set => set.map f := by
  cases sets with
  | nil => rfl
  | cons first rest => exact congrArg some (foldl_merge_map f first rest)

end Merge

section Marks

theorem unmark_mark (set : HandlerSet H) (place : Nat) : (set.mark place).unmark = set := by
  simp only [unmark, mark, HandlerSet.map, List.map_map]
  change (⟨set.name, fun kind => (set.handlersFor kind).map id⟩ : HandlerSet H) = set
  simp only [List.map_id]

theorem unmark_markAll (sets : List (HandlerSet H)) : (markAll sets).map unmark = sets := by
  have each : (unmark ∘ fun entry : HandlerSet H × Nat => entry.1.mark entry.2) = Prod.fst :=
    funext fun entry => unmark_mark entry.1 entry.2
  rw [markAll, List.map_map, each, List.zipIdx_map_fst]

variable {sets : List (HandlerSet H)} {whole : HandlerSet (Marked H)}

theorem handlersFor_whole (made : mergeAll? (markAll sets) = some whole) (kind : HandlerKind) :
    whole.handlersFor kind =
      sets.zipIdx.flatMap fun entry => (entry.1.handlersFor kind).map (Marked.mk entry.2) := by
  rw [(comprises_of_mergeAll? made).handlersFor kind, markAll, List.flatMap_map]
  rfl

theorem part_whole (made : mergeAll? (markAll sets) = some whole) {place : Nat} {set : HandlerSet H}
    (there : sets[place]? = some set) : whole.part place set.name = set := by
  have handlers : ∀ kind, (whole.handlersFor kind).filterMap (Marked.from? place) =
      set.handlersFor kind := by
    intro kind
    have chosen := flatMap_zipIdx (fun s => s.handlersFor kind) sets 0 place
    rw [there, Nat.zero_add] at chosen
    rw [handlersFor_whole made, List.filterMap_flatMap]
    simp only [Marked.filterMap_from?]
    exact chosen
  simp only [part, handlers]

theorem callsAt_part (whole : HandlerSet (Marked H)) (place : Nat) (name : Text) (target : Target) :
    (whole.part place name).callsAt target = (whole.callsAt target).filterMap (Call.from? place) := by
  simp only [callsAt, callsWith, part, List.filterMap_map, List.map_filterMap]
  rfl

theorem trace_part (whole : HandlerSet (Marked H)) (place : Nat) (name : Text) (unit : SourceUnit) :
    (whole.part place name).trace unit = (whole.trace unit).filterMap (Call.from? place) := by
  rw [trace_eq_flatMap, trace_eq_flatMap, List.filterMap_flatMap]
  exact congrArg unit.targets.flatMap (funext (whole.callsAt_part place name))

theorem callsAt_ascends (made : mergeAll? (markAll sets) = some whole) (target : Target) :
    (whole.callsAt target).Pairwise fun earlier later =>
      earlier.handler.place ≤ later.handler.place := by
  rw [callsAt, callsWith, List.pairwise_map, handlersFor_whole made, List.pairwise_flatMap]
  constructor
  · intro entry _
    rw [List.pairwise_map]
    exact List.pairwise_of_forall fun _ _ => Nat.le_refl entry.2
  · have numbers : sets.zipIdx.Pairwise fun entry other => entry.2 < other.2 := by
      have ascending : (sets.zipIdx.map Prod.snd).Pairwise (· < ·) := by
        rw [List.zipIdx_map_snd]
        exact List.pairwise_lt_range'
      exact List.pairwise_map.mp ascending
    refine numbers.imp fun before x inFirst y inSecond => ?_
    obtain ⟨_, _, rfl⟩ := List.mem_map.mp inFirst
    obtain ⟨_, _, rfl⟩ := List.mem_map.mp inSecond
    exact Nat.le_of_lt before

end Marks

/-- Sets that are merged from the left give one set with all their handlers, in their order, and each
of them is found in it as it was. In a run of this set the calls that are owed to one of the sets are
the calls that this set makes alone, in the same order; and at each entity the handlers of an earlier
set are called before those of a later one. -/
theorem merged_trace (first : HandlerSet H) (rest : List (HandlerSet H)) (unit : SourceUnit) :
    let sets := first :: rest
    ∃ merged whole, mergeAll? sets = some merged ∧ Comprises sets merged ∧
      mergeAll? (markAll sets) = some whole ∧ whole.unmark = merged ∧
      (whole.trace unit).map Call.unmarked = merged.trace unit ∧
      (∀ place set, sets[place]? = some set → whole.part place set.name = set ∧
        (whole.trace unit).filterMap (Call.from? place) = set.trace unit) ∧
      whole.trace unit = unit.targets.flatMap whole.callsAt ∧
      ∀ target ∈ unit.targets, (whole.callsAt target).Pairwise fun earlier later =>
        earlier.handler.place ≤ later.handler.place := by
  intro sets
  obtain ⟨whole, made⟩ : ∃ whole, mergeAll? (markAll sets) = some whole := ⟨_, rfl⟩
  have merged : mergeAll? sets = some whole.unmark := by
    have unmarked := mergeAll?_map (fun _ marked => marked.handler) (markAll sets)
    rw [made] at unmarked
    exact (congrArg mergeAll? (unmark_markAll sets)).symm.trans unmarked
  refine ⟨_, whole, merged, comprises_of_mergeAll? merged, made, rfl, (whole.trace_map _ unit).symm, ?_,
    whole.trace_eq_flatMap unit, fun target _ => callsAt_ascends made target⟩
  intro place set there
  have kept := part_whole made there
  refine ⟨kept, ?_⟩
  rw [← whole.trace_part place set.name unit, kept]

end HandlerSet
end DeclGen
