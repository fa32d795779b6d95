import DeclGen.Table
import Mathlib.Data.List.Induction

/-!
A table refines the log of what was done to it. The log is a list of steps, some of which name a key;
such a step changes the entry under its key, which is created if it is new. The keys are then those
of the log in order of first mention, and the entry under a key comes from the steps that name it and
from no others.
-/
namespace DeclGen.Table

variable {κ α σ : Type} [DecidableEq κ]

theorem contains_iff_mem_keys (t : Table κ α) (key : κ) : t.contains key = true ↔ key ∈ t.keys := by
  rw [contains, get?, keys]
  induction t.entries with
  | nil => simp
  | cons entry rest ih =>
    by_cases same : key = entry.1
    · simp [same]
    · have apart : (key == entry.1) = false := by simpa using same
      rw [List.lookup_cons, apart, List.map_cons, List.mem_cons]
      simp only [same, false_or]
      exact ih

theorem entries_update_alone {t : Table κ α} {key : κ} {fresh value : α}
    (alone : t.entries = [] ∧ value = fresh ∨ t.entries = [(key, value)]) (change : α → α) :
    (t.update key fresh change).entries = [(key, change value)] := by
  rcases alone with ⟨none, rfl⟩ | one
  · simp [update, contains, get?, none]
  · simp [update, contains, get?, one]

theorem update_update (t : Table κ α) (key : κ) (first second : α) :
    (t.update key first fun _ => first).update key second (fun _ => second) =
      t.update key second fun _ => second := by
  have known : (t.update key first fun _ => first).contains key = true := by
    simp [contains, get?_update]
  rw [update, if_pos known]
  unfold update
  split
  · simp only [List.map_map]
    refine congrArg Table.mk (List.map_congr_left fun entry _ => ?_)
    by_cases same : entry.1 = key
    · simp [same]
    · simp [same]
  · next unknown =>
    rw [contains_iff_mem_keys] at unknown
    have others : ∀ entry ∈ t.entries, entry.1 ≠ key :=
      fun entry member same => unknown (List.mem_map.mpr ⟨entry, member, same⟩)
    have unchanged : (t.entries.map fun entry => if entry.1 = key then (entry.1, second) else entry) =
        t.entries := by
      rw [List.map_congr_left (g := id), List.map_id]
      intro entry member
      exact if_neg (others entry member)
    rw [List.map_append, unchanged]
    simp

section Log

variable (key? : σ → Option κ) (fresh : κ → α) (change : σ → α → α)

def record (t : Table κ α) (step : σ) : Table κ α :=
  match key? step with
  | none => t
  | some key => t.update key (fresh key) (change step)

def replay (key : κ) (log : List σ) : α :=
  (log.filter fun step => key? step = some key).foldl (fun entry step => change step entry) (fresh key)

/-- The keys that a log mentions, each where it is mentioned first. -/
def mentioned (log : List σ) : List κ := (log.filterMap key?).eraseDups

variable {key? fresh change}

theorem mentioned_silent {log : List σ} {step : σ} (silent : key? step = none) :
    mentioned key? (log ++ [step]) = mentioned key? log := by
  simp [mentioned, silent]

theorem mentioned_concat {log : List σ} {step : σ} {key : κ} (named : key? step = some key) :
    mentioned key? (log ++ [step]) =
      if key ∈ mentioned key? log then mentioned key? log else mentioned key? log ++ [key] := by
  simp only [mentioned, List.mem_eraseDups, List.filterMap_append, List.eraseDups_append]
  rw [List.filterMap_cons_some named, List.filterMap_nil, List.removeAll]
  by_cases known : key ∈ log.filterMap key?
  · rw [if_pos known, List.filter_cons_of_neg (by simpa using known)]
    simp
  · rw [if_neg known, List.filter_cons_of_pos (by simpa using known)]
    simp [List.eraseDups_cons]

theorem replay_other {log : List σ} {step : σ} {key : κ} (other : key? step ≠ some key) :
    replay key? fresh change key (log ++ [step]) = replay key? fresh change key log := by
  simp [replay, List.filter_append, other]

theorem replay_concat {log : List σ} {step : σ} {key : κ} (named : key? step = some key) :
    replay key? fresh change key (log ++ [step]) =
      change step (replay key? fresh change key log) := by
  simp [replay, List.filter_append, named]

theorem replay_unmentioned {log : List σ} {key : κ} (new : key ∉ mentioned key? log) :
    replay key? fresh change key log = fresh key := by
  rw [mentioned, List.mem_eraseDups, List.mem_filterMap] at new
  have none : log.filter (fun step => key? step = some key) = [] := by
    refine List.filter_eq_nil_iff.mpr ?_
    intro step member named
    exact new ⟨step, member, of_decide_eq_true named⟩
  rw [replay, none, List.foldl_nil]

theorem entries_foldl_record (log : List σ) :
    (log.foldl (record key? fresh change) {}).entries =
      (mentioned key? log).map fun key => (key, replay key? fresh change key log) := by
  induction log using List.reverseRecOn with
  | nil => rfl
  | append_singleton log step ih =>
    rw [List.foldl_append, List.foldl_cons, List.foldl_nil, record]
    cases named : key? step with
    | none =>
      simp only
      rw [ih, mentioned_silent named]
      refine List.map_congr_left fun key _ => ?_
      rw [replay_other (by simp [named])]
    | some key =>
      have keys : (log.foldl (record key? fresh change) {}).keys = mentioned key? log := by
        simp [Table.keys, ih, Function.comp_def]
      have known := contains_iff_mem_keys (log.foldl (record key? fresh change) {}) key
      rw [keys] at known
      simp only
      rw [mentioned_concat named, update]
      -- the entry under the key changes, or stands last; all others stay as they are
      by_cases old : key ∈ mentioned key? log
      · rw [if_pos (known.mpr old), if_pos old, ih, List.map_map]
        refine List.map_congr_left fun other _ => ?_
        by_cases same : other = key
        · simp [same, replay_concat named]
        · have apart : key? step ≠ some other := by
            rw [named]
            exact fun found => same (Option.some.inj found).symm
          simp [same, replay_other apart]
      · have others : (mentioned key? log).map (fun key => (key, replay key? fresh change key log)) =
            (mentioned key? log).map fun key =>
              (key, replay key? fresh change key (log ++ [step])) := by
          refine List.map_congr_left fun other member => ?_
          have apart : key? step ≠ some other := by
            rw [named]
            exact fun found => old (Option.some.inj found ▸ member)
          rw [replay_other apart]
        rw [if_neg (fun found => old (known.mp found)), if_neg old, ih, List.map_append,
          List.map_singleton, replay_concat named, replay_unmentioned old, others]

theorem lookup_map_pair (keys : List κ) (f : κ → α) (key : κ) :
    (keys.map fun other => (other, f other)).lookup key = if key ∈ keys then some (f key) else none := by
  induction keys with
  | nil => rfl
  | cons other rest ih =>
    rw [List.map_cons, List.lookup_cons]
    by_cases same : key = other
    · simp [same]
    · have apart : (key == other) = false := by simpa using same
      simp [apart, same, ih]

theorem getD_foldl_record (log : List σ) (key : κ) :
    (log.foldl (record key? fresh change) {}).getD key (fresh key) =
      replay key? fresh change key log := by
  rw [getD, get?, entries_foldl_record, lookup_map_pair]
  split
  · rfl
  · next new => rw [replay_unmentioned new, Option.getD_none]

end Log

end DeclGen.Table
