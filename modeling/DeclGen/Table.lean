import DeclGen.Text.Basic

/-!
Tables in order of first mention. A key is created when it is first mentioned and keeps its place; a
change under one key leaves all others as they are.
-/
namespace DeclGen

structure Table (κ α : Type) where
  entries : List (κ × α) := []

namespace Table

variable {κ α : Type} [DecidableEq κ]

def keys (t : Table κ α) : List κ := t.entries.map (·.1)

def get? (t : Table κ α) (key : κ) : Option α := t.entries.lookup key

def contains (t : Table κ α) (key : κ) : Bool := (t.get? key).isSome

def update (t : Table κ α) (key : κ) (fresh : α) (change : α → α) : Table κ α :=
  if t.contains key then
    ⟨t.entries.map fun entry => if entry.1 = key then (entry.1, change entry.2) else entry⟩
  else ⟨t.entries ++ [(key, change fresh)]⟩

def getD (t : Table κ α) (key : κ) (fresh : α) : α := (t.get? key).getD fresh

theorem keys_update (t : Table κ α) (key : κ) (fresh : α) (change : α → α) :
    (t.update key fresh change).keys = if t.contains key then t.keys else t.keys ++ [key] := by
  unfold update
  split
  · simp only [keys, List.map_map]
    apply List.map_congr_left
    intro entry _
    simp only [Function.comp]
    split <;> rfl
  · simp [keys]

theorem lookup_map_change (entries : List (κ × α)) (key other : κ) (change : α → α) :
    (entries.map fun entry => if entry.1 = key then (entry.1, change entry.2) else entry).lookup other
      = if other = key then (entries.lookup other).map change else entries.lookup other := by
  induction entries with
  | nil => simp
  | cons entry rest ih =>
    obtain ⟨name, value⟩ := entry
    by_cases here : other = name
    · subst here
      by_cases same : other = key <;> simp [same]
    · have apart : (other == name) = false := by simpa using here
      by_cases same : name = key
      · simpa [same ▸ apart, same, List.lookup_cons] using ih
      · simpa [apart, same, List.lookup_cons] using ih

theorem get?_update (t : Table κ α) (key other : κ) (fresh : α) (change : α → α) :
    (t.update key fresh change).get? other =
      if other = key then some (change (t.getD key fresh)) else t.get? other := by
  unfold update
  split
  · next known =>
    simp only [get?, lookup_map_change]
    split
    · next same =>
      obtain ⟨value, found⟩ := Option.isSome_iff_exists.1 known
      simp only [get?] at found
      simp [same, found, getD, get?]
    · rfl
  · next unknown =>
    have missing : t.entries.lookup key = none := Option.not_isSome_iff_eq_none.1 unknown
    simp only [get?, List.lookup_append]
    split
    · next same => simp [same, missing, getD, get?]
    · next apart =>
      have different : (other == key) = false := by simpa using apart
      simp [List.lookup_cons, different]

end Table
end DeclGen
