/-!
Values under keys, in the order in which the keys first came.
-/

namespace Layerfile

variable {κ α : Type} [DecidableEq κ]

/-- Replaces the value of `key`, or adds it behind the others. -/
def put (key : κ) (value : α) : List (κ × α) → List (κ × α)
  | [] => [(key, value)]
  | (name, old) :: entries =>
    if name = key then (key, value) :: entries else (name, old) :: put key value entries

/-- Adds a value of `key` behind the others, unless there is one already. -/
def putNew (key : κ) (value : α) : List (κ × α) → List (κ × α)
  | [] => [(key, value)]
  | (name, old) :: entries =>
    if name = key then (name, old) :: entries else (name, old) :: putNew key value entries

def remove (key : κ) (entries : List (κ × α)) : List (κ × α) :=
  entries.filter fun entry => entry.1 ≠ key

theorem lookup_put (name key : κ) (value : α) (entries : List (κ × α)) :
    (put key value entries).lookup name =
      if name = key then some value else entries.lookup name := by
  induction entries with
  | nil => grind [put]
  | cons entry entries ih => grind [put]

theorem mem_put {key : κ} {value : α} {entry : κ × α} {entries : List (κ × α)}
    (h : entry ∈ put key value entries) : entry = (key, value) ∨ entry ∈ entries := by
  induction entries with
  | nil => exact .inl (List.mem_singleton.mp h)
  | cons other entries ih => grind [put]

theorem keys_put (key : κ) (value : α) (entries : List (κ × α)) :
    (put key value entries).map Prod.fst =
      if key ∈ entries.map Prod.fst then entries.map Prod.fst
      else entries.map Prod.fst ++ [key] := by
  induction entries with
  | nil => rfl
  | cons entry entries ih => grind [put]

theorem nodup_keys_put {entries : List (κ × α)} (h : (entries.map Prod.fst).Nodup) (key : κ)
    (value : α) : ((put key value entries).map Prod.fst).Nodup := by
  rw [keys_put]
  split
  · exact h
  · next hnew =>
      refine List.nodup_append.mpr ⟨h, List.pairwise_singleton _ _, ?_⟩
      rintro name hname _ hkey rfl
      exact hnew (List.mem_singleton.mp hkey ▸ hname)

theorem map_put {μ : Type} [DecidableEq μ] {f : κ → μ} (hf : Function.Injective f) (key : κ)
    (value : α) (entries : List (κ × α)) :
    (put key value entries).map (Prod.map f id) =
      put (f key) value (entries.map (Prod.map f id)) := by
  induction entries with
  | nil => rfl
  | cons entry entries ih =>
      obtain ⟨name, old⟩ := entry
      by_cases hname : name = key
      · simp [put, hname]
      · simp [put, hname, hf.eq_iff, ih]

theorem lookup_putNew (name key : κ) (value : α) (entries : List (κ × α)) :
    (putNew key value entries).lookup name =
      if name = key then some ((entries.lookup key).getD value) else entries.lookup name := by
  induction entries with
  | nil => grind [putNew]
  | cons entry entries ih => grind [putNew]

theorem lookup_remove (name key : κ) (entries : List (κ × α)) :
    (remove key entries).lookup name =
      if name = key then none else entries.lookup name := by
  induction entries with
  | nil => grind [remove]
  | cons entry entries ih => grind [remove]

end Layerfile
