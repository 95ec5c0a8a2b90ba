/-
This file proves how lookups, entries and keys of a table belong together.
-/

import WorkflowEngine.Table
import Mathlib.Data.List.Nodup

namespace WorkflowEngine

namespace Table

def mapValues {K V W : Type} (change : V → W) (table : Table K V) : Table K W :=
  table.map fun entry => (entry.1, change entry.2)

variable {K V : Type} [DecidableEq K] {table : Table K V} {key : K} {value : V}

/-- A value that is looked up belongs to an entry. -/
theorem mem_of_get (found : table.get? key = some value) : (key, value) ∈ table := by
  induction table with
  | nil => cases found
  | cons entry rest inductionHypothesis =>
    obtain ⟨other, old⟩ := entry
    by_cases same : other = key
    · simp only [get?, if_pos same, Option.some.injEq] at found
      simp [same, found]
    · simp only [get?, if_neg same] at found
      exact List.mem_cons_of_mem _ (inductionHypothesis found)

/-- Among distinct keys every entry is looked up. -/
theorem get_of_mem (distinct : (table.map Prod.fst).Nodup) (member : (key, value) ∈ table) :
    table.get? key = some value := by
  induction table with
  | nil => cases member
  | cons entry rest inductionHypothesis =>
    obtain ⟨other, old⟩ := entry
    simp only [List.map_cons, List.nodup_cons] at distinct
    rcases List.mem_cons.mp member with first | inRest
    · cases first
      simp [get?]
    · have different : other ≠ key := fun same =>
        distinct.1 (List.mem_map.mpr ⟨_, inRest, same.symm⟩)
      simp only [get?, if_neg different]
      exact inductionHypothesis distinct.2 inRest

/-- Under the keys of a table, and no others, a value is looked up. -/
theorem get_isSome : (table.get? key).isSome ↔ key ∈ table.map Prod.fst := by
  induction table with
  | nil => simp [get?]
  | cons entry rest inductionHypothesis =>
    obtain ⟨other, old⟩ := entry
    by_cases same : other = key
    · simp [get?, same]
    · simp [get?, same, Ne.symm same, inductionHypothesis]

/-- A change of an entry keeps the keys. -/
theorem insert_keys (found : table.get? key = some value) (new : V) :
    (table.insert key new).map Prod.fst = table.map Prod.fst := by
  induction table with
  | nil => cases found
  | cons entry rest inductionHypothesis =>
    obtain ⟨other, old⟩ := entry
    by_cases same : other = key
    · simp [insert, same]
    · simp only [get?, if_neg same] at found
      simp [insert, same, inductionHypothesis found]

/-- A new entry stands behind the others. -/
theorem insert_new (missing : table.get? key = none) (new : V) :
    table.insert key new = table ++ [(key, new)] := by
  induction table with
  | nil => rfl
  | cons entry rest inductionHypothesis =>
    obtain ⟨other, old⟩ := entry
    by_cases same : other = key
    · simp [get?, same] at missing
    · simp only [get?, if_neg same] at missing
      simp [insert, same, inductionHypothesis missing]

/-- An insertion brings its own entry alone. -/
theorem mem_insert {entry : K × V} (member : entry ∈ table.insert key value) :
    entry = (key, value) ∨ entry ∈ table := by
  induction table with
  | nil => exact .inl (List.mem_singleton.mp member)
  | cons first rest inductionHypothesis =>
    obtain ⟨other, old⟩ := first
    by_cases same : other = key
    · rw [insert, if_pos same] at member
      rcases List.mem_cons.mp member with rfl | inRest
      · exact .inl (by rw [same])
      · exact .inr (List.mem_cons_of_mem _ inRest)
    · rw [insert, if_neg same] at member
      rcases List.mem_cons.mp member with rfl | inRest
      · exact .inr List.mem_cons_self
      · exact (inductionHypothesis inRest).imp_right (List.mem_cons_of_mem _)

/-- An insertion keeps the keys distinct. -/
theorem insert_distinct (distinct : (table.map Prod.fst).Nodup) (key : K) (new : V) :
    ((table.insert key new).map Prod.fst).Nodup := by
  cases found : table.get? key with
  | some old => rwa [insert_keys found]
  | none =>
    have fresh : key ∉ table.map Prod.fst := by simp [← get_isSome, found]
    rw [insert_new found, List.map_append, List.nodup_append]
    refine ⟨distinct, List.nodup_singleton key, ?_⟩
    intro one listed other single same
    rw [same, List.mem_singleton.mp single] at listed
    exact fresh listed

/-- An entry of which a selection takes notice is set in the selection. -/
theorem insert_filter (keeps : K → Bool) (kept : keeps key = true) (table : Table K V)
    (new : V) : (table.insert key new).filter (fun entry => keeps entry.1) =
      insert (table.filter fun entry => keeps entry.1) key new := by
  induction table with
  | nil => simp [insert, kept]
  | cons entry rest inductionHypothesis =>
    obtain ⟨other, old⟩ := entry
    by_cases same : other = key
    · simp [insert, same, kept]
    · cases noticed : keeps other <;> simp [insert, same, noticed, inductionHypothesis]

/-- An entry of which a selection takes no notice may be set. -/
theorem filter_insert (keeps : K → Bool) (dropped : keeps key = false) (table : Table K V)
    (new : V) : (table.insert key new).filter (fun entry => keeps entry.1) =
      table.filter fun entry => keeps entry.1 := by
  induction table with
  | nil => simp [insert, dropped]
  | cons entry rest inductionHypothesis =>
    obtain ⟨other, old⟩ := entry
    by_cases same : other = key
    · simp [insert, same, dropped]
    · simp only [insert, if_neg same, List.filter_cons, inductionHypothesis]

/-- An update changes the value of its key alone. -/
theorem get_update (table : Table K V) (key other : K) (change : V → V) :
    (table.update key change).get? other =
      if other = key then (table.get? key).map change else table.get? other := by
  induction table with
  | nil => simp [update, get?]
  | cons entry rest inductionHypothesis =>
    obtain ⟨first, value⟩ := entry
    by_cases same : first = key
    · subst same
      by_cases equal : first = other
      · simp [update, get?, equal]
      · simp [update, get?, equal, Ne.symm equal]
    · by_cases equal : first = other
      · subst equal
        simp [update, get?, same]
      · simp only [update, get?, if_neg same, if_neg equal, inductionHypothesis]

/-- A table that is cut down to some keys misses the others. -/
theorem get_filter (table : Table K V) (keeps : K → Bool) (key : K) :
    Table.get? (table.filter fun entry => keeps entry.1) key =
      if keeps key then table.get? key else none := by
  induction table with
  | nil => simp [get?]
  | cons entry rest inductionHypothesis =>
    obtain ⟨first, value⟩ := entry
    by_cases same : first = key
    · subst same
      cases kept : keeps first <;> simp [get?, kept, inductionHypothesis]
    · cases kept : keeps first <;> simp [get?, kept, same, inductionHypothesis]

section

variable {W : Type} (change : V → W)

theorem get_mapValues (table : Table K V) (key : K) :
    (table.mapValues change).get? key = (table.get? key).map change := by
  induction table with
  | nil => rfl
  | cons entry rest inductionHypothesis =>
    by_cases same : entry.1 = key
    · simp [mapValues, get?, same]
    · simp only [mapValues, List.map_cons, get?, if_neg same]
      exact inductionHypothesis

theorem insert_mapValues (table : Table K V) (key : K) (value : V) :
    (table.mapValues change).insert key (change value) =
      (table.insert key value).mapValues change := by
  induction table with
  | nil => rfl
  | cons entry rest inductionHypothesis =>
    by_cases same : entry.1 = key
    · simp [mapValues, insert, same]
    · simp only [mapValues, List.map_cons, insert, if_neg same, List.cons.injEq, true_and]
      exact inductionHypothesis

theorem erase_mapValues (table : Table K V) (key : K) :
    (table.mapValues change).erase key = (table.erase key).mapValues change := by
  induction table with
  | nil => rfl
  | cons entry rest inductionHypothesis =>
    by_cases same : entry.1 = key
    · simp only [mapValues, List.map_cons, erase, if_pos same]
      exact inductionHypothesis
    · simp only [mapValues, List.map_cons, erase, if_neg same, List.cons.injEq, true_and]
      exact inductionHypothesis

end

end Table

end WorkflowEngine
