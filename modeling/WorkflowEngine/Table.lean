/-
This file holds finite tables: lists of keyed entries in which every key is looked up at its first
occurrence. An insertion replaces the entry in place or appends a new one.
-/

namespace WorkflowEngine

abbrev Table (K V : Type) := List (K × V)

namespace Table

def get? {K V : Type} [DecidableEq K] : Table K V → K → Option V
  | [], _ => none
  | (other, value) :: rest, key => if other = key then some value else get? rest key

def has {K V : Type} [DecidableEq K] (table : Table K V) (key : K) : Bool :=
  (get? table key).isSome

def insert {K V : Type} [DecidableEq K] : Table K V → K → V → Table K V
  | [], key, value => [(key, value)]
  | (other, old) :: rest, key, value =>
    if other = key then (other, value) :: rest else (other, old) :: insert rest key value

def erase {K V : Type} [DecidableEq K] : Table K V → K → Table K V
  | [], _ => []
  | (other, value) :: rest, key =>
    if other = key then erase rest key else (other, value) :: erase rest key

def update {K V : Type} [DecidableEq K] : Table K V → K → (V → V) → Table K V
  | [], _, _ => []
  | (other, old) :: rest, key, change =>
    if other = key then (other, change old) :: rest else (other, old) :: update rest key change

theorem getInsertSame {K V : Type} [DecidableEq K] (table : Table K V) (key : K) (value : V) :
    get? (insert table key value) key = some value := by
  induction table with
  | nil => simp [insert, get?]
  | cons entry rest inductionHypothesis =>
    obtain ⟨other, old⟩ := entry
    by_cases equal : other = key
    · simp [insert, get?, equal]
    · simp [insert, get?, equal, inductionHypothesis]

theorem getInsertOther {K V : Type} [DecidableEq K] (table : Table K V) {key other : K}
    (value : V) (different : key ≠ other) :
    get? (insert table key value) other = get? table other := by
  induction table with
  | nil => simp [insert, get?, different]
  | cons entry rest inductionHypothesis =>
    obtain ⟨first, old⟩ := entry
    by_cases equal : first = key
    · subst equal
      simp [insert, get?, different]
    · simp [insert, get?, equal, inductionHypothesis]

theorem getEraseSame {K V : Type} [DecidableEq K] (table : Table K V) (key : K) :
    get? (erase table key) key = none := by
  induction table with
  | nil => rfl
  | cons entry rest inductionHypothesis =>
    obtain ⟨other, old⟩ := entry
    by_cases equal : other = key
    · simp [erase, equal, inductionHypothesis]
    · simp [erase, get?, equal, inductionHypothesis]

theorem getEraseOther {K V : Type} [DecidableEq K] (table : Table K V) {key other : K}
    (different : key ≠ other) : get? (erase table key) other = get? table other := by
  induction table with
  | nil => rfl
  | cons entry rest inductionHypothesis =>
    obtain ⟨first, old⟩ := entry
    by_cases equal : first = key
    · subst equal
      simp [erase, get?, different, inductionHypothesis]
    · simp [erase, get?, equal, inductionHypothesis]

end Table

end WorkflowEngine
