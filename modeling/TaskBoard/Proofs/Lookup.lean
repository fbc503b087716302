import Mathlib.Data.List.Nodup

/-!
# Looking up keys

A table holds values under keys.  The first entry of a key is found, so that every entry is
found where no key is repeated.
-/

namespace TaskBoard

variable {κ ν : Type} [BEq κ] [LawfulBEq κ] {entries : List (κ × ν)} {key : κ} {value : ν}

/-- Where no key is repeated, a value is found under a key exactly if it is entered there. -/
theorem lookup_eq_some_iff_mem (distinct : (entries.map Prod.fst).Nodup) :
    entries.lookup key = some value ↔ (key, value) ∈ entries := by
  constructor
  · intro found
    obtain ⟨before, behind, split, _⟩ := List.lookup_eq_some_iff.mp found
    rw [split]
    exact List.mem_append_cons_self
  · intro member
    obtain ⟨before, behind, split⟩ := List.append_of_mem member
    refine List.lookup_eq_some_iff.mpr ⟨before, behind, split, ?_⟩
    intro other isBefore
    rw [split, List.map_append, List.nodup_append] at distinct
    have apart := distinct.2.2 other.1 (List.mem_map_of_mem isBefore) key List.mem_cons_self
    simpa using apart.symm

end TaskBoard
