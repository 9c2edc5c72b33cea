/-!
# Registries

A registry holds one value under each name, in the order in which the names first came up.

## Main definitions

* `Registry`, `Registry.put`, `Registry.erase`

## Main results

* `Registry.lookup_put`, `Registry.lookup_erase`: what a change does to the value of each name
-/

namespace GhostEdit

/-- Values by name. -/
abbrev Registry (α : Type) := List (String × α)

namespace Registry

variable {α : Type}

/-- Give a name a value: in place if the name is known, else at the end. -/
def put (name : String) (x : α) : Registry α → Registry α
  | [] => [(name, x)]
  | (n, y) :: rest => if n = name then (n, x) :: rest else (n, y) :: put name x rest

/-- The registry without a name. -/
def erase (name : String) (r : Registry α) : Registry α := r.filter (·.1 ≠ name)

theorem lookup_entry (other name : String) (x : α) (r : Registry α) :
    List.lookup other ((name, x) :: r) = if other = name then some x else List.lookup other r := by
  by_cases h : other = name
  · simp [h]
  · have hb : (other == name) = false := by simpa using h
    simp [List.lookup_cons, hb, h]

theorem lookup_put (name other : String) (x : α) (r : Registry α) :
    List.lookup other (put name x r) = if other = name then some x else List.lookup other r := by
  induction r with
  | nil => simp [put, lookup_entry]
  | cons entry rest ih =>
    obtain ⟨n, y⟩ := entry
    unfold put
    split
    · next hn =>
      subst hn
      by_cases h : other = n <;> simp [lookup_entry, h]
    · next hn =>
      by_cases h : other = n
      · subst h
        simp [hn]
      · simp [lookup_entry, h, ih]

theorem lookup_erase (name other : String) (r : Registry α) :
    List.lookup other (erase name r) = if other = name then none else List.lookup other r := by
  induction r with
  | nil => simp [erase]
  | cons entry rest ih =>
    obtain ⟨n, y⟩ := entry
    unfold erase at ih ⊢
    by_cases hn : n = name
    · subst hn
      by_cases h : other = n
      · simpa [h] using ih
      · simpa [lookup_entry, h] using ih
    · by_cases h : other = n
      · subst h
        simp [hn]
      · simpa [lookup_entry, hn, h] using ih

end Registry

end GhostEdit
