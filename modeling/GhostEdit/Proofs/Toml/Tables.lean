import GhostEdit.Proofs.Json.RoundTrip
import GhostEdit.Toml.Read

/-!
# Entering a table by its key

The statements of a document change the table under a key, and each statement enters it anew. Two
changes made one after the other under the same key are one change made there, and a change under a
longer key is made inside the table under the shorter one. So the statements of a section add up to
one change, in which each member, with all the statements below it, is added once.

## Main definitions

* `Toml.addAll?`: members added one after the other

## Main results

* `Toml.enter?_bind`, `Toml.enter?_append`: changes one after the other, and one inside another
* `Toml.enter?_member`: adding a table is adding its members under its name
-/

namespace GhostEdit

/-! ## Members by name -/

namespace Value

theorem lookup_append_new {name : Name} {members : Members} (h : members.lookup name = none)
    (v : Value) : (members ++ [(name, v)]).lookup name = some v := by
  rw [List.lookup_append, h]
  simp

theorem setMember_append_new {name : Name} {members : Members} (h : members.lookup name = none)
    (v w : Value) : setMember name w (members ++ [(name, v)]) = members ++ [(name, w)] := by
  induction members with
  | nil => exact if_pos rfl
  | cons m rest ih =>
    obtain ⟨other, u⟩ := m
    rw [List.lookup_cons] at h
    split at h
    · cases h
    · next hother =>
      have hne : other ≠ name := fun heq => by simp [heq] at hother
      rw [List.cons_append, setMember, if_neg hne, ih h]
      rfl

theorem lookup_setMember {name : Name} {members : Members} {v : Value}
    (h : members.lookup name = some v) (w : Value) :
    (setMember name w members).lookup name = some w := by
  induction members with
  | nil => cases h
  | cons m rest ih =>
    obtain ⟨other, u⟩ := m
    rw [setMember]
    split
    · next heq => simp [heq]
    · next hne =>
      have hother : (name == other) = false := by simpa using Ne.symm hne
      rw [List.lookup_cons, hother] at h
      rw [List.lookup_cons, hother]
      exact ih h

theorem setMember_setMember (name : Name) (v w : Value) (members : Members) :
    setMember name w (setMember name v members) = setMember name w members := by
  induction members with
  | nil => exact if_pos rfl
  | cons m rest ih =>
    obtain ⟨other, u⟩ := m
    by_cases h : other = name
    · rw [setMember, if_pos h, setMember, if_pos h, setMember, if_pos h]
    · rw [setMember, if_neg h, setMember, if_neg h, setMember, if_neg h, ih]

end Value

namespace Toml

/-! ## Changes -/

/-- **Two changes under one key** are one. -/
theorem enter?_bind (arrays : Bool) (f g : Members → Option Members) (key : Key)
    (members : Members) :
    (enter? arrays f key members).bind (enter? arrays g key)
      = enter? arrays (fun held => (f held).bind g) key members := by
  induction key generalizing members with
  | nil => rfl
  | cons part key ih =>
    rw [enter?, enter?]
    split
    · next hnew =>
      rw [← ih []]
      cases enter? arrays f key [] with
      | none => rfl
      | some inner =>
        rw [Option.map_some, Option.bind_some, Option.bind_some, enter?,
          Value.lookup_append_new hnew]
        dsimp only
        simp only [Value.setMember_append_new hnew]
    · next inner hfound =>
      rw [← ih inner]
      cases enter? arrays f key inner with
      | none => rfl
      | some changed =>
        rw [Option.map_some, Option.bind_some, Option.bind_some, enter?,
          Value.lookup_setMember hfound]
        dsimp only
        simp only [Value.setMember_setMember]
    · next elements hfound =>
      cases arrays with
      | false => rfl
      | true =>
        cases hlast : elements.getLast? with
        | none => rfl
        | some last =>
          cases last with
          | obj inner =>
            dsimp only
            rw [← ih inner]
            cases enter? true f key inner with
            | none => rfl
            | some changed =>
              rw [Option.map_some, Option.bind_some, Option.bind_some, enter?,
                Value.lookup_setMember hfound]
              simp only [List.getLast?_append, List.getLast?_singleton, Option.some_or,
                List.dropLast_concat, Value.setMember_setMember]
          | _ => rfl
    · rfl

/-- **A change under a longer key** is made inside the table under the shorter one. -/
theorem enter?_append (arrays : Bool) (f : Members → Option Members) (key more : Key)
    (members : Members) :
    enter? arrays f (key ++ more) members = enter? arrays (enter? arrays f more) key members := by
  induction key generalizing members with
  | nil => rfl
  | cons part key ih =>
    rw [List.cons_append, enter?, enter?]
    simp only [ih]

/-- A change that does what another does, wherever that one can be made. -/
theorem enter?_of_imp {arrays : Bool} {f g : Members → Option Members}
    (h : ∀ held changed, f held = some changed → g held = some changed) {key : Key}
    {members changed : Members} (hf : enter? arrays f key members = some changed) :
    enter? arrays g key members = some changed := by
  induction key generalizing members changed with
  | nil => exact h _ _ hf
  | cons part key ih =>
    have hmap : ∀ {held : Members} {make : Members → Members},
        (enter? arrays f key held).map make = some changed →
        (enter? arrays g key held).map make = some changed := by
      intro held make heq
      obtain ⟨inner, hinner, rfl⟩ := Option.map_eq_some_iff.mp heq
      rw [ih hinner, Option.map_some]
    rw [enter?] at hf ⊢
    split at hf
    · exact hmap hf
    · exact hmap hf
    · split at hf
      · exact hmap hf
      · cases hf
    · cases hf

/-! ## Members added -/

/-- Members under names that are texts. -/
def named (entries : List (Text × Value)) : Members := entries.map fun m => (.text m.1, m.2)

/-- Members added one after the other. -/
def addAll? (entries : List (Text × Value)) (held : Members) : Option Members :=
  entries.foldlM (fun held m => addMember? m.1 m.2 held) held

theorem addAll?_cons (m : Text × Value) (rest : List (Text × Value)) (held : Members) :
    addAll? (m :: rest) held = (addMember? m.1 m.2 held).bind (addAll? rest) := rfl

theorem addAll?_append (entries more : List (Text × Value)) (held : Members) :
    addAll? (entries ++ more) held = (addAll? entries held).bind (addAll? more) :=
  List.foldlM_append ..

/-- Members with new names come last, in their order. -/
theorem addAll?_eq_some {entries : List (Text × Value)} {held : Members}
    (hdistinct : (entries.map Prod.fst).Nodup)
    (hnew : ∀ m ∈ entries, held.lookup (.text m.1) = none) :
    addAll? entries held = some (held ++ named entries) := by
  induction entries generalizing held with
  | nil => exact congrArg some (List.append_nil held).symm
  | cons m rest ih =>
    have hm := hnew m List.mem_cons_self
    rw [List.map_cons, List.nodup_cons] at hdistinct
    have hrest : ∀ n ∈ rest, (held ++ [(Name.text m.1, m.2)]).lookup (Name.text n.1) = none := by
      intro n hn
      have hne : n.1 ≠ m.1 := fun heq => hdistinct.1 (heq ▸ List.mem_map_of_mem hn)
      rw [List.lookup_append, hnew n (List.mem_cons_of_mem m hn)]
      simp [hne]
    rw [addAll?_cons, addMember?, if_neg (by simp [hm]), Option.bind_some,
      ih hdistinct.2 hrest, List.append_assoc]
    rfl

/-- **Adding a table** is adding its members under its name. -/
theorem enter?_member {entries : List (Text × Value)} (hdistinct : (entries.map Prod.fst).Nodup)
    {name : Text} {held changed : Members}
    (h : addMember? name (.obj (named entries)) held = some changed) :
    enter? true (addAll? entries) [name] held = some changed := by
  have hall : addAll? entries [] = some ([] ++ named entries) :=
    addAll?_eq_some hdistinct fun _ _ => rfl
  rw [addMember?] at h
  split at h
  · cases h
  · next hnew =>
    have hnew := Option.not_isSome_iff_eq_none.mp hnew
    rw [enter?, hnew]
    simp only [enter?, hall]
    exact h

end Toml

end GhostEdit
