import Std.Data.TreeMap

/-!
# Symbol tables

A symbol table keeps one entry per name, in the order in which the names were first met, and finds
an entry by its name. The name that an entry is found by is given when it is interned; the entry
itself may be changed later and may say another name.

* `SymbolTable.intern`: the entry of a name, made at the end of the table if the name is new;
* `SymbolTable.get?`, `SymbolTable.contains`, `SymbolTable.modify`: by name;
* `SymbolTable.toList`, `SymbolTable.size`, `SymbolTable.isEmpty`: the entries in order;
* `SymbolTable.clear`: the entries and their names are forgotten;
* `SymbolTable.WellFormed`: the map from names to slots and the entries fit each other, which all
  operations keep; **`WellFormed.get?_push`** and **`WellFormed.get?_modify`** say what a look-up
  finds after them.
-/

namespace Lexis

/-- Entries in order of their first sighting, with the slot of each name. -/
structure SymbolTable (α : Type) where
  entries : Array α
  slots : Std.TreeMap String Nat

/-- What interning a name gives. -/
structure Interned (α : Type) where
  /-- The entry of the name. -/
  entry : α
  /-- The name was new. -/
  fresh : Bool
  /-- The table afterwards. -/
  table : SymbolTable α

namespace SymbolTable

variable {α : Type}

/-- The table without entries. -/
def empty : SymbolTable α := ⟨#[], ∅⟩

instance : Inhabited (SymbolTable α) := ⟨empty⟩

/-- The names of a table have distinct slots, and these are exactly the places of its entries. -/
structure WellFormed (t : SymbolTable α) : Prop where
  slot_lt : ∀ (name : String) (slot : Nat), t.slots[name]? = some slot → slot < t.entries.size
  slot_inj : ∀ (name other : String) (slot : Nat),
    t.slots[name]? = some slot → t.slots[other]? = some slot → name = other
  exists_name : ∀ slot < t.entries.size, ∃ name : String, t.slots[name]? = some slot

/-- The entry of a name. -/
def get? (t : SymbolTable α) (name : String) : Option α :=
  t.slots[name]?.bind fun slot => t.entries[slot]?

/-- The name has an entry. -/
def contains (t : SymbolTable α) (name : String) : Bool := t.slots.contains name

/-- The entries in order. -/
def toList (t : SymbolTable α) : List α := t.entries.toList

/-- The number of entries. -/
def size (t : SymbolTable α) : Nat := t.entries.size

/-- The table has no entries. -/
def isEmpty (t : SymbolTable α) : Bool := t.entries.isEmpty

/-- Put an entry at the end, to be found by `name`. -/
def push (t : SymbolTable α) (name : String) (entry : α) : SymbolTable α :=
  ⟨t.entries.push entry, t.slots.insert name t.entries.size⟩

/-- The entry of `name`. For a new name, `make` builds it from the index it gets, and it goes to
the end of the table. -/
def intern (t : SymbolTable α) (name : String) (make : Nat → α) : Interned α :=
  match t.get? name with
  | some entry => ⟨entry, false, t⟩
  | none =>
    let entry := make (t.size + 1)
    ⟨entry, true, t.push name entry⟩

/-- Change the entry of a name, which stays the name that it is found by. -/
def modify (t : SymbolTable α) (name : String) (f : α → α) : SymbolTable α :=
  match t.slots[name]? with
  | some slot => { t with entries := t.entries.modify slot f }
  | none => t

/-- Forget the entries and their names. -/
def clear (t : SymbolTable α) : SymbolTable α := { t with entries := #[], slots := ∅ }

/-! ## Each operation seen from outside -/

@[simp] theorem toList_empty : (empty : SymbolTable α).toList = [] := rfl

@[simp] theorem get?_empty (name : String) : (empty : SymbolTable α).get? name = none := by
  simp [empty, get?]

@[simp] theorem toList_push (t : SymbolTable α) (name : String) (entry : α) :
    (t.push name entry).toList = t.toList ++ [entry] := by simp [push, toList]

theorem length_toList (t : SymbolTable α) : t.toList.length = t.size := rfl

theorem intern_of_some {t : SymbolTable α} {name : String} {entry : α}
    (h : t.get? name = some entry) (make : Nat → α) :
    t.intern name make = ⟨entry, false, t⟩ := by
  simp [intern, h]

theorem intern_of_none {t : SymbolTable α} {name : String} (h : t.get? name = none)
    (make : Nat → α) :
    t.intern name make = ⟨make (t.size + 1), true, t.push name (make (t.size + 1))⟩ := by
  simp [intern, h]

theorem size_push (t : SymbolTable α) (name : String) (entry : α) :
    (t.push name entry).size = t.size + 1 := by simp [push, size]

theorem size_modify (t : SymbolTable α) (name : String) (f : α → α) :
    (t.modify name f).size = t.size := by
  unfold modify; split <;> simp [size]

theorem slots_modify (t : SymbolTable α) (name : String) (f : α → α) :
    (t.modify name f).slots = t.slots := by
  unfold modify; split <;> rfl

theorem wellFormed_empty : (empty : SymbolTable α).WellFormed where
  slot_lt := by simp [empty]
  slot_inj := by simp [empty]
  exists_name := by simp [empty]

namespace WellFormed

variable {t : SymbolTable α} (h : t.WellFormed)
include h

theorem isSome_get? (name : String) : (t.get? name).isSome = t.contains name := by
  rw [contains, ← Std.TreeMap.isSome_getElem?_eq_contains, get?]
  cases hslot : t.slots[name]? with
  | none => rfl
  | some slot => simp [h.slot_lt name slot hslot]

theorem getElem?_slots_of_get? {name : String} (hname : t.get? name = none) :
    t.slots[name]? = none := by
  rw [get?] at hname
  cases hslot : t.slots[name]? with
  | none => rfl
  | some slot => simp [hslot, h.slot_lt name slot hslot] at hname

theorem push {name : String} (hname : t.get? name = none) (entry : α) :
    (t.push name entry).WellFormed where
  slot_lt other slot hother := by
    simp only [SymbolTable.push, Array.size_push]
    rw [SymbolTable.push, Std.TreeMap.getElem?_insert] at hother
    split at hother
    · cases hother; omega
    · have := h.slot_lt other slot hother; omega
  slot_inj first second slot hfirst hsecond := by
    rw [SymbolTable.push, Std.TreeMap.getElem?_insert] at hfirst hsecond
    split at hfirst <;> split at hsecond
    · simp_all
    · cases hfirst; exact absurd (h.slot_lt _ _ hsecond) (by omega)
    · cases hsecond; exact absurd (h.slot_lt _ _ hfirst) (by omega)
    · exact h.slot_inj _ _ _ hfirst hsecond
  exists_name slot hslot := by
    simp only [SymbolTable.push, Array.size_push] at hslot
    by_cases hlast : slot = t.entries.size
    · exact ⟨name, by simp [SymbolTable.push, hlast]⟩
    · obtain ⟨other, hother⟩ := h.exists_name slot (by omega)
      refine ⟨other, ?_⟩
      have hne : name ≠ other := fun heq => by
        rw [← heq, h.getElem?_slots_of_get? hname] at hother
        cases hother
      rw [SymbolTable.push, Std.TreeMap.getElem?_insert]
      simpa [hne] using hother

theorem modify (name : String) (f : α → α) : (t.modify name f).WellFormed where
  slot_lt other slot hother := by
    have := size_modify t name f
    rw [slots_modify] at hother
    simp only [size] at this
    rw [this]
    exact h.slot_lt other slot hother
  slot_inj := by
    rw [slots_modify]
    exact h.slot_inj
  exists_name slot hslot := by
    have := size_modify t name f
    simp only [size] at this
    rw [this] at hslot
    rw [slots_modify]
    exact h.exists_name slot hslot

theorem intern (name : String) (make : Nat → α) : (t.intern name make).table.WellFormed := by
  cases hname : t.get? name with
  | none => rw [intern_of_none hname]; exact h.push hname _
  | some entry => rw [intern_of_some hname]; exact h

theorem get?_push (name other : String) (entry : α) :
    (t.push name entry).get? other = if other = name then some entry else t.get? other := by
  simp only [get?, SymbolTable.push, Std.TreeMap.getElem?_insert]
  by_cases heq : other = name
  · simp [heq]
  · have hne : ¬ name = other := fun hname => heq hname.symm
    cases hslot : t.slots[other]? with
    | none => simp [heq, hne]
    | some slot =>
      have hlt := h.slot_lt other slot hslot
      simp [heq, hne, Array.getElem?_push, Nat.ne_of_lt hlt]

theorem get?_modify (name other : String) (f : α → α) :
    (t.modify name f).get? other = if other = name then (t.get? other).map f else t.get? other := by
  unfold SymbolTable.modify
  split
  · next slot hslot =>
    by_cases heq : other = name
    · simp [heq, get?, hslot, Array.getElem?_modify]
    · cases hother : t.slots[other]? with
      | none => simp [get?, hother]
      | some slot' =>
        have hne : slot ≠ slot' := fun hs =>
          heq (h.slot_inj other name slot (hs ▸ hother) hslot)
        simp [get?, hother, heq, Array.getElem?_modify, hne]
  · next hslot =>
    by_cases heq : other = name
    · simp [heq, get?, hslot]
    · simp [heq]

end WellFormed

end SymbolTable

end Lexis
