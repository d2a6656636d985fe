import Lexis.Symbol
import Lexis.SymbolTable

/-!
# Symbol tables whose entries say their names

As long as every entry says the name that it is found by, a table is nothing but the list of its
entries.

* `SymbolTable.Keyed`: well-formed, and the entries say their names; interning keeps it, and so
  does a change that leaves the name alone;
* **`SymbolTable.Keyed.mem_toList_iff`**: the entries are what the look-ups find;
* `SymbolTable.WellFormed.get?_intern`: what a look-up finds after a name was interned.
-/

namespace Lexis.SymbolTable

variable {α : Type}

theorem WellFormed.get?_intern {t : SymbolTable α} (h : t.WellFormed) (name other : String)
    (make : Nat → α) :
    (t.intern name make).table.get? other =
      if other = name then some (t.intern name make).entry else t.get? other := by
  cases hname : t.get? name with
  | none => rw [intern_of_none hname, h.get?_push]
  | some entry =>
    rw [intern_of_some hname]
    by_cases heq : other = name
    · simp [heq, hname]
    · simp [heq]

theorem WellFormed.exists_get?_of_mem {t : SymbolTable α} (h : t.WellFormed) {entry : α}
    (hmem : entry ∈ t.toList) : ∃ name, t.get? name = some entry := by
  obtain ⟨slot, hslot, rfl⟩ := List.mem_iff_getElem.1 hmem
  obtain ⟨name, hname⟩ := h.exists_name slot hslot
  exact ⟨name, by simp [get?, hname, toList]⟩

theorem mem_toList_of_get? {t : SymbolTable α} {name : String} {entry : α}
    (h : t.get? name = some entry) : entry ∈ t.toList := by
  obtain ⟨slot, -, hentry⟩ := Option.bind_eq_some_iff.1 h
  exact Array.mem_toList_iff.2 (Array.mem_of_getElem? hentry)

variable [Symbol α]

/-- The table is well-formed, and each entry says the name that it is found by. -/
structure Keyed (t : SymbolTable α) : Prop extends WellFormed t where
  name_eq : ∀ (name : String) (entry : α), t.get? name = some entry → Symbol.name entry = name

theorem keyed_empty : (empty : SymbolTable α).Keyed where
  toWellFormed := wellFormed_empty
  name_eq := by simp

namespace Keyed

variable {t : SymbolTable α} (h : t.Keyed)
include h

theorem intern (name : String) (make : Nat → α) (hmake : ∀ index, Symbol.name (make index) = name) :
    (t.intern name make).table.Keyed where
  toWellFormed := h.toWellFormed.intern name make
  name_eq other entry hentry := by
    rw [h.toWellFormed.get?_intern] at hentry
    split at hentry
    · next heq =>
      cases hname : t.get? name with
      | none =>
        rw [intern_of_none hname, Option.some.injEq] at hentry
        rw [← hentry, heq, hmake]
      | some old =>
        rw [intern_of_some hname, Option.some.injEq] at hentry
        rw [← hentry, heq, h.name_eq name old hname]
    · exact h.name_eq other entry hentry

theorem modify (name : String) {f : α → α} (hf : ∀ entry, Symbol.name (f entry) = Symbol.name entry) :
    (t.modify name f).Keyed where
  toWellFormed := h.toWellFormed.modify name f
  name_eq other entry hentry := by
    rw [h.toWellFormed.get?_modify] at hentry
    split at hentry
    · obtain ⟨old, hold, rfl⟩ := Option.map_eq_some_iff.1 hentry
      rw [hf, h.name_eq other old hold]
    · exact h.name_eq other entry hentry

/-- **The entries of a table are what the look-ups find.** -/
theorem mem_toList_iff {entry : α} :
    entry ∈ t.toList ↔ t.get? (Symbol.name entry) = some entry := by
  refine ⟨fun hmem => ?_, mem_toList_of_get?⟩
  obtain ⟨name, hname⟩ := h.toWellFormed.exists_get?_of_mem hmem
  rwa [h.name_eq name entry hname]

end Keyed

end Lexis.SymbolTable
