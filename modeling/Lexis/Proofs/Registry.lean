import Lexis.Proofs.Numbering

/-!
# Symbol tables are lists of named entries

Seen from outside, a symbol table is nothing but a list of entries under distinct names, the oldest
first. The array of entries and the map of slots that make it up are never at odds, whatever names
the entries say themselves.

* `Registry`: entries under distinct names, with `Registry.find?`, `Registry.intern` and
  `Registry.update`;
* `Operation`, `Reply`: what can be asked of a table, and what comes back;
* `perform`, `runOperations`: one operation, and one after the other;
* `SymbolTable.Represents`: the array holds the entries of a registry, and the map the places of its
  names; no operation breaks this (`SymbolTable.Represents.perform`);
* `internedNames`: the names that were interned since the table was last emptied;
* **`symbolTable_runs_as_registry`**: after any operations on a new table, the replies and the
  entries are those of the registry, and the names are the interned ones.
-/

namespace Lexis

variable {α : Type}

/-! ## Entries under names -/

/-- Entries under distinct names, the oldest first. -/
structure Registry (α : Type) where
  entries : List (String × α)
  nodup : (entries.map Prod.fst).Nodup

namespace Registry

/-- The registry without entries. -/
def empty : Registry α := ⟨[], List.nodup_nil⟩

/-- The names, the oldest first. -/
def names (r : Registry α) : List String := r.entries.map Prod.fst

/-- The entry under a name. -/
def find? (r : Registry α) (name : String) : Option α := r.entries.lookup name

theorem find?_eq_none_iff {r : Registry α} {name : String} :
    r.find? name = none ↔ name ∉ r.names := by
  rw [find?, List.lookup_eq_none_iff, names]
  simp only [bne_iff_ne, List.mem_map, not_exists, not_and]
  exact forall₂_congr fun _ _ => ne_comm

/-- Put an entry at the end, under a new name. -/
def add (r : Registry α) (name : String) (entry : α) (h : name ∉ r.names) : Registry α where
  entries := r.entries ++ [(name, entry)]
  nodup := by
    rw [List.map_append, List.nodup_append]
    refine ⟨r.nodup, List.nodup_singleton name, fun other hother new hnew heq => h ?_⟩
    obtain rfl := List.mem_singleton.1 hnew
    exact heq ▸ hother

/-- Change the entry under a name. -/
def update (r : Registry α) (name : String) (change : α → α) : Registry α where
  entries := r.entries.map fun x => if x.1 = name then (x.1, change x.2) else x
  nodup := by
    have hnames : (Prod.fst ∘ fun x : String × α => if x.1 = name then (x.1, change x.2) else x) =
        Prod.fst := funext fun x => by dsimp only [Function.comp]; split <;> rfl
    rw [List.map_map, hnames]
    exact r.nodup

/-- The entry under `name`. For a new name, `make` builds it from its place, counted from 1. -/
def intern (r : Registry α) (name : String) (make : Nat → α) : α × Bool × Registry α :=
  match h : r.find? name with
  | some entry => (entry, false, r)
  | none =>
    let entry := make (r.entries.length + 1)
    (entry, true, r.add name entry (find?_eq_none_iff.1 h))

theorem names_add (r : Registry α) (name : String) (entry : α) (h : name ∉ r.names) :
    (r.add name entry h).names = r.names ++ [name] := by
  simp [add, names]

theorem names_update (r : Registry α) (name : String) (change : α → α) :
    (r.update name change).names = r.names := by
  rw [names, update, List.map_map, names]
  exact List.map_congr_left fun x _ => by dsimp only [Function.comp]; split <;> rfl

theorem find?_eq_some_of_mem {r : Registry α} {name : String} {entry : α}
    (h : (name, entry) ∈ r.entries) : r.find? name = some entry := by
  obtain ⟨before, behind, heq⟩ := List.append_of_mem h
  refine List.lookup_eq_some_iff.2 ⟨before, behind, heq, fun x hx => ?_⟩
  -- an earlier entry under the same name would make the name occur twice
  have hnodup := r.nodup
  rw [heq, List.map_append, List.nodup_append] at hnodup
  have hname : name ∈ ((name, entry) :: behind).map Prod.fst := List.mem_cons_self ..
  have hne : x.1 ≠ name := hnodup.2.2 x.1 (List.mem_map_of_mem hx) name hname
  simpa using hne.symm

theorem intern_of_some {r : Registry α} {name : String} {entry : α}
    (h : r.find? name = some entry) (make : Nat → α) :
    r.intern name make = (entry, false, r) := by
  unfold intern
  split
  · next hsome => rw [hsome] at h; cases h; rfl
  · next hnone => rw [hnone] at h; cases h

theorem intern_of_none {r : Registry α} {name : String} (h : r.find? name = none)
    (make : Nat → α) :
    r.intern name make = (make (r.entries.length + 1), true,
      r.add name (make (r.entries.length + 1)) (find?_eq_none_iff.1 h)) := by
  unfold intern
  split
  · next hsome => rw [hsome] at h; cases h
  · rfl

end Registry

/-! ## Operations -/

/-- What can be asked of a table. -/
inductive Operation (α : Type)
  /-- Intern a name, and change the entry that this gives. -/
  | intern (name : String) (make : Nat → α) (change : α → α)
  | get (name : String)
  /-- Find the entry of a name, and change it. -/
  | modify (name : String) (change : α → α)
  | contains (name : String)
  | size
  | isEmpty
  | toList
  /-- Give the entries away; the table is new again. -/
  | takeEntries
  | clear

/-- What comes back. -/
inductive Reply (α : Type)
  /-- An entry as it was found or made, before any change, and whether its name was new. -/
  | interned (entry : α) (fresh : Bool)
  | found (symbol? : Option α)
  | answer (holds : Bool)
  | count (n : Nat)
  | listed (entries : List α)
  | done

/-- The replies to operations, one after the other, and the state behind them. -/
def runOperations {σ : Type} (perform : σ → Operation α → Reply α × σ) (s : σ) :
    List (Operation α) → List (Reply α) × σ
  | [] => ([], s)
  | operation :: operations =>
    let (reply, s) := perform s operation
    let (replies, s) := runOperations perform s operations
    (reply :: replies, s)

/-- The reply of a table, and the table behind it. -/
def SymbolTable.perform (t : SymbolTable α) : Operation α → Reply α × SymbolTable α
  | .intern name make change =>
    let interned := t.intern name make
    (.interned interned.entry interned.fresh, interned.table.modify name change)
  | .get name => (.found (t.get? name), t)
  | .modify name change => (.found (t.get? name), t.modify name change)
  | .contains name => (.answer (t.contains name), t)
  | .size => (.count t.size, t)
  | .isEmpty => (.answer t.isEmpty, t)
  | .toList => (.listed t.toList, t)
  | .takeEntries => (.listed t.toList, .empty)
  | .clear => (.done, t.clear)

/-- The reply of a registry, and the registry behind it. -/
def Registry.perform (r : Registry α) : Operation α → Reply α × Registry α
  | .intern name make change =>
    let (entry, fresh, r) := r.intern name make
    (.interned entry fresh, r.update name change)
  | .get name => (.found (r.find? name), r)
  | .modify name change => (.found (r.find? name), r.update name change)
  | .contains name => (.answer (name ∈ r.names), r)
  | .size => (.count r.names.length, r)
  | .isEmpty => (.answer (r.names = []), r)
  | .toList => (.listed (r.entries.map Prod.snd), r)
  | .takeEntries => (.listed (r.entries.map Prod.snd), .empty)
  | .clear => (.done, .empty)

/-- States that answer each operation alike, and stay related, answer all operations alike. -/
theorem runOperations_simulates {σ τ : Type} {perform : σ → Operation α → Reply α × σ}
    {perform' : τ → Operation α → Reply α × τ} {R : σ → τ → Prop}
    (step : ∀ s t operation, R s t → (perform s operation).1 = (perform' t operation).1 ∧
      R (perform s operation).2 (perform' t operation).2)
    (operations : List (Operation α)) {s : σ} {t : τ} (h : R s t) :
    (runOperations perform s operations).1 = (runOperations perform' t operations).1 ∧
      R (runOperations perform s operations).2 (runOperations perform' t operations).2 := by
  induction operations generalizing s t with
  | nil => exact ⟨rfl, h⟩
  | cons operation operations ih =>
    obtain ⟨hreply, hnext⟩ := step s t operation h
    obtain ⟨hreplies, hlast⟩ := ih hnext
    exact ⟨congrArg₂ List.cons hreply hreplies, hlast⟩

/-! ## Tables and registries -/

namespace SymbolTable

/-- The table holds the entries of the registry, and finds its names in their places. -/
structure Represents (t : SymbolTable α) (r : Registry α) : Prop where
  toList_eq : t.toList = r.entries.map Prod.snd
  slot_iff : ∀ (name : String) (slot : Nat),
    t.slots[name]? = some slot ↔ r.names[slot]? = some name

theorem represents_empty : (empty : SymbolTable α).Represents .empty where
  toList_eq := rfl
  slot_iff := by simp [empty, Registry.empty, Registry.names]

namespace Represents

variable {t : SymbolTable α} {r : Registry α} (h : t.Represents r)
include h

theorem size_eq : t.size = r.names.length := by
  rw [← length_toList, h.toList_eq, Registry.names, List.length_map, List.length_map]

/-- No slot points beyond the entries. -/
theorem slot_lt {name : String} {slot : Nat} (hslot : t.slots[name]? = some slot) :
    slot < t.size := by
  rw [h.size_eq]
  exact (List.getElem?_eq_some_iff.1 ((h.slot_iff name slot).1 hslot)).1

theorem getElem?_entries {name : String} {slot : Nat} (hslot : t.slots[name]? = some slot) :
    ∃ entry, t.entries[slot]? = some entry ∧ (name, entry) ∈ r.entries := by
  have hname := (h.slot_iff name slot).1 hslot
  rw [Registry.names, List.getElem?_map] at hname
  obtain ⟨⟨other, entry⟩, hentry, rfl⟩ := Option.map_eq_some_iff.1 hname
  refine ⟨entry, ?_, List.mem_of_getElem? hentry⟩
  rw [← Array.getElem?_toList, ← toList, h.toList_eq, List.getElem?_map, hentry]
  rfl

theorem getElem?_slots_eq_none_iff {name : String} : t.slots[name]? = none ↔ name ∉ r.names := by
  rw [Option.eq_none_iff_forall_ne_some, List.mem_iff_getElem?, not_exists]
  exact forall_congr' fun slot => not_congr (h.slot_iff name slot)

theorem get?_eq (name : String) : t.get? name = r.find? name := by
  rw [get?]
  cases hslot : t.slots[name]? with
  | none => exact (Registry.find?_eq_none_iff.2 (h.getElem?_slots_eq_none_iff.1 hslot)).symm
  | some slot =>
    obtain ⟨entry, hentry, hmem⟩ := h.getElem?_entries hslot
    rw [Registry.find?_eq_some_of_mem hmem]
    exact hentry

theorem contains_eq (name : String) : t.contains name = decide (name ∈ r.names) := by
  have hnone : t.slots[name]? = none ↔ name ∉ r.names := h.getElem?_slots_eq_none_iff
  rw [contains, ← Std.TreeMap.isSome_getElem?_eq_contains]
  cases hslot : t.slots[name]? with
  | none => exact (decide_eq_false (hnone.1 hslot)).symm
  | some slot =>
    refine (decide_eq_true ?_).symm
    by_contra hname
    rw [hnone.2 hname] at hslot
    cases hslot

theorem push {name : String} (hname : name ∉ r.names) (entry : α) :
    (t.push name entry).Represents (r.add name entry hname) where
  toList_eq := by
    rw [toList_push, h.toList_eq, Registry.add, List.map_append]
    rfl
  slot_iff other slot := by
    have hsize : t.entries.size = r.names.length := h.size_eq
    rw [Registry.names_add, SymbolTable.push, Std.TreeMap.getElem?_insert, List.getElem?_append]
    by_cases heq : name = other
    · -- a new name is in the place behind all others
      subst heq
      have hne : r.names[slot]? ≠ some name := fun hslot => hname (List.mem_of_getElem? hslot)
      simp only [Std.LawfulEqOrd.compare_eq_iff_eq, if_true, Option.some.injEq, hsize]
      split
      · next hlt => simp [hne, Nat.ne_of_gt hlt]
      · next hge =>
        rw [List.getElem?_singleton]
        split <;> simp <;> omega
    · have hlast : ∀ k, [name][k]? ≠ some other := fun k hk => by
        rw [List.getElem?_singleton] at hk
        split at hk
        · exact heq (Option.some.inj hk)
        · cases hk
      simp only [Std.LawfulEqOrd.compare_eq_iff_eq, heq, if_false, h.slot_iff]
      split
      · rfl
      · next hge => simp [hlast, List.getElem?_eq_none (Nat.not_lt.1 hge)]

theorem modify (name : String) (change : α → α) :
    (t.modify name change).Represents (r.update name change) where
  toList_eq := by
    have hmap : (r.update name change).entries.map Prod.snd =
        r.entries.map fun x => if x.1 = name then change x.2 else x.2 := by
      rw [Registry.update, List.map_map]
      exact List.map_congr_left fun x _ => by dsimp only [Function.comp]; split <;> rfl
    rw [hmap]
    cases hslot : t.slots[name]? with
    | none =>
      have hname := h.getElem?_slots_eq_none_iff.1 hslot
      rw [SymbolTable.modify, hslot, h.toList_eq]
      refine List.map_congr_left fun x hx => (if_neg fun heq => hname ?_).symm
      exact heq ▸ List.mem_map_of_mem hx
    | some slot =>
      have hentries : t.entries.toList = r.entries.map Prod.snd := h.toList_eq
      rw [SymbolTable.modify, hslot]
      refine List.ext_getElem? fun k => ?_
      rw [toList, Array.toList_modify, hentries, List.getElem?_modify, List.getElem?_map,
        List.getElem?_map]
      cases hentry : r.entries[k]? with
      | none => rfl
      | some x =>
        -- the changed slot is the only place of the name
        have hplace : slot = k ↔ x.1 = name := by
          have hk : r.names[k]? = some x.1 := by rw [Registry.names, List.getElem?_map, hentry]; rfl
          constructor
          · rintro rfl
            have hname := (h.slot_iff name slot).1 hslot
            rw [hk] at hname
            exact Option.some.inj hname
          · rintro rfl
            have hslot' := (h.slot_iff x.1 k).2 hk
            rw [hslot] at hslot'
            exact Option.some.inj hslot'
        simp [hplace]
  slot_iff := by
    rw [slots_modify, Registry.names_update]
    exact h.slot_iff

theorem intern (name : String) (make : Nat → α) :
    (t.intern name make).entry = (r.intern name make).1 ∧
      (t.intern name make).fresh = (r.intern name make).2.1 ∧
        (t.intern name make).table.Represents (r.intern name make).2.2 := by
  cases hfind : r.find? name with
  | some entry =>
    rw [intern_of_some ((h.get?_eq name).trans hfind), Registry.intern_of_some hfind]
    exact ⟨rfl, rfl, h⟩
  | none =>
    have hsize : t.size = r.entries.length := by rw [h.size_eq, Registry.names, List.length_map]
    rw [intern_of_none ((h.get?_eq name).trans hfind), Registry.intern_of_none hfind, hsize]
    exact ⟨rfl, rfl, h.push (Registry.find?_eq_none_iff.1 hfind) _⟩

/-- **A table answers as the registry that it represents**, and represents it still. -/
theorem perform (operation : Operation α) :
    (t.perform operation).1 = (r.perform operation).1 ∧
      (t.perform operation).2.Represents (r.perform operation).2 := by
  cases operation with
  | intern name make change =>
    obtain ⟨hentry, hfresh, htable⟩ := h.intern name make
    exact ⟨congrArg₂ Reply.interned hentry hfresh, htable.modify name change⟩
  | get name => exact ⟨congrArg Reply.found (h.get?_eq name), h⟩
  | modify name change => exact ⟨congrArg Reply.found (h.get?_eq name), h.modify name change⟩
  | contains name => exact ⟨congrArg Reply.answer (h.contains_eq name), h⟩
  | size => exact ⟨congrArg Reply.count h.size_eq, h⟩
  | isEmpty =>
    refine ⟨congrArg Reply.answer ?_, h⟩
    rw [isEmpty, Bool.eq_iff_iff, Array.isEmpty_iff_size_eq_zero, decide_eq_true_eq,
      ← List.length_eq_zero_iff, ← h.size_eq]
    rfl
  | toList => exact ⟨congrArg Reply.listed h.toList_eq, h⟩
  | takeEntries => exact ⟨congrArg Reply.listed h.toList_eq, represents_empty⟩
  | clear => exact ⟨rfl, represents_empty⟩

end Represents

end SymbolTable

/-! ## The names of a registry -/

/-- The names that count behind an operation, where `names` do before it. -/
def Operation.track (names : List String) : Operation α → List String
  | .intern name _ _ => names ++ [name]
  | .takeEntries | .clear => []
  | _ => names

/-- The names that were interned since the entries were last cleared or given away. -/
def internedNames (operations : List (Operation α)) : List String :=
  operations.foldl Operation.track []

namespace Registry

theorem names_intern {r : Registry α} {names : List String} (h : r.names = names.eraseDups)
    (name : String) (make : Nat → α) :
    (r.intern name make).2.2.names = (names ++ [name]).eraseDups := by
  have hmem : name ∈ r.names ↔ name ∈ names := by rw [h, List.mem_eraseDups]
  rw [eraseDups_append_singleton]
  cases hfind : r.find? name with
  | some entry =>
    have hname : name ∈ r.names := by
      by_contra hname
      rw [find?_eq_none_iff.2 hname] at hfind
      cases hfind
    rw [intern_of_some hfind, if_pos (hmem.1 hname), List.append_nil, h]
  | none =>
    have hname : name ∉ r.names := find?_eq_none_iff.1 hfind
    rw [intern_of_none hfind, if_neg (fun hnames => hname (hmem.2 hnames)), names_add, h]

theorem names_perform {r : Registry α} {names : List String} (h : r.names = names.eraseDups)
    (operation : Operation α) :
    (r.perform operation).2.names = (operation.track names).eraseDups := by
  cases operation with
  | intern name make change => exact (names_update ..).trans (names_intern h name make)
  | modify name change => exact (names_update ..).trans h
  | takeEntries | clear => rfl
  | _ => exact h

theorem names_runOperations (operations : List (Operation α)) {r : Registry α}
    {names : List String} (h : r.names = names.eraseDups) :
    (runOperations perform r operations).2.names =
      (operations.foldl Operation.track names).eraseDups := by
  induction operations generalizing r names with
  | nil => exact h
  | cons operation operations ih => exact ih (names_perform h operation)

end Registry

/-! ## New tables -/

/-- A new table behind operations. -/
def SymbolTable.after (operations : List (Operation α)) : SymbolTable α :=
  (runOperations perform empty operations).2

/-- A new registry behind operations. -/
def Registry.after (operations : List (Operation α)) : Registry α :=
  (runOperations perform empty operations).2

theorem Registry.names_after (operations : List (Operation α)) :
    (after operations).names = (internedNames operations).eraseDups :=
  names_runOperations operations rfl

theorem Registry.mem_names_after {operations : List (Operation α)} {name : String} :
    name ∈ (after operations).names ↔ name ∈ internedNames operations := by
  rw [names_after, List.mem_eraseDups]

theorem SymbolTable.represents_after (operations : List (Operation α)) :
    (after operations).Represents (Registry.after operations) :=
  (runOperations_simulates (fun _ _ operation h => h.perform operation) operations
    represents_empty).2

/-- **A symbol table is a list of entries under distinct names**, whatever operations it has seen.
-/
theorem symbolTable_runs_as_registry (operations : List (Operation α)) :
    (runOperations SymbolTable.perform .empty operations).1 =
      (runOperations Registry.perform .empty operations).1 ∧
    (SymbolTable.after operations).Represents (Registry.after operations) ∧
    (Registry.after operations).names = (internedNames operations).eraseDups ∧
    (∀ name, (SymbolTable.after operations).contains name = true ↔
      name ∈ internedNames operations) ∧
    (∀ name make, name ∉ internedNames operations →
      (SymbolTable.after operations).intern name make =
        ⟨make ((SymbolTable.after operations).size + 1), true,
          (SymbolTable.after operations).push name
            (make ((SymbolTable.after operations).size + 1))⟩) ∧
    (∀ name make, name ∈ internedNames operations →
      ∃ entry, (SymbolTable.after operations).get? name = some entry ∧
        (SymbolTable.after operations).intern name make =
          ⟨entry, false, SymbolTable.after operations⟩) ∧
    ∀ (name : String) (slot : Nat), (SymbolTable.after operations).slots[name]? = some slot →
      slot < (SymbolTable.after operations).size := by
  have h := SymbolTable.represents_after operations
  have hreplies := (runOperations_simulates (fun _ _ operation h => h.perform operation) operations
    (SymbolTable.represents_empty (α := α))).1
  refine ⟨hreplies, h, Registry.names_after operations, fun name => ?_, fun name make hname => ?_,
    fun name make hname => ?_, fun name slot => h.slot_lt⟩
  · rw [h.contains_eq, decide_eq_true_eq, Registry.mem_names_after]
  · rw [← Registry.mem_names_after, ← Registry.find?_eq_none_iff, ← h.get?_eq] at hname
    exact SymbolTable.intern_of_none hname make
  · rw [← Registry.mem_names_after] at hname
    obtain ⟨entry, hentry⟩ : ∃ entry, (Registry.after operations).find? name = some entry := by
      rw [← Option.ne_none_iff_exists', Ne, Registry.find?_eq_none_iff, not_not]
      exact hname
    rw [← h.get?_eq] at hentry
    exact ⟨entry, hentry, SymbolTable.intern_of_some hentry make⟩

/-- A table that is used again after it was cleared, with an entry that no longer says its name. -/
theorem symbolTable_runs_as_registry_of_reuse :
    ∃ operations : List (Operation Constant),
      ("1" ∉ internedNames operations ∧
        (SymbolTable.after operations).intern "1" (.mk "1") =
          ⟨⟨"1", 2⟩, true, (SymbolTable.after operations).push "1" ⟨"1", 2⟩⟩) ∧
      ("-1" ∈ internedNames operations ∧
        (SymbolTable.after operations).intern "-1" (.mk "-1") =
          ⟨⟨"one", 1⟩, false, SymbolTable.after operations⟩) ∧
      (SymbolTable.after operations).slots["-1"]? = some 0 ∧
        0 < (SymbolTable.after operations).size := by
  obtain ⟨operations, heq⟩ : ∃ operations : List (Operation Constant),
      operations = [.intern "1" (.mk "1") id, .clear,
        .intern "-1" (.mk "-1") fun entry => ⟨"one", entry.index⟩] := ⟨_, rfl⟩
  have hsize : (SymbolTable.after operations).size = 1 := by rw [heq]; cbv
  have hget : (SymbolTable.after operations).get? "-1" = some ⟨"one", 1⟩ := by rw [heq]; cbv
  have hslot : (SymbolTable.after operations).slots["-1"]? = some 0 := by rw [heq]; cbv
  have hother : "1" ∉ internedNames operations := by rw [heq]; decide
  have hname : "-1" ∈ internedNames operations := by rw [heq]; decide
  obtain ⟨-, -, -, -, hnew, hknown, hslots⟩ := symbolTable_runs_as_registry operations
  have hfresh := hnew "1" (.mk "1") hother
  rw [hsize] at hfresh
  obtain ⟨entry, hentry, hintern⟩ := hknown "-1" (.mk "-1") hname
  obtain rfl := Option.some.inj (hget.symm.trans hentry)
  exact ⟨operations, ⟨hother, hfresh⟩, ⟨hname, hintern⟩, hslot, hslots "-1" 0 hslot⟩

end Lexis
