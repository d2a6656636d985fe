import Lexis.Proofs.Numbering

/-!
# The analysis of a stream

What the tables of a draft hold, and the numbers that its tokens carry, can be written down from its
lexemes at once, without adding one after the other.

* `symbolsOf`: the symbols of a list of names, with `symbolsOf_append` and `index_find?_symbolsOf`;
* `typeOf`: the declared type that a rescan finds for an identifier;
* `Analysis.ofLexemes`: the tokens and tables that lexemes lead to;
* **`Draft.Reachable.toAnalysis_eq`**: every draft ends in the analysis of its lexemes.
-/

namespace Lexis

/-! ## Names and the symbols of them -/

theorem eraseDups_filter (p : String → Bool) (names : List String) :
    (names.filter p).eraseDups = names.eraseDups.filter p := by
  induction names using List.reverseRecOn with
  | nil => rfl
  | append_singleton names name ih =>
    rw [List.filter_append, eraseDups_append_singleton, List.filter_append, ← ih]
    cases hp : p name with
    | false => by_cases hmem : name ∈ names <;> simp [hp, hmem]
    | true =>
      have hiff : name ∈ names.filter p ↔ name ∈ names := by simp [hp]
      rw [List.filter_singleton, hp, Bool.cond_true, eraseDups_append_singleton]
      by_cases hmem : name ∈ names <;> simp [hiff, hmem, hp]

theorem filter_not_mem_of_disjoint {names others : List String} (h : names.Disjoint others) :
    (others.filter fun name => name ∉ names) = others :=
  List.filter_eq_self.2 fun _ hother => decide_eq_true fun hname => h hname hother

/-- Names that are new to a list are counted behind it. -/
theorem numberIn_append_of_disjoint {names others : List String} (h : names.Disjoint others)
    {name : String} (hname : name ∈ others) :
    numberIn (names ++ others) name = numberIn others name + names.eraseDups.length := by
  have hnew : name ∉ names.eraseDups := fun hmem => h (List.mem_eraseDups.1 hmem) hname
  rw [numberIn, eraseDups_append, filter_not_mem_of_disjoint h, List.idxOf_append_of_notMem hnew,
    numberIn]
  omega

section

variable {α : Type}

theorem mapIdx_map {β γ : Type} (f : α → β) (g : Nat → β → γ) (as : List α) :
    (as.map f).mapIdx g = as.mapIdx fun k a => g k (f a) :=
  List.ext_getElem (by simp) fun k _ _ => by simp

/-- The symbols that `make` builds of the names of a list and their places, counted from 1. Each
name counts once, where it is first met. -/
def symbolsOf (make : String → Nat → α) (names : List String) : List α :=
  names.eraseDups.mapIdx fun k name => make name (k + 1)

theorem length_symbolsOf (make : String → Nat → α) (names : List String) :
    (symbolsOf make names).length = names.eraseDups.length := List.length_mapIdx

theorem exists_of_mem_symbolsOf {make : String → Nat → α} {names : List String} {symbol : α}
    (h : symbol ∈ symbolsOf make names) : ∃ name ∈ names, ∃ index, make name index = symbol := by
  obtain ⟨k, hk, heq⟩ := List.mem_mapIdx.1 h
  exact ⟨names.eraseDups[k], List.mem_eraseDups.1 (List.getElem_mem hk), k + 1, heq⟩

theorem map_symbolsOf {β : Type} (f : α → β) (make : String → Nat → α) (names : List String) :
    (symbolsOf make names).map f = symbolsOf (fun name index => f (make name index)) names := by
  refine List.ext_getElem (by simp [length_symbolsOf]) fun k _ _ => ?_
  simp [symbolsOf]

theorem symbolsOf_congr {make make' : String → Nat → α} {names : List String}
    (h : ∀ name ∈ names, make name = make' name) :
    symbolsOf make names = symbolsOf make' names := by
  rw [symbolsOf, symbolsOf, List.mapIdx_eq_mapIdx_iff]
  exact fun k hk => congrFun (h _ (List.mem_eraseDups.1 (List.getElem_mem hk))) _

theorem symbolsOf_map {rename : String → String} (h : rename.Injective) (make : String → Nat → α)
    (names : List String) :
    symbolsOf make (names.map rename) = symbolsOf (fun name => make (rename name)) names := by
  rw [symbolsOf, eraseDups_map h, mapIdx_map, symbolsOf]

/-- Of the names that are appended only the new ones count. -/
theorem symbolsOf_append (make : String → Nat → α) (names others : List String) :
    symbolsOf make (names ++ others) = symbolsOf make names ++
      symbolsOf (fun name index => make name (index + names.eraseDups.length))
        (others.filter fun name => name ∉ names) := by
  rw [symbolsOf, eraseDups_append, List.mapIdx_append, symbolsOf, symbolsOf]
  simp only [Nat.add_right_comm]

theorem symbolsOf_append_of_disjoint (make : String → Nat → α) {names others : List String}
    (h : names.Disjoint others) :
    symbolsOf make (names ++ others) = symbolsOf make names ++
      symbolsOf (fun name index => make name (index + names.eraseDups.length)) others := by
  rw [symbolsOf_append, filter_not_mem_of_disjoint h]

theorem names_symbolsOf [Symbol α] {make : String → Nat → α}
    (hname : ∀ name index, Symbol.name (make name index) = name) (names : List String) :
    (symbolsOf make names).map Symbol.name = names.eraseDups := by
  rw [map_symbolsOf]
  simp only [hname]
  refine List.ext_getElem (by simp [length_symbolsOf]) fun k _ _ => ?_
  simp [symbolsOf]

theorem index_find?_symbolsOf [Symbol α] {make : String → Nat → α}
    (hname : ∀ name index, Symbol.name (make name index) = name)
    (hindex : ∀ name index, Symbol.index (make name index) = index) {names : List String}
    {name : String} (h : name ∈ names) :
    (Symbol.find? (symbolsOf make names) name).map Symbol.index = some (numberIn names name) := by
  cases hfound : Symbol.find? (symbolsOf make names) name with
  | some symbol =>
    obtain ⟨k, hk, rfl⟩ := List.mem_mapIdx.1 (List.mem_of_find?_eq_some hfound)
    obtain rfl : names.eraseDups[k] = name := by simpa [hname] using List.find?_some hfound
    rw [Option.map_some, hindex, numberIn, (nodup_eraseDups names).idxOf_getElem]
  | none =>
    rw [← List.mem_eraseDups, ← names_symbolsOf hname, List.mem_map] at h
    obtain ⟨symbol, hsymbol, heq⟩ := h
    exact absurd heq (by simpa using List.find?_eq_none.1 hfound symbol hsymbol)

theorem SymbolTable.Lists.toList_eq [Symbol α] {t : SymbolTable α} {names : List String}
    (h : t.Lists names) {make : String → Nat → α}
    (hmake : ∀ entry ∈ t.toList, make (Symbol.name entry) (Symbol.index entry) = entry) :
    t.toList = symbolsOf make names := by
  rw [symbolsOf, ← h.names_eq, mapIdx_map]
  refine List.ext_getElem (by simp) fun k hk _ => ?_
  rw [List.getElem_mapIdx, ← h.index_getElem hk, hmake _ (List.getElem_mem hk)]

end

/-! ## Analyses -/

/-- The declared type of an identifier, as a rescan finds it. -/
def typeOf (ls : List Lexeme) (name : String) : String :=
  ((firstSighting? name ls).map typeAt).getD Identifier.notDeclared

/-- The identifier of that name and index. -/
def identifierOf (ls : List Lexeme) (name : String) (index : Nat) : Identifier :=
  ⟨name, index, typeOf ls name⟩

/-- The label of that name and index, with the lines that a rescan finds. -/
def labelOf (ls : List Lexeme) (name : String) (index : Nat) : Label :=
  ⟨name, index, firstLine? (references name ls), firstLine? (declarations name ls)⟩

/-- The tokens and tables that lexemes lead to. -/
def Analysis.ofLexemes (ls : List Lexeme) : Analysis where
  tokens := ls.mapIdx fun k l => ⟨l, k + 1, l.number? ls⟩
  identifiers := symbolsOf (identifierOf ls) (symbolNames .identifier ls)
  constants := symbolsOf Constant.mk (symbolNames .constant ls)
  labels := symbolsOf (labelOf ls) (symbolNames .label ls)

/-- **Every draft ends in the analysis of its lexemes.** -/
theorem Draft.Reachable.toAnalysis_eq {d : Draft} (h : d.Reachable) :
    d.toAnalysis = .ofLexemes d.lexemes := by
  have hidentifiers : d.identifiers.toList =
      symbolsOf (identifierOf d.lexemes) (symbolNames .identifier d.lexemes) := by
    refine h.numbered.identifiers.toList_eq fun entry hentry => ?_
    have hget : d.identifiers.get? entry.name = some entry :=
      h.declared.keyed.mem_toList_iff.1 hentry
    have htypes := h.declared.types entry.name
    rw [hget, Option.map_some] at htypes
    change (⟨entry.name, entry.index, typeOf d.lexemes entry.name⟩ : Identifier) = entry
    rw [typeOf, ← htypes]
    rfl
  have hconstants : d.constants.toList =
      symbolsOf Constant.mk (symbolNames .constant d.lexemes) :=
    h.numbered.constants.toList_eq fun _ _ => rfl
  have hlabels : d.labels.toList =
      symbolsOf (labelOf d.lexemes) (symbolNames .label d.lexemes) := by
    refine h.numbered.labels.toList_eq fun entry hentry => ?_
    obtain ⟨hfrom, hto⟩ := h.labelled.lines entry hentry
    change (⟨entry.name, entry.index, firstLine? (references entry.name d.lexemes),
      firstLine? (declarations entry.name d.lexemes)⟩ : Label) = entry
    rw [← hfrom, ← hto]
  rw [toAnalysis, h.numbered.tokens, hidentifiers, hconstants, hlabels]
  rfl

end Lexis
