import Lexis.Proofs.Declarations
import Lexis.Proofs.LabelFlow

/-!
# The numbers of symbols

Tokens and symbol tables describe each other: a table holds the names that the tokens of its kind
show, in the order in which they were first met, and each of these tokens carries the place of its
name.

* `numberIn`: the place of a name among the names of a list, repeats not counted;
* `Lexeme.symbolName`, `symbolNames`: the name that a lexeme stands for, and those of all lexemes of
  a kind;
* `SymbolTable.Lists`: the table holds the names of a list and numbers them;
* `Draft.Numbered`, `Draft.Reachable.numbered`: the tables of a draft and its tokens agree with the
  lexemes;
* **`tokens_describe_tables`**: so they do in every analysis, and a look-up finds the symbol that the
  tokens of its name point to.
-/

namespace Lexis

/-! ## Names without repeats -/

theorem eraseDups_append (names others : List String) :
    (names ++ others).eraseDups =
      names.eraseDups ++ (others.filter fun name => name ∉ names).eraseDups := by
  rw [List.eraseDups_append, List.removeAll]
  simp

theorem eraseDups_append_singleton (names : List String) (name : String) :
    (names ++ [name]).eraseDups = names.eraseDups ++ if name ∈ names then [] else [name] := by
  rw [eraseDups_append]
  by_cases h : name ∈ names <;> simp [h, List.eraseDups_cons]

theorem nodup_eraseDups (names : List String) : names.eraseDups.Nodup := by
  induction names using List.reverseRecOn with
  | nil => simp
  | append_singleton names name ih =>
    rw [eraseDups_append_singleton]
    split
    · rwa [List.append_nil]
    · next hname =>
      refine List.nodup_append.2 ⟨ih, List.nodup_singleton name, fun a ha b hb heq => hname ?_⟩
      rw [← List.mem_singleton.1 hb, ← heq]
      exact List.mem_eraseDups.1 ha

theorem eraseDups_map {rename : String → String} (h : rename.Injective) (names : List String) :
    (names.map rename).eraseDups = names.eraseDups.map rename := by
  induction names using List.reverseRecOn with
  | nil => rfl
  | append_singleton names name ih =>
    have hmem : rename name ∈ names.map rename ↔ name ∈ names := List.mem_map_of_injective h
    rw [List.map_append, List.map_singleton, eraseDups_append_singleton, ih,
      eraseDups_append_singleton, List.map_append]
    by_cases hname : name ∈ names <;> simp [hmem, hname]

/-- The place of a name among the names of a list, counted from 1, in which each name counts where it
is first met. -/
def numberIn (names : List String) (name : String) : Nat := names.eraseDups.idxOf name + 1

theorem numberIn_append {names : List String} {name : String} (h : name ∈ names)
    (others : List String) : numberIn (names ++ others) name = numberIn names name := by
  rw [numberIn, List.eraseDups_append, List.idxOf_append_of_mem (List.mem_eraseDups.2 h), numberIn]

theorem idxOf_map {rename : String → String} (h : rename.Injective) (names : List String)
    (name : String) : (names.map rename).idxOf (rename name) = names.idxOf name := by
  rw [List.idxOf, List.idxOf, List.findIdx_map]
  refine congrArg (names.findIdx ·) (funext fun other => ?_)
  simp [h.eq_iff]

/-- The place of a name does not change when all names do. -/
theorem numberIn_map {rename : String → String} (h : rename.Injective) (names : List String)
    (name : String) : numberIn (names.map rename) (rename name) = numberIn names name := by
  rw [numberIn, eraseDups_map h, idxOf_map h, numberIn]

/-! ## Names of lexemes -/

/-- The lexemes of the kind stand for symbols. -/
def Kind.isSymbolic : Kind → Bool
  | .identifier | .constant | .label => true
  | .spelling _ | .unmapped => false

/-- The name of the symbol that a lexeme stands for. -/
def Lexeme.symbolName (l : Lexeme) : String := if l.kind = .label then l.labelName else l.text

/-- The names that the lexemes of a kind stand for, one for each lexeme. -/
def symbolNames (kind : Kind) (ls : List Lexeme) : List String :=
  (ls.filter fun l => l.kind = kind).map Lexeme.symbolName

/-- The number that a lexeme of the stream `ls` has among the lexemes of its kind. -/
def Lexeme.number? (ls : List Lexeme) (l : Lexeme) : Option Nat :=
  if l.kind.isSymbolic then some (numberIn (symbolNames l.kind ls) l.symbolName) else none

theorem symbolNames_append (kind : Kind) (ls ks : List Lexeme) :
    symbolNames kind (ls ++ ks) = symbolNames kind ls ++ symbolNames kind ks := by
  simp [symbolNames]

theorem symbolNames_append_of_eq {kind : Kind} {l : Lexeme} (h : l.kind = kind) (ls : List Lexeme) :
    symbolNames kind (ls ++ [l]) = symbolNames kind ls ++ [l.symbolName] := by
  simp [symbolNames, h]

theorem symbolNames_append_of_ne {kind : Kind} {l : Lexeme} (h : l.kind ≠ kind) (ls : List Lexeme) :
    symbolNames kind (ls ++ [l]) = symbolNames kind ls := by
  simp [symbolNames, h]

theorem Lexeme.symbolName_of_label {l : Lexeme} (h : l.kind = .label) :
    l.symbolName = l.labelName :=
  if_pos h

theorem Lexeme.symbolName_of_ne_label {l : Lexeme} (h : l.kind ≠ .label) : l.symbolName = l.text :=
  if_neg h

theorem mem_symbolNames_iff {kind : Kind} {name : String} {ls : List Lexeme} :
    name ∈ symbolNames kind ls ↔ ∃ l ∈ ls, l.kind = kind ∧ l.symbolName = name := by
  simp [symbolNames, and_assoc]

theorem Lexeme.isIdentifierOf_iff {name : String} {l : Lexeme} :
    l.isIdentifierOf name = true ↔ l.kind = .identifier ∧ l.symbolName = name := by
  rw [isIdentifierOf, Bool.and_eq_true, decide_eq_true_eq, decide_eq_true_eq]
  exact and_congr_right fun hkind => by rw [symbolName_of_ne_label (by simp [hkind])]

theorem Lexeme.isLabelOf_iff {name : String} {l : Lexeme} :
    l.isLabelOf name = true ↔ l.kind = .label ∧ l.symbolName = name := by
  rw [isLabelOf, Bool.and_eq_true, decide_eq_true_eq, decide_eq_true_eq]
  exact and_congr_right fun hkind => by rw [symbolName_of_label hkind]

theorem any_isIdentifierOf_iff {name : String} {ls : List Lexeme} :
    ls.any (Lexeme.isIdentifierOf name) = true ↔ name ∈ symbolNames .identifier ls := by
  rw [List.any_eq_true, mem_symbolNames_iff]
  exact exists_congr fun l => and_congr_right fun _ => Lexeme.isIdentifierOf_iff

theorem any_isLabelOf_iff {name : String} {ls : List Lexeme} :
    ls.any (Lexeme.isLabelOf name) = true ↔ name ∈ symbolNames .label ls := by
  rw [List.any_eq_true, mem_symbolNames_iff]
  exact exists_congr fun l => and_congr_right fun _ => Lexeme.isLabelOf_iff

theorem symbolName_mem_symbolNames {ls : List Lexeme} {l : Lexeme} (h : l ∈ ls) :
    l.symbolName ∈ symbolNames l.kind ls :=
  List.mem_map_of_mem (List.mem_filter.2 ⟨h, decide_eq_true rfl⟩)

/-- What comes later does not change the number of a lexeme. -/
theorem Lexeme.number?_append {ls : List Lexeme} {l : Lexeme} (h : l ∈ ls) (ks : List Lexeme) :
    l.number? (ls ++ ks) = l.number? ls := by
  rw [number?, number?, symbolNames_append, numberIn_append (symbolName_mem_symbolNames h)]

/-! ## Tables that list names -/

namespace SymbolTable

variable {α : Type}

/-- A change of an entry does not show in what it leaves alone. -/
theorem map_toList_modify {β : Type} (t : SymbolTable α) (name : String) {f : α → α} {g : α → β}
    (hg : ∀ entry, g (f entry) = g entry) : (t.modify name f).toList.map g = t.toList.map g := by
  unfold modify
  split
  · next slot _ =>
    refine List.ext_getElem (by simp [toList]) fun k _ _ => ?_
    by_cases heq : slot = k <;> simp [toList, heq, hg]
  · rfl

variable [Symbol α]

/-- The table holds the names of the list, each once and where it is first met, and numbers its
entries from 1 on. -/
structure Lists (t : SymbolTable α) (names : List String) : Prop extends Keyed t where
  names_eq : t.toList.map Symbol.name = names.eraseDups
  indices_eq : t.toList.map Symbol.index = List.range' 1 t.size

theorem lists_empty : (empty : SymbolTable α).Lists [] where
  toKeyed := keyed_empty
  names_eq := rfl
  indices_eq := rfl

namespace Lists

variable {t : SymbolTable α} {names : List String} (h : t.Lists names)
include h

theorem isSome_get?_iff (name : String) : (t.get? name).isSome = true ↔ name ∈ names := by
  rw [← List.mem_eraseDups, ← h.names_eq, List.mem_map, Option.isSome_iff_exists]
  constructor
  · rintro ⟨entry, hentry⟩
    exact ⟨entry, mem_toList_of_get? hentry, h.name_eq name entry hentry⟩
  · rintro ⟨entry, hmem, rfl⟩
    exact ⟨entry, h.toKeyed.mem_toList_iff.1 hmem⟩

theorem index_getElem {k : Nat} (hk : k < t.toList.length) : Symbol.index t.toList[k] = k + 1 := by
  have hindex := congrArg (fun indices => indices[k]?) h.indices_eq
  simpa [hk, ← length_toList, Nat.add_comm 1 k] using hindex

theorem index_eq {entry : α} (hmem : entry ∈ t.toList) :
    Symbol.index entry = numberIn names (Symbol.name entry) := by
  obtain ⟨k, hk, rfl⟩ := List.mem_iff_getElem.1 hmem
  have hlen : k < names.eraseDups.length := by rw [← h.names_eq, List.length_map]; exact hk
  have hname : Symbol.name t.toList[k] = names.eraseDups[k] := by
    simp only [← h.names_eq, List.getElem_map]
  rw [h.index_getElem hk, hname, numberIn, (nodup_eraseDups names).idxOf_getElem]

theorem intern (name : String) {make : Nat → α} (hname : ∀ index, Symbol.name (make index) = name)
    (hindex : ∀ index, Symbol.index (make index) = index) :
    (t.intern name make).table.Lists (names ++ [name]) := by
  have hkeyed := h.toKeyed.intern name make hname
  have hiff := h.isSome_get?_iff name
  cases hget : t.get? name with
  | some entry =>
    rw [hget] at hiff
    rw [intern_of_some hget] at hkeyed ⊢
    refine ⟨hkeyed, ?_, h.indices_eq⟩
    rw [eraseDups_append_singleton, if_pos (hiff.1 rfl), List.append_nil, h.names_eq]
  | none =>
    rw [hget] at hiff
    rw [intern_of_none hget] at hkeyed ⊢
    have hnew : name ∉ names := fun hmem => nomatch hiff.2 hmem
    refine ⟨hkeyed, ?_, ?_⟩
    · rw [eraseDups_append_singleton, if_neg hnew, toList_push, List.map_append, h.names_eq,
        List.map_singleton, hname]
    · rw [toList_push, List.map_append, h.indices_eq, List.map_singleton, hindex, size_push,
        List.range'_concat, Nat.one_mul, Nat.add_comm]

/-- The entry of an interned name has the number of that name. -/
theorem index_intern (name : String) {make : Nat → α}
    (hname : ∀ index, Symbol.name (make index) = name)
    (hindex : ∀ index, Symbol.index (make index) = index) :
    Symbol.index (t.intern name make).entry = numberIn (names ++ [name]) name := by
  have hget := h.toWellFormed.get?_intern name name make
  rw [if_pos rfl] at hget
  have hlists := h.intern name hname hindex
  rw [hlists.index_eq (mem_toList_of_get? hget), hlists.name_eq _ _ hget]

theorem modify (name : String) {f : α → α}
    (hname : ∀ entry, Symbol.name (f entry) = Symbol.name entry)
    (hindex : ∀ entry, Symbol.index (f entry) = Symbol.index entry) :
    (t.modify name f).Lists names := by
  refine ⟨h.toKeyed.modify name hname, ?_, ?_⟩
  · rw [map_toList_modify t name hname, h.names_eq]
  · rw [map_toList_modify t name hindex, h.indices_eq, size_modify]

end Lists

end SymbolTable

/-! ## Drafts -/

namespace Draft

variable {d : Draft}

/-- The index that a lexeme gets when it is added. -/
def indexFor (d : Draft) (l : Lexeme) : Option Nat :=
  match l.kind with
  | .identifier =>
    some (d.identifiers.intern l.text fun index =>
      ⟨l.text, index, d.context.declaredType?.getD Identifier.notDeclared⟩).entry.index
  | .constant => some (d.constants.intern l.text fun index => ⟨l.text, index⟩).entry.index
  | .label => some (d.labelEntry l).index
  | .spelling _ | .unmapped => none

theorem tokens_addLexeme (d : Draft) (l : Lexeme) :
    (d.addLexeme l).tokens.toList = d.tokens.toList ++ [⟨l, d.tokens.size + 1, d.indexFor l⟩] := by
  cases hkind : l.kind <;>
    simp [addLexeme, indexFor, hkind, addIdentifier, addConstant, addLabel, labelEntry]

theorem constants_addLexeme (d : Draft) (l : Lexeme) :
    (d.addLexeme l).constants =
      if l.kind = .constant then
        (d.constants.intern l.text fun index => ⟨l.text, index⟩).table
      else d.constants := by
  cases hkind : l.kind <;> simp [addLexeme, hkind, addIdentifier, addConstant, addLabel]

theorem index_markLabel (d : Draft) (l : Lexeme) (label : Label) :
    (d.markLabel l label).index = label.index := by
  unfold markLabel
  split <;> rfl

/-- Tables and tokens of a draft number the symbols as its lexemes do. -/
structure Numbered (d : Draft) : Prop where
  identifiers : d.identifiers.Lists (symbolNames .identifier d.lexemes)
  constants : d.constants.Lists (symbolNames .constant d.lexemes)
  labels : d.labels.Lists (symbolNames .label d.lexemes)
  tokens : d.tokens.toList = d.lexemes.mapIdx fun k l => ⟨l, k + 1, l.number? d.lexemes⟩

theorem Numbered.indexFor_eq (h : d.Numbered) (l : Lexeme) :
    d.indexFor l = l.number? (d.lexemes ++ [l]) := by
  rw [Lexeme.number?, symbolNames_append_of_eq rfl]
  cases hkind : l.kind with
  | identifier =>
    rw [indexFor, hkind, Lexeme.symbolName_of_ne_label (by simp [hkind])]
    exact congrArg some (h.identifiers.index_intern l.text (fun _ => rfl) fun _ => rfl)
  | constant =>
    rw [indexFor, hkind, Lexeme.symbolName_of_ne_label (by simp [hkind])]
    exact congrArg some (h.constants.index_intern l.text (fun _ => rfl) fun _ => rfl)
  | label =>
    rw [indexFor, hkind, Lexeme.symbolName_of_label hkind]
    exact congrArg some (h.labels.index_intern l.labelName (fun _ => rfl) fun _ => rfl)
  | _ => rw [indexFor, hkind]; rfl

theorem Numbered.tokens_addLexeme (h : d.Numbered) (l : Lexeme) :
    (d.addLexeme l).tokens.toList =
      (d.addLexeme l).lexemes.mapIdx fun k m => ⟨m, k + 1, m.number? (d.addLexeme l).lexemes⟩ := by
  have hsize : d.tokens.size = d.lexemes.length := by rw [lexemes, List.length_map]; rfl
  rw [Draft.tokens_addLexeme, lexemes_addLexeme, List.mapIdx_append, h.tokens, h.indexFor_eq, hsize]
  congr 1
  · refine List.ext_getElem (by simp) fun k hk _ => ?_
    rw [List.length_mapIdx] at hk
    simp only [List.getElem_mapIdx, Lexeme.number?_append (List.getElem_mem hk)]
  · simp

theorem Numbered.addLexeme (h : d.Numbered) (l : Lexeme) : (d.addLexeme l).Numbered := by
  refine ⟨?_, ?_, ?_, h.tokens_addLexeme l⟩
  · rw [identifiers_addLexeme, lexemes_addLexeme]
    split
    · next hkind =>
      rw [symbolNames_append_of_eq hkind, Lexeme.symbolName_of_ne_label (by simp [hkind])]
      exact h.identifiers.intern l.text (fun _ => rfl) fun _ => rfl
    · next hkind => rw [symbolNames_append_of_ne hkind]; exact h.identifiers
  · rw [constants_addLexeme, lexemes_addLexeme]
    split
    · next hkind =>
      rw [symbolNames_append_of_eq hkind, Lexeme.symbolName_of_ne_label (by simp [hkind])]
      exact h.constants.intern l.text (fun _ => rfl) fun _ => rfl
    · next hkind => rw [symbolNames_append_of_ne hkind]; exact h.constants
  · rw [labels_addLexeme, lexemes_addLexeme]
    split
    · next hkind =>
      rw [symbolNames_append_of_eq hkind, Lexeme.symbolName_of_label hkind]
      have hlists : (d.labels.intern l.labelName fun index =>
          ⟨l.labelName, index, none, none⟩).table.Lists _ :=
        h.labels.intern l.labelName (fun _ => rfl) fun _ => rfl
      exact hlists.modify l.labelName (name_markLabel d l) (index_markLabel d l)
    · next hkind => rw [symbolNames_append_of_ne hkind]; exact h.labels

/-- **Every draft numbers its symbols as its lexemes do.** -/
theorem Reachable.numbered (h : d.Reachable) : d.Numbered := by
  induction h with
  | empty => exact ⟨SymbolTable.lists_empty, SymbolTable.lists_empty, SymbolTable.lists_empty, rfl⟩
  | lexeme h l ih => exact ih.addLexeme l
  | rejected h _ ih => exact ⟨ih.identifiers, ih.constants, ih.labels, ih.tokens⟩

end Draft

/-! ## Analyses -/

/-- The symbols are those that the tokens of a kind stand for, numbered in the order of their first
sighting, and the tokens carry these numbers. -/
structure Describes {α : Type} [Symbol α] (symbols : List α) (kind : Kind) (tokens : List Token) :
    Prop where
  names : symbols.map Symbol.name = (symbolNames kind (tokens.map Token.toLexeme)).eraseDups
  indices : symbols.map Symbol.index = List.range' 1 symbols.length
  pointers : ∀ t ∈ tokens, t.kind = kind →
    ∃ symbol ∈ symbols, Symbol.name symbol = t.symbolName ∧ t.index = some (Symbol.index symbol)

/-- Tokens and tables describe each other. -/
structure Analysis.Consistent (a : Analysis) : Prop where
  ids : a.tokens.map Token.id = List.range' 1 a.tokens.length
  identifiers : Describes a.identifiers .identifier a.tokens
  constants : Describes a.constants .constant a.tokens
  labels : Describes a.labels .label a.tokens
  others : ∀ t ∈ a.tokens, t.kind.isSymbolic = false → t.index = none

/-- What a look-up of a name should find: the one symbol of that name, which all tokens of that kind
and name point to; nothing if there are no such tokens. -/
def FindsSymbol {α : Type} [Symbol α] (found : Option α) (name : String) (symbols : List α)
    (kind : Kind) (tokens : List Token) : Prop :=
  match found with
  | some symbol =>
    (∀ other, other ∈ symbols ∧ Symbol.name other = name ↔ other = symbol) ∧
      (∃ t ∈ tokens, t.kind = kind ∧ t.symbolName = name) ∧
      ∀ t ∈ tokens, t.kind = kind → t.symbolName = name → t.index = some (Symbol.index symbol)
  | none => ∀ t ∈ tokens, t.kind = kind → t.symbolName ≠ name

section

variable {α : Type} [Symbol α] {symbols : List α} {kind : Kind} {tokens : List Token}

theorem mem_symbolNames_tokens_iff {name : String} :
    name ∈ symbolNames kind (tokens.map Token.toLexeme) ↔
      ∃ t ∈ tokens, t.kind = kind ∧ t.symbolName = name := by
  simp [mem_symbolNames_iff]

theorem SymbolTable.Lists.describes {t : SymbolTable α}
    (h : t.Lists (symbolNames kind (tokens.map Token.toLexeme))) (hkind : kind.isSymbolic = true)
    (hindex : ∀ s ∈ tokens, s.index = s.number? (tokens.map Token.toLexeme)) :
    Describes t.toList kind tokens := by
  refine ⟨h.names_eq, h.indices_eq, fun s hs heq => ?_⟩
  have hsome := (h.isSome_get?_iff s.symbolName).2 (mem_symbolNames_tokens_iff.2 ⟨s, hs, heq, rfl⟩)
  obtain ⟨entry, hentry⟩ := Option.isSome_iff_exists.1 hsome
  have hname := h.name_eq _ _ hentry
  refine ⟨entry, mem_toList_of_get? hentry, hname, ?_⟩
  rw [hindex s hs, Lexeme.number?, if_pos (heq ▸ hkind), h.index_eq (mem_toList_of_get? hentry),
    hname, heq]

theorem Describes.findsSymbol (h : Describes symbols kind tokens) (name : String) :
    FindsSymbol (Symbol.find? symbols name) name symbols kind tokens := by
  have hmem (name : String) : (∃ symbol ∈ symbols, Symbol.name symbol = name) ↔
      ∃ t ∈ tokens, t.kind = kind ∧ t.symbolName = name := by
    rw [← mem_symbolNames_tokens_iff, ← List.mem_eraseDups, ← h.names, List.mem_map]
  have hinj : ∀ s ∈ symbols, ∀ r ∈ symbols, Symbol.name s = Symbol.name r → s = r := by
    refine fun s hs r hr heq => List.inj_on_of_nodup_map ?_ hs hr heq
    rw [h.names]
    exact nodup_eraseDups _
  cases hfound : Symbol.find? symbols name with
  | some symbol =>
    have hsymbol := List.mem_of_find?_eq_some hfound
    obtain rfl : Symbol.name symbol = name := by simpa using List.find?_some hfound
    refine ⟨fun other => ⟨fun hother => hinj _ hother.1 _ hsymbol hother.2, ?_⟩,
      (hmem _).1 ⟨symbol, hsymbol, rfl⟩, fun t ht hkind hname => ?_⟩
    · rintro rfl
      exact ⟨hsymbol, rfl⟩
    · obtain ⟨other, hother, hname', hindex⟩ := h.pointers t ht hkind
      rw [hindex, hinj other hother symbol hsymbol (hname'.trans hname)]
  | none =>
    intro t ht hkind hname
    obtain ⟨symbol, hsymbol, heq⟩ := (hmem name).2 ⟨t, ht, hkind, hname⟩
    exact absurd heq (by simpa using List.find?_eq_none.1 hfound symbol hsymbol)

end

theorem Draft.Numbered.consistent {d : Draft} (h : d.Numbered) : d.toAnalysis.Consistent := by
  have hlexemes : d.toAnalysis.tokens.map Token.toLexeme = d.lexemes := rfl
  have hindex : ∀ t ∈ d.toAnalysis.tokens,
      t.index = t.number? (d.toAnalysis.tokens.map Token.toLexeme) := by
    intro t ht
    rw [hlexemes]
    rw [toAnalysis, h.tokens] at ht
    obtain ⟨k, hk, rfl⟩ := List.mem_mapIdx.1 ht
    rfl
  refine ⟨?_, h.identifiers.describes rfl hindex, h.constants.describes rfl hindex,
    h.labels.describes rfl hindex, fun t ht hkind => ?_⟩
  · rw [toAnalysis, h.tokens]
    refine List.ext_getElem (by simp) fun k hk _ => ?_
    simp [Nat.add_comm]
  · rw [hindex t ht, Lexeme.number?, hkind]
    rfl

/-- **Tokens and symbol tables describe each other**, so a look-up finds the one entry that all
tokens of a name point to. -/
theorem tokens_describe_tables (table : Spellings) (source : String) :
    (Draft.scan table source).toAnalysis.Consistent ∧
      ∀ a, analyzeWith table source = .ok a → a.Consistent ∧ ∀ name,
        FindsSymbol (a.identifier? name) name a.identifiers .identifier a.tokens ∧
          FindsSymbol (a.constant? name) name a.constants .constant a.tokens ∧
          FindsSymbol (a.label? name) name a.labels .label a.tokens := by
  have h := (Draft.reachable_scan table source).numbered.consistent
  refine ⟨h, fun a ha => ?_⟩
  obtain ⟨-, rfl⟩ := Draft.finish_eq_ok_iff.1 ha
  exact ⟨h, fun name => ⟨h.identifiers.findsSymbol name, h.constants.findsSymbol name,
    h.labels.findsSymbol name⟩⟩

/-- Identifiers, a label that is met with a colon and without one, and a constant that is met twice. -/
theorem tokens_describe_tables_of_loop :
    ∃ a, analyzeWith .standard "int x y\nL: y = -1\ngoto L -1" = .ok a ∧ a.Consistent ∧
      a.identifiers = [⟨"x", 1, "int"⟩, ⟨"y", 2, "int"⟩] ∧
      a.tokens.map Token.index = [none, some 1, some 2, none, some 1, some 2, none, some 1, none,
        none, some 1, some 1] ∧
      FindsSymbol (some ⟨"y", 2, "int"⟩) "y" a.identifiers .identifier a.tokens ∧
      FindsSymbol (some ⟨"-1", 1⟩) "-1" a.constants .constant a.tokens ∧
      FindsSymbol (some ⟨"L", 1, some 3, some 2⟩) "L" a.labels .label a.tokens ∧
      FindsSymbol none "L" a.identifiers .identifier a.tokens := by
  have h : analyzeWith .standard "int x y\nL: y = -1\ngoto L -1" = .ok
      ⟨[⟨⟨1, "int", .spelling 13⟩, 1, none⟩, ⟨⟨1, "x", .identifier⟩, 2, some 1⟩,
          ⟨⟨1, "y", .identifier⟩, 3, some 2⟩, ⟨⟨1, "¶", .spelling 31⟩, 4, none⟩,
          ⟨⟨2, "L:", .label⟩, 5, some 1⟩, ⟨⟨2, "y", .identifier⟩, 6, some 2⟩,
          ⟨⟨2, "=", .spelling 1⟩, 7, none⟩, ⟨⟨2, "-1", .constant⟩, 8, some 1⟩,
          ⟨⟨2, "¶", .spelling 31⟩, 9, none⟩, ⟨⟨3, "goto", .spelling 25⟩, 10, none⟩,
          ⟨⟨3, "L", .label⟩, 11, some 1⟩, ⟨⟨3, "-1", .constant⟩, 12, some 1⟩],
        [⟨"x", 1, "int"⟩, ⟨"y", 2, "int"⟩], [⟨"-1", 1⟩], [⟨"L", 1, some 3, some 2⟩]⟩ := by cbv
  obtain ⟨hconsistent, hfinds⟩ := (tokens_describe_tables .standard _).2 _ h
  exact ⟨_, h, hconsistent, rfl, rfl, (hfinds "y").1, (hfinds "-1").2.1, (hfinds "L").2.2,
    (hfinds "L").1⟩

end Lexis
