import Lexis.Proofs.Draft

/-!
# The history of a stream

What can be said of a lexeme from the lexemes before it alone, found by looking through all of them
again.

* `history`, with `history_map`: the elements of a list, each with those before it;
* `sightings`, with `sightings_map`: the elements that have a property, which may depend on those
  before;
* `rescan`: the faults that a look through all lexemes finds;
* `firstOnLine?`, `rescannedType?`: the lexeme that decides what a line is, and the type that the
  line gives its identifiers;
* `LineContext.ofHistory`: **`LineContext.ofHistory_append`** says that one more lexeme changes the
  context as `LineContext.after` does.
-/

namespace Lexis

section

variable {α : Type}

/-- The elements of a list, each with those before it, when others went before the list. -/
def historyFrom (before : List α) : List α → List (List α × α)
  | [] => []
  | a :: as => (before, a) :: historyFrom (before ++ [a]) as

/-- The elements of a list, each with those before it. -/
def history (as : List α) : List (List α × α) := historyFrom [] as

theorem historyFrom_append (before as bs : List α) :
    historyFrom before (as ++ bs) = historyFrom before as ++ historyFrom (before ++ as) bs := by
  induction as generalizing before with
  | nil => simp [historyFrom]
  | cons a as ih => simp [historyFrom, ih]

@[simp] theorem history_nil : history ([] : List α) = [] := rfl

@[simp] theorem history_append_singleton (as : List α) (a : α) :
    history (as ++ [a]) = history as ++ [(as, a)] := by
  simp [history, historyFrom_append, historyFrom]

theorem map_snd_historyFrom (before as : List α) : (historyFrom before as).map Prod.snd = as := by
  induction as generalizing before with
  | nil => rfl
  | cons a as ih => simp [historyFrom, ih]

@[simp] theorem map_snd_history (as : List α) : (history as).map Prod.snd = as :=
  map_snd_historyFrom [] as

theorem prefix_of_mem_history {as : List α} {x : List α × α} (h : x ∈ history as) :
    x.1 ++ [x.2] <+: as := by
  induction as using List.reverseRecOn with
  | nil => cases h
  | append_singleton as a ih =>
    rw [history_append_singleton, List.mem_append, List.mem_singleton] at h
    rcases h with h | rfl
    · exact (ih h).trans (List.prefix_append ..)
    · exact List.prefix_rfl

section

variable {β : Type} (f : α → β)

theorem historyFrom_map (before as : List α) :
    historyFrom (before.map f) (as.map f) =
      (historyFrom before as).map (Prod.map (List.map f) f) := by
  induction as generalizing before with
  | nil => rfl
  | cons a as ih =>
    have htail := ih (before ++ [a])
    rw [List.map_append, List.map_singleton] at htail
    rw [List.map_cons, historyFrom, htail, historyFrom, List.map_cons]
    rfl

theorem history_map (as : List α) :
    history (as.map f) = (history as).map (Prod.map (List.map f) f) := historyFrom_map f [] as

end

theorem any_history (p : α → Bool) (as : List α) :
    ((history as).any fun x => p x.2) = as.any p := by
  conv => rhs; rw [← map_snd_history as, List.any_map]
  rfl

/-- The elements of a list that have the property `p`, given those before them. -/
def sightings (p : List α → α → Bool) (as : List α) : List α :=
  ((history as).filter fun x => p x.1 x.2).map Prod.snd

theorem mem_sightings {p : List α → α → Bool} {as : List α} {a : α} :
    a ∈ sightings p as ↔ ∃ before, (before, a) ∈ history as ∧ p before a = true := by
  simp [sightings]

theorem sightings_append_singleton (p : List α → α → Bool) (as : List α) (a : α) :
    sightings p (as ++ [a]) = sightings p as ++ if p as a then [a] else [] := by
  rw [sightings, history_append_singleton, List.filter_append, List.map_append,
    List.filter_singleton]
  cases p as a <;> rfl

theorem sightings_subset (p : List α → α → Bool) (as : List α) : sightings p as ⊆ as := by
  intro a ha
  obtain ⟨before, hmem, -⟩ := mem_sightings.1 ha
  exact (prefix_of_mem_history hmem).subset (by simp)

theorem sightings_map {β : Type} {f : α → β} {p : List α → α → Bool} {q : List β → β → Bool}
    {as : List α} (h : ∀ x ∈ history as, q (x.1.map f) (f x.2) = p x.1 x.2) :
    sightings q (as.map f) = (sightings p as).map f := by
  have hfilter : (history as).filter ((fun x => q x.1 x.2) ∘ Prod.map (List.map f) f) =
      (history as).filter fun x => p x.1 x.2 := List.filter_congr h
  rw [sightings, history_map, List.filter_map, hfilter, List.map_map, sightings, List.map_map]
  rfl

theorem sightings_eq_nil {p : List α → α → Bool} {as : List α}
    (h : ∀ a ∈ as, ∀ before, p before a = false) : sightings p as = [] := by
  rw [sightings, List.map_eq_nil_iff, List.filter_eq_nil_iff]
  intro x hx
  have hmem : x.2 ∈ as := map_snd_history as ▸ List.mem_map_of_mem hx
  simp [h x.2 hmem x.1]

/-- If nothing of the property comes after another, it is sighted once at most. -/
theorem length_sightings_le_one {p : List α → α → Bool} {as : List α}
    (h : ∀ x ∈ history as, p x.1 x.2 = true → sightings p x.1 = []) :
    (sightings p as).length ≤ 1 := by
  induction as using List.reverseRecOn with
  | nil => simp [sightings]
  | append_singleton as a ih =>
    rw [history_append_singleton] at h
    have hle := ih fun x hx => h x (List.mem_append_left _ hx)
    rw [sightings_append_singleton]
    by_cases hp : p as a = true
    · have hnil := h (as, a) (by simp) hp
      dsimp only at hnil
      rw [hnil, if_pos hp]
      simp
    · rwa [if_neg hp, List.append_nil]

end

/-! ## Faults of a stream -/

/-- The faults that the lexemes have, given those before them, on the lines of the lexemes. -/
def rescan (fault? : List Lexeme → Lexeme → Option Fault) (ls : List Lexeme) : List Diagnostic :=
  (history ls).filterMap fun x => (fault? x.1 x.2).map fun fault => ⟨fault, some x.2.line⟩

theorem rescan_append_singleton (fault? : List Lexeme → Lexeme → Option Fault)
    (ls : List Lexeme) (l : Lexeme) :
    rescan fault? (ls ++ [l]) =
      rescan fault? ls ++ ((fault? ls l).map fun fault => ⟨fault, some l.line⟩).toList := by
  rw [rescan, history_append_singleton, List.filterMap_append]
  cases h : fault? ls l <;> simp [rescan, h]

theorem rescan_eq_nil_iff {fault? : List Lexeme → Lexeme → Option Fault} {ls : List Lexeme} :
    rescan fault? ls = [] ↔ ∀ x ∈ history ls, fault? x.1 x.2 = none := by
  simp [rescan, List.filterMap_eq_nil_iff]

namespace Draft

variable {d : Draft} {topic : Fault.Topic} {rescanned? : List Lexeme → Lexeme → Option Fault}

/-- If the faults of a topic are those of a rescan, and so is the fault of one more lexeme, they
stay so. -/
theorem filter_topic_addLexeme {l : Lexeme}
    (h : d.diagnostics.toList.filter (fun x => x.fault.topic = topic) =
      rescan rescanned? d.lexemes)
    (hl : (d.fault? l).filter (fun fault => fault.topic = topic) = rescanned? d.lexemes l) :
    (d.addLexeme l).diagnostics.toList.filter (fun x => x.fault.topic = topic) =
      rescan rescanned? (d.addLexeme l).lexemes := by
  rw [diagnostics_addLexeme, lexemes_addLexeme, List.filter_append, h, rescan_append_singleton,
    ← hl]
  cases d.fault? l with
  | none => rfl
  | some fault => by_cases htopic : fault.topic = topic <;> simp [Option.filter, htopic]

theorem filter_topic_report {diagnostic : Diagnostic} (htopic : diagnostic.fault.topic ≠ topic)
    (h : d.diagnostics.toList.filter (fun x => x.fault.topic = topic) =
      rescan rescanned? d.lexemes) :
    (d.report diagnostic).diagnostics.toList.filter (fun x => x.fault.topic = topic) =
      rescan rescanned? (d.report diagnostic).lexemes := by
  rw [toList_diagnostics_report, lexemes_report, List.filter_append, h]
  simp [htopic]

end Draft

/-! ## The line that goes on -/

/-- The first lexeme behind the last newline, labels apart. -/
def firstOnLine? (before : List Lexeme) : Option Lexeme :=
  (before.reverse.takeWhile fun l => !l.isNewline).reverse.find? fun l => l.kind ≠ .label

/-- The type keyword that the line begins with. -/
def rescannedType? (before : List Lexeme) : Option String :=
  ((firstOnLine? before).filter Lexeme.isTypeKeyword).map Lexeme.text

theorem firstOnLine?_append_singleton (before : List Lexeme) (l : Lexeme) :
    firstOnLine? (before ++ [l]) =
      if l.isNewline then none
      else (firstOnLine? before).or (if l.kind ≠ .label then some l else none) := by
  rw [firstOnLine?, firstOnLine?, List.reverse_append, List.reverse_singleton,
    List.singleton_append]
  by_cases hnewline : l.isNewline = true
  · simp [hnewline]
  · rw [List.takeWhile_cons_of_pos (by simpa using hnewline), List.reverse_cons, List.find?_append,
      if_neg hnewline]
    by_cases hkind : l.kind = .label <;> simp [hkind]

namespace LineContext

/-- The context that a line has after its first lexeme. -/
def ofFirst? : Option Lexeme → LineContext
  | none => .unseen
  | some l => if l.isTypeKeyword then .declaration l.text else .plain

/-- The context after the lexemes `before`. -/
def ofHistory (before : List Lexeme) : LineContext := ofFirst? (firstOnLine? before)

theorem ofFirst?_some_ne_unseen (l : Lexeme) : ofFirst? (some l) ≠ .unseen := by
  by_cases h : l.isTypeKeyword = true <;> simp [ofFirst?, h]

/-- **One more lexeme changes the context as a rescan would.** -/
theorem ofHistory_append (before : List Lexeme) (l : Lexeme) :
    ofHistory (before ++ [l]) = (ofHistory before).after l := by
  rw [ofHistory, firstOnLine?_append_singleton, after, ofHistory]
  by_cases hnewline : l.isNewline = true
  · rw [if_pos hnewline, if_pos hnewline]
    rfl
  · rw [if_neg hnewline, if_neg hnewline]
    cases firstOnLine? before with
    | some k => simp [ofFirst?_some_ne_unseen]
    | none => by_cases hkind : l.kind = .label <;> simp [ofFirst?, hkind]

theorem declaredType?_ofHistory (before : List Lexeme) :
    (ofHistory before).declaredType? = rescannedType? before := by
  rw [ofHistory, rescannedType?]
  cases firstOnLine? before with
  | none => rfl
  | some l => by_cases h : l.isTypeKeyword = true <;> simp [ofFirst?, declaredType?, Option.filter, h]

end LineContext

theorem Draft.Reachable.context_eq {d : Draft} (h : d.Reachable) :
    d.context = .ofHistory d.lexemes := by
  induction h with
  | empty => rfl
  | lexeme h l ih => rw [context_addLexeme, lexemes_addLexeme, LineContext.ofHistory_append, ih]
  | rejected h _ ih => exact ih

end Lexis
