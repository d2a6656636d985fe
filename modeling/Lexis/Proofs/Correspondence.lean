import Lexis.Proofs.Lockstep
import Lexis.Proofs.Verdict
import Lexis.Proofs.Vocabulary

/-!
# Lexemes that answer alike

The verdict on a source asks few questions of a lexeme: its line, whether it names a symbol and
which one, and whether it is a `goto`, a type keyword or a newline. If each lexeme of a source is
changed into one that answers alike, under names that stay distinct, then the verdict changes in the
names and the lexemes only.

* `Fault.rename`, `Diagnostic.rename`, `Analysis.recast`: what becomes of faults and analyses;
* `Lexeme.Matches`: the second lexeme answers as the first one does, under its new name;
* `Recasts`: each lexeme of a list is changed into one that matches;
* **`Recasts.lexemeFault?_eq`**, **`Recasts.ofLexemes_eq`**: the faults of such lexemes and the
  analysis of them;
* **`verdict_map_recast`**: the verdict on changed pieces;
* **`Lexer.Translates.analyzeWith_eq`**: where a translation of sources comes to such a change, so
  does the outcome.
-/

namespace Lexis

/-! ## New names -/

/-- The fault under new names of variables and labels. -/
def Fault.rename (rename : String → String) : Fault → Fault
  | .unknownSymbol symbol => .unknownSymbol symbol
  | .expectedSymbol found expected => .expectedSymbol found expected
  | .variableRedeclared name => .variableRedeclared (rename name)
  | .variableUndeclared name => .variableUndeclared (rename name)
  | .labelReferencedAgain name => .labelReferencedAgain (rename name)
  | .labelRedeclared name => .labelRedeclared (rename name)
  | .labelNeverDeclared name => .labelNeverDeclared (rename name)

/-- The diagnostic under new names. -/
def Diagnostic.rename (rename : String → String) (d : Diagnostic) : Diagnostic :=
  { d with fault := d.fault.rename rename }

/-- The analysis with its lexemes changed and its identifiers and labels renamed. -/
def Analysis.recast (rename : String → String) (change : Lexeme → Lexeme) (a : Analysis) :
    Analysis where
  tokens := a.tokens.map fun t => { t with toLexeme := change t.toLexeme }
  identifiers := a.identifiers.map fun i => { i with name := rename i.name }
  constants := a.constants
  labels := a.labels.map fun label => { label with name := rename label.name }

/-- The piece with its lexeme changed. -/
def Piece.recast (change : Lexeme → Lexeme) : Piece → Piece
  | .lexeme l => .lexeme (change l)
  | .rejected d => .rejected d
  | .blank => .blank

theorem Fault.rename_of_topic {fault : Fault} (h : fault.topic = .character)
    (rename : String → String) : fault.rename rename = fault := by
  cases fault with
  | unknownSymbol _ | expectedSymbol _ _ => rfl
  | _ => cases h

@[simp] theorem Fault.rename_id (fault : Fault) : fault.rename id = fault := by
  cases fault <;> rfl

@[simp] theorem Diagnostic.rename_id (d : Diagnostic) : d.rename id = d := by
  simp [rename]

@[simp] theorem Piece.lexemes_map_recast (change : Lexeme → Lexeme) (ps : List Piece) :
    lexemes (ps.map (recast change)) = (lexemes ps).map change := by
  induction ps with
  | nil => rfl
  | cons p ps ih => cases p <;> simp [recast, ih]

/-! ## Matching lexemes -/

/-- The second lexeme answers as the first one does, and stands for the same symbol under its new
name. Constants keep their names. -/
structure Lexeme.Matches (rename : String → String) (l l' : Lexeme) : Prop where
  line : l'.line = l.line
  kind : ∀ kind : Kind, kind.isSymbolic = true → (l'.kind = kind ↔ l.kind = kind)
  isGoto : l'.isGoto = l.isGoto
  isNewline : l'.isNewline = l.isNewline
  isTypeKeyword : l'.isTypeKeyword = l.isTypeKeyword
  keyword : l.isTypeKeyword = true → l'.text = l.text
  name : l.kind.isSymbolic = true → l'.symbolName = rename l.symbolName
  constant : l.kind = .constant → rename l.symbolName = l.symbolName

namespace Lexeme.Matches

variable {rename : String → String} {l l' : Lexeme} (h : l.Matches rename l')
include h

theorem kind_of_isSymbolic (hkind : l.kind.isSymbolic = true) : l'.kind = l.kind :=
  (h.kind l.kind hkind).2 rfl

theorem isSymbolic : l'.kind.isSymbolic = l.kind.isSymbolic := by
  cases hkind : l.kind.isSymbolic with
  | true => rw [h.kind_of_isSymbolic hkind, hkind]
  | false =>
    by_contra hne
    rw [Bool.not_eq_false] at hne
    rw [← (h.kind l'.kind hne).1 rfl, hkind] at hne
    cases hne

theorem isOperand : l'.isOperand = l.isOperand := by
  have hidentifier := h.kind .identifier rfl
  have hconstant := h.kind .constant rfl
  simp [Lexeme.isOperand, hidentifier, hconstant]

theorem text_of_identifier (hkind : l.kind = .identifier) : l'.text = rename l.text := by
  have hkind' : l'.kind = .identifier := (h.kind _ rfl).2 hkind
  have hname := h.name (by rw [hkind]; rfl)
  rwa [symbolName_of_ne_label (by simp [hkind']), symbolName_of_ne_label (by simp [hkind])] at hname

theorem labelName_of_label (hkind : l.kind = .label) : l'.labelName = rename l.labelName := by
  have hkind' : l'.kind = .label := (h.kind _ rfl).2 hkind
  have hname := h.name (by rw [hkind]; rfl)
  rwa [symbolName_of_label hkind', symbolName_of_label hkind] at hname

theorem names_iff (hrename : rename.Injective) {kind : Kind} (hkind : kind.isSymbolic = true)
    (name : String) :
    l'.kind = kind ∧ l'.symbolName = rename name ↔ l.kind = kind ∧ l.symbolName = name := by
  rw [h.kind kind hkind]
  apply and_congr_right
  rintro rfl
  rw [h.name hkind, hrename.eq_iff]

theorem isIdentifierOf (hrename : rename.Injective) (name : String) :
    l'.isIdentifierOf (rename name) = l.isIdentifierOf name := by
  rw [Bool.eq_iff_iff, isIdentifierOf_iff, isIdentifierOf_iff, h.names_iff hrename rfl]

theorem isLabelOf (hrename : rename.Injective) (name : String) :
    l'.isLabelOf (rename name) = l.isLabelOf name := by
  rw [Bool.eq_iff_iff, isLabelOf_iff, isLabelOf_iff, h.names_iff hrename rfl]

end Lexeme.Matches

namespace Lexeme

variable {rename : String → String} {l : Lexeme}

theorem isTypeKeyword_of_isSymbolic (h : l.kind.isSymbolic = true) : l.isTypeKeyword = false := by
  rw [isTypeKeyword]
  cases hkind : l.kind with
  | spelling _ => rw [hkind] at h; cases h
  | _ => rfl

theorem matches_self (h : l.kind.isSymbolic = true → rename l.symbolName = l.symbolName) :
    l.Matches rename l where
  line := rfl
  kind _ _ := Iff.rfl
  isGoto := rfl
  isNewline := rfl
  isTypeKeyword := rfl
  keyword _ := rfl
  name hkind := (h hkind).symm
  constant hkind := h (by rw [hkind]; rfl)

/-- Of a kind that names no symbol only a type keyword tells. -/
theorem matches_of_not_isSymbolic {kind : Kind} (h : l.kind.isSymbolic = false)
    (hkind : kind.isSymbolic = false)
    (htype : isTypeKeyword { l with kind := kind } = l.isTypeKeyword) :
    l.Matches rename { l with kind := kind } where
  line := rfl
  kind other hother := by
    constructor
    · rintro rfl
      exact absurd (hkind.symm.trans hother) Bool.false_ne_true
    · rintro rfl
      exact absurd (h.symm.trans hother) Bool.false_ne_true
  isGoto := rfl
  isNewline := rfl
  isTypeKeyword := htype
  keyword _ := rfl
  name hname := absurd (h.symm.trans hname) Bool.false_ne_true
  constant hconstant := by rw [hconstant] at h; cases h

/-- Of the text of a symbol only its name tells, unless a `goto` or a newline reads so. -/
theorem matches_of_isSymbolic {text : String} (hkind : l.kind.isSymbolic = true)
    (hconstant : l.kind ≠ .constant) (hgoto : isGoto { l with text := text } = l.isGoto)
    (hnewline : isNewline { l with text := text } = l.isNewline)
    (hname : symbolName { l with text := text } = rename l.symbolName) :
    l.Matches rename { l with text := text } where
  line := rfl
  kind _ _ := Iff.rfl
  isGoto := hgoto
  isNewline := hnewline
  isTypeKeyword := by
    rw [isTypeKeyword_of_isSymbolic hkind]
    exact isTypeKeyword_of_isSymbolic hkind
  keyword htype := by
    rw [isTypeKeyword_of_isSymbolic hkind] at htype
    cases htype
  name _ := hname
  constant hl := absurd hl hconstant

end Lexeme

/-! ## Lists of them -/

/-- The change turns each of the lexemes into one that matches it, under names that stay
distinct. -/
structure Recasts (rename : String → String) (change : Lexeme → Lexeme) (ls : List Lexeme) :
    Prop where
  injective : rename.Injective
  lexeme : ∀ l ∈ ls, l.Matches rename (change l)

namespace Recasts

variable {rename : String → String} {change : Lexeme → Lexeme} {ls : List Lexeme}
  (h : Recasts rename change ls)
include h

theorem of_subset {ks : List Lexeme} (hsub : ks ⊆ ls) : Recasts rename change ks :=
  ⟨h.injective, fun l hl => h.lexeme l (hsub hl)⟩

theorem of_mem_history {x : List Lexeme × Lexeme} (hx : x ∈ history ls) :
    Recasts rename change x.1 ∧ x.2.Matches rename (change x.2) := by
  have hsub := (prefix_of_mem_history hx).subset
  exact ⟨h.of_subset fun l hl => hsub (List.mem_append_left _ hl), h.lexeme _ (hsub (by simp))⟩

theorem symbolNames_eq {kind : Kind} (hkind : kind.isSymbolic = true) :
    symbolNames kind (ls.map change) = (symbolNames kind ls).map rename := by
  have hfilter : ls.filter ((fun l => l.kind = kind) ∘ change) =
      ls.filter fun l => l.kind = kind := by
    apply List.filter_congr
    intro l hl
    simp [(h.lexeme l hl).kind kind hkind]
  rw [symbolNames, List.filter_map, hfilter, List.map_map, symbolNames, List.map_map]
  apply List.map_congr_left
  intro l hl
  obtain ⟨hmem, heq⟩ := List.mem_filter.1 hl
  exact (h.lexeme l hmem).name (of_decide_eq_true heq ▸ hkind)

theorem mem_symbolNames_iff {kind : Kind} (hkind : kind.isSymbolic = true) (name : String) :
    rename name ∈ symbolNames kind (ls.map change) ↔ name ∈ symbolNames kind ls := by
  rw [h.symbolNames_eq hkind, List.mem_map_of_injective h.injective]

theorem symbolNames_constant :
    symbolNames .constant (ls.map change) = symbolNames .constant ls := by
  rw [h.symbolNames_eq rfl]
  refine (List.map_congr_left fun name hname => ?_).trans (List.map_id _)
  obtain ⟨l, hl, hkind, rfl⟩ := Lexis.mem_symbolNames_iff.1 hname
  exact (h.lexeme l hl).constant hkind

/-! ### The line that goes on -/

theorem firstOnLine?_eq : firstOnLine? (ls.map change) = (firstOnLine? ls).map change := by
  induction ls using List.reverseRecOn with
  | nil => rfl
  | append_singleton ls l ih =>
    have hl : l.Matches rename (change l) := h.lexeme l (by simp)
    have hlabel := hl.kind .label rfl
    rw [List.map_append, List.map_singleton, firstOnLine?_append_singleton,
      firstOnLine?_append_singleton, ih (h.of_subset (List.subset_append_left ..)), hl.isNewline]
    cases l.isNewline with
    | true => rfl
    | false =>
      cases firstOnLine? ls with
      | some k => rfl
      | none => by_cases hkind : l.kind = .label <;> simp [hlabel, hkind]

theorem rescannedType?_eq : rescannedType? (ls.map change) = rescannedType? ls := by
  rw [rescannedType?, h.firstOnLine?_eq, rescannedType?]
  cases hfirst : firstOnLine? ls with
  | none => rfl
  | some l =>
    have hmem : l ∈ ls := by
      have hrun := List.mem_reverse.1 (List.mem_of_find?_eq_some hfirst)
      exact List.mem_reverse.1 ((List.takeWhile_prefix _).subset hrun)
    have hl := h.lexeme l hmem
    have htype := hl.isTypeKeyword
    cases hkeyword : l.isTypeKeyword with
    | true => simp [Option.filter, htype, hkeyword, hl.keyword hkeyword]
    | false => simp [Option.filter, htype, hkeyword]

theorem endsInGoto_eq : endsInGoto (ls.map change) = endsInGoto ls := by
  rw [endsInGoto, List.getLast?_map, endsInGoto]
  cases hlast : ls.getLast? with
  | none => rfl
  | some l => exact (h.lexeme l (List.mem_of_getLast? hlast)).isGoto

/-! ### Identifiers -/

theorem variableFault?_eq {l : Lexeme} (hl : l.Matches rename (change l)) :
    variableFault? (ls.map change) (change l) =
      (variableFault? ls l).map (Fault.rename rename) := by
  rw [variableFault?, variableFault?, h.rescannedType?_eq]
  by_cases hkind : l.kind = .identifier
  · have hany : (ls.map change).any (Lexeme.isIdentifierOf (change l).text) =
        ls.any (Lexeme.isIdentifierOf l.text) := by
      rw [Bool.eq_iff_iff, any_isIdentifierOf_iff, any_isIdentifierOf_iff,
        hl.text_of_identifier hkind, h.mem_symbolNames_iff rfl]
    rw [if_pos ((hl.kind _ rfl).2 hkind), if_pos hkind, hany, hl.text_of_identifier hkind]
    split_ifs <;> rfl
  · rw [if_neg (fun heq => hkind ((hl.kind _ rfl).1 heq)), if_neg hkind]
    rfl

theorem typeOf_eq (name : String) : typeOf (ls.map change) (rename name) = typeOf ls name := by
  have hfind : (history ls).find? ((fun x => x.2.isIdentifierOf (rename name)) ∘
      Prod.map (List.map change) change) = firstSighting? name ls := by
    apply List.find?_congr
    intro x hx
    exact (h.of_mem_history hx).2.isIdentifierOf h.injective name
  rw [typeOf, firstSighting?, history_map, List.find?_map, hfind, typeOf]
  cases hfirst : firstSighting? name ls with
  | none => rfl
  | some x =>
    have hbefore := (h.of_mem_history (List.mem_of_find?_eq_some hfirst)).1
    show (rescannedType? (x.1.map change)).getD Identifier.notDeclared = typeAt x
    rw [hbefore.rescannedType?_eq]
    rfl

theorem identifierOf_eq (name : String) (index : Nat) :
    identifierOf (ls.map change) (rename name) index =
      { identifierOf ls name index with name := rename name } := by
  rw [identifierOf, h.typeOf_eq]
  rfl

/-! ### Labels -/

/-- The labels of a name are found where they were, whatever is asked of a `goto` before them. -/
theorem sightings_isLabelOf (p : Bool → Bool) (name : String) :
    sightings (fun before l => l.isLabelOf (rename name) && p (endsInGoto before)) (ls.map change) =
      (sightings (fun before l => l.isLabelOf name && p (endsInGoto before)) ls).map change := by
  apply sightings_map
  intro x hx
  obtain ⟨hbefore, hx⟩ := h.of_mem_history hx
  rw [hx.isLabelOf h.injective, hbefore.endsInGoto_eq]

theorem references_eq (name : String) :
    references (rename name) (ls.map change) = (references name ls).map change :=
  h.sightings_isLabelOf id name

theorem declarations_eq (name : String) :
    declarations (rename name) (ls.map change) = (declarations name ls).map change :=
  h.sightings_isLabelOf not name

theorem labelFault?_eq {l : Lexeme} (hl : l.Matches rename (change l)) :
    labelFault? (ls.map change) (change l) = (labelFault? ls l).map (Fault.rename rename) := by
  rw [labelFault?, labelFault?, h.endsInGoto_eq]
  by_cases hkind : l.kind = .label
  · rw [if_pos ((hl.kind _ rfl).2 hkind), if_pos hkind, hl.labelName_of_label hkind,
      h.references_eq, h.declarations_eq]
    simp only [List.map_eq_nil_iff]
    split_ifs <;> rfl
  · rw [if_neg (fun heq => hkind ((hl.kind _ rfl).1 heq)), if_neg hkind]
    rfl

theorem firstLine?_eq : firstLine? (ls.map change) = firstLine? ls := by
  cases ls with
  | nil => rfl
  | cons l ls => exact congrArg some (h.lexeme l (by simp)).line

theorem labelOf_eq (name : String) (index : Nat) :
    labelOf (ls.map change) (rename name) index =
      { labelOf ls name index with name := rename name } := by
  have hfrom : Recasts rename change (references name ls) := h.of_subset (sightings_subset _ ls)
  have hto : Recasts rename change (declarations name ls) := h.of_subset (sightings_subset _ ls)
  rw [labelOf, h.references_eq, h.declarations_eq, hfrom.firstLine?_eq, hto.firstLine?_eq]
  rfl

/-! ### Verdicts -/

/-- **A changed lexeme has the fault that it had, under new names.** -/
theorem lexemeFault?_eq {l : Lexeme} (hl : l.Matches rename (change l)) :
    lexemeFault? (ls.map change) (change l) = (lexemeFault? ls l).map (Fault.rename rename) := by
  rw [lexemeFault?, h.variableFault?_eq hl, h.labelFault?_eq hl, lexemeFault?, Option.map_or]

theorem number?_eq {l : Lexeme} (hl : l ∈ ls) :
    (change l).number? (ls.map change) = l.number? ls := by
  have hmatch := h.lexeme l hl
  rw [Lexeme.number?, hmatch.isSymbolic, Lexeme.number?]
  split_ifs with hkind
  · rw [hmatch.kind_of_isSymbolic hkind, h.symbolNames_eq hkind, hmatch.name hkind,
      numberIn_map h.injective]
  · rfl

theorem missingLabels_eq :
    missingLabels (ls.map change) = (missingLabels ls).map (Diagnostic.rename rename) := by
  have hfilter : (symbolNames .label ls).eraseDups.filter
      ((fun name => declarations name (ls.map change) = []) ∘ rename) =
      (symbolNames .label ls).eraseDups.filter fun name => declarations name ls = [] := by
    apply List.filter_congr
    intro name _
    simp [h.declarations_eq]
  rw [missingLabels, h.symbolNames_eq rfl, eraseDups_map h.injective, List.filter_map, hfilter,
    List.map_map, missingLabels, List.map_map]
  rfl

/-- Symbols that follow their names are those that they were. -/
theorem symbolsOf_eq {α : Type} {make make' : String → Nat → α} {f : α → α} {kind : Kind}
    (hkind : kind.isSymbolic = true)
    (hmake : ∀ name index, make' (rename name) index = f (make name index)) :
    symbolsOf make' (symbolNames kind (ls.map change)) =
      (symbolsOf make (symbolNames kind ls)).map f := by
  rw [h.symbolNames_eq hkind, symbolsOf_map h.injective, map_symbolsOf]
  apply symbolsOf_congr
  intro name _
  funext index
  exact hmake name index

theorem tokens_eq :
    (Analysis.ofLexemes (ls.map change)).tokens =
      (Analysis.ofLexemes ls).tokens.map fun t => { t with toLexeme := change t.toLexeme } := by
  refine List.ext_getElem (by simp [Analysis.ofLexemes]) fun k hk _ => ?_
  simp [Analysis.ofLexemes, h.number?_eq (List.getElem_mem _)]

/-- **The analysis of changed lexemes.** -/
theorem ofLexemes_eq :
    Analysis.ofLexemes (ls.map change) = (Analysis.ofLexemes ls).recast rename change := by
  have hidentifiers : (Analysis.ofLexemes (ls.map change)).identifiers =
      (Analysis.ofLexemes ls).identifiers.map fun i => { i with name := rename i.name } :=
    h.symbolsOf_eq rfl h.identifierOf_eq
  have hconstants : (Analysis.ofLexemes (ls.map change)).constants =
      (Analysis.ofLexemes ls).constants := congrArg (symbolsOf Constant.mk) h.symbolNames_constant
  have hlabels : (Analysis.ofLexemes (ls.map change)).labels =
      (Analysis.ofLexemes ls).labels.map fun label => { label with name := rename label.name } :=
    h.symbolsOf_eq rfl h.labelOf_eq
  rw [Analysis.recast, ← h.tokens_eq, ← hidentifiers, ← hconstants, ← hlabels]

end Recasts

section

variable {rename : String → String} {change : Lexeme → Lexeme}

/-- The diagnostics of changed pieces are those that they had, under new names. -/
theorem inspect_map_recast {ps : List Piece} (before : List Lexeme)
    (h : Recasts rename change (before ++ Piece.lexemes ps))
    (htopic : ∀ d, .rejected d ∈ ps → d.fault.topic = .character) :
    inspect (before.map change) (ps.map (Piece.recast change)) =
      (inspect before ps).map (Diagnostic.rename rename) := by
  induction ps generalizing before with
  | nil => rfl
  | cons p ps ih =>
    have htail : ∀ d, .rejected d ∈ ps → d.fault.topic = .character :=
      fun d hd => htopic d (List.mem_cons_of_mem _ hd)
    cases p with
    | lexeme l =>
      have hl := h.lexeme l (by simp)
      have hbefore := h.of_subset (List.subset_append_left ..)
      have hrest := ih (before ++ [l]) (by simpa using h) htail
      rw [List.map_append, List.map_singleton] at hrest
      rw [List.map_cons, Piece.recast, inspect, inspect, hbefore.lexemeFault?_eq hl, hl.line, hrest,
        List.map_append]
      cases lexemeFault? before l <;> rfl
    | rejected d =>
      have hd : d.rename rename = d := by
        rw [Diagnostic.rename, Fault.rename_of_topic (htopic d (List.mem_cons_self ..))]
      rw [List.map_cons, Piece.recast, inspect, inspect, ih before (by simpa using h) htail,
        List.map_cons, hd]
    | blank => exact ih before (by simpa using h) htail

/-- **The verdict on changed pieces is the one on the pieces**, with lexemes changed and under new
names. -/
theorem verdict_map_recast {ps : List Piece} (h : Recasts rename change (Piece.lexemes ps))
    (htopic : ∀ d, .rejected d ∈ ps → d.fault.topic = .character) :
    verdict (ps.map (Piece.recast change)) =
      ((verdict ps).map (Analysis.recast rename change)).mapError
        (List.map (Diagnostic.rename rename)) := by
  have hfaults : allFaults (ps.map (Piece.recast change)) =
      (allFaults ps).map (Diagnostic.rename rename) := by
    have hinspect := inspect_map_recast [] h htopic
    rw [List.map_nil] at hinspect
    rw [allFaults, hinspect, Piece.lexemes_map_recast, h.missingLabels_eq, allFaults,
      List.map_append]
  rw [verdict, hfaults, verdict]
  cases allFaults ps with
  | nil =>
    rw [Piece.lexemes_map_recast, h.ofLexemes_eq]
    rfl
  | cons d ds => rfl

namespace Lexer

/-- A lexer passes a changed lexeme as it passes the lexeme. -/
theorem InStep.pass_recast {table table' : Spellings} {lx lx' : Lexer} {m m' : Munch}
    (h : InStep 0 lx lx') (hshape : m'.shape = m.shape)
    (hclassify : lx'.classify table' m' = (lx.classify table m).recast change)
    (hmatch : ∀ l, lx.classify table m = .lexeme l → l.Matches rename (change l)) :
    InStep 0 (lx.pass table m) (lx'.pass table' m') := by
  refine ⟨?_, ?_, ?_⟩
  · rw [afterOperand_pass, afterOperand_pass, hclassify, h.afterOperand]
    cases hpiece : lx.classify table m with
    | lexeme l => exact (hmatch l hpiece).isOperand
    | _ => rfl
  · rw [afterGoto_pass, afterGoto_pass, hclassify, h.afterGoto]
    cases hpiece : lx.classify table m with
    | lexeme l => exact (hmatch l hpiece).isGoto
    | _ => rfl
  · rw [line_pass, line_pass, hshape, h.line]
    simp

/-- A translation of texts that keeps shapes and changes lexemes into matching ones keeps lexers in
step. -/
theorem translates_of_matches {table table' : Spellings} {text : List Char → List Char}
    {munch : Munch → Munch} (hnil : text [] = [])
    (hcut : ∀ {afterOperand : Bool} {m : Munch} {rest : List Char}, IsMunch afterOperand m rest →
      text (m.text ++ rest) = (munch m).text ++ text rest ∧
        IsMunch afterOperand (munch m) (text rest))
    (hshape : ∀ m, (munch m).shape = m.shape)
    (hclassify : ∀ {lx lx' : Lexer} {m : Munch} {rest : List Char}, InStep 0 lx lx' →
      IsMunch lx.afterOperand m rest →
        lx'.classify table' (munch m) = (lx.classify table m).recast change)
    (hmatch : ∀ l : Lexeme, l.Spelled table → l.Matches rename (change l)) :
    Translates 0 table table' text munch (Piece.recast change) where
  nil := hnil
  cut := hcut
  step h hm := ⟨hclassify h hm,
    h.pass_recast (hshape _) (hclassify h hm) fun l hl => hmatch l (hm.spelled hl)⟩

/-- **The outcome for a translated source.** If the translation changes each lexeme into one that
matches it, then it changes the outcome in the lexemes and the names only. -/
theorem Translates.analyzeWith_eq {table table' : Spellings} {text : List Char → List Char}
    {munch : Munch → Munch} (t : Translates 0 table table' text munch (Piece.recast change))
    (hrename : rename.Injective)
    (hmatch : ∀ l : Lexeme, l.Spelled table → l.Matches rename (change l))
    {source source' : String} (hsource : source'.toList = text source.toList) :
    analyzeWith table' source' =
      ((analyzeWith table source).map (Analysis.recast rename change)).mapError
        (List.map (Diagnostic.rename rename)) := by
  have hpieces : (ofSource source').pieces table' =
      ((ofSource source).pieces table).map (Piece.recast change) :=
    t.pieces_eq (.ofSource source source') (by rw [rest_ofSource, hsource, rest_ofSource])
  have hrecasts : Recasts rename change (Piece.lexemes ((ofSource source).pieces table)) :=
    ⟨hrename, fun l hl => hmatch l (spelled_of_mem_pieces table _ hl)⟩
  rw [analyzeWith_eq_verdict, hpieces, verdict_map_recast hrecasts
    fun d hd => topic_of_rejected_mem_pieces table _ hd, analyzeWith_eq_verdict]

end Lexer

end

end Lexis
