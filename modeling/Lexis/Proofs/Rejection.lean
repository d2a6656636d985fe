import Lexis.Proofs.Growth
import Lexis.Proofs.Places
import Lexis.Proofs.Recovery

/-!
# Which characters are rejected

Whether a character is rejected depends on it and the one behind it only, and its line on the
newlines before it. So the diagnostics of characters can be read off the text, position by position,
without cutting it into pieces.

* `rejection?`: the fault of a character, given the next one;
* `rejectionAt?`, `rejectionsFrom`: what there is to tell of the character in a place, and of all
  characters in their order;
* `IsMunch.rejections_eq`: a longest piece of more than one character holds none that is rejected;
* **`character_diagnostics_eq_rejections`**: the diagnostics of characters that a source has.
-/

namespace Lexis

open Alphabet

/-- The fault of a character before the next one: no source may hold it, or it is an exclamation
mark that no equals sign follows. -/
def rejection? (c : Char) (next? : Option Char) : Option Fault :=
  if isLegal c = false then some (.unknownSymbol c)
  else if c = '!' ∧ next? ≠ some '=' then some (.expectedSymbol "!" "=")
  else none

/-- The fault of the character behind `n` others of a text and the number of its line, if the
character is rejected. The text begins on the given line. -/
def rejectionAt? (line : Nat) (cs : List Char) (n : Nat) : Option (Fault × Option Nat) :=
  (cs[n]?.bind fun c => rejection? c cs[n + 1]?).map fun fault =>
    (fault, some (line + (cs.take n).count '\n'))

/-- The faults of the characters of a text that are rejected, in their order. -/
def rejectionsFrom (line : Nat) (cs : List Char) : List (Fault × Option Nat) :=
  (List.range cs.length).filterMap (rejectionAt? line cs)

/-! ## Texts one behind the other -/

theorem rejection?_eq_none {c : Char} (h : isLegal c = true) (hbang : c ≠ '!')
    (next? : Option Char) : rejection? c next? = none := by
  simp [rejection?, h, hbang]

theorem rejectionAt?_append (line : Nat) (text rest : List Char) (n : Nat) :
    rejectionAt? line (text ++ rest) (text.length + n) =
      rejectionAt? (line + text.count '\n') rest n := by
  have hnext : text.length + n + 1 = text.length + (n + 1) := rfl
  rw [rejectionAt?, rejectionAt?, hnext, List.getElem?_append_right (Nat.le_add_right ..),
    List.getElem?_append_right (Nat.le_add_right ..), List.take_length_add_append, List.count_append,
    Nat.add_sub_cancel_left, Nat.add_sub_cancel_left, Nat.add_assoc]

theorem rejectionsFrom_append (line : Nat) (text rest : List Char) :
    rejectionsFrom line (text ++ rest) =
      (List.range text.length).filterMap (rejectionAt? line (text ++ rest)) ++
        rejectionsFrom (line + text.count '\n') rest := by
  rw [rejectionsFrom, List.length_append, List.range_add, List.filterMap_append,
    List.filterMap_map]
  congr 1
  exact List.filterMap_congr fun n _ => rejectionAt?_append line text rest n

/-- A text of legal characters that are no exclamation marks has nothing to tell. -/
theorem filterMap_rejectionAt?_eq_nil {text : List Char}
    (h : ∀ c ∈ text, isLegal c = true ∧ c ≠ '!') (line : Nat) (rest : List Char) :
    (List.range text.length).filterMap (rejectionAt? line (text ++ rest)) = [] := by
  rw [List.filterMap_eq_nil_iff]
  intro n hn
  have hlt : n < text.length := List.mem_range.1 hn
  obtain ⟨hlegal, hbang⟩ := h text[n] (List.getElem_mem hlt)
  rw [rejectionAt?, List.getElem?_append_left hlt, List.getElem?_eq_getElem hlt, Option.bind_some,
    rejection?_eq_none hlegal hbang, Option.map_none]

theorem filterMap_rejectionAt?_singleton (line : Nat) (c : Char) (rest : List Char) :
    (List.range [c].length).filterMap (rejectionAt? line ([c] ++ rest)) =
      ((rejection? c rest.head?).map fun fault => (fault, some line)).toList := by
  have hat : rejectionAt? line ([c] ++ rest) 0 =
      (rejection? c rest.head?).map fun fault => (fault, some line) := by
    simp [rejectionAt?, List.head?_eq_getElem?]
  rw [List.length_singleton, List.range_one, List.filterMap_cons, hat]
  cases rejection? c rest.head? <;> rfl

/-! ## Pieces -/

/-- What a piece tells if it is rejected. -/
def Munch.rejections (line : Nat) (m : Munch) : List (Fault × Option Nat) :=
  match m.shape with
  | .rejected fault => [(fault, some line)]
  | _ => []

/-- **A longest piece tells what its characters do.** -/
theorem IsMunch.rejections_eq {afterOperand : Bool} {m : Munch} {rest : List Char}
    (h : IsMunch afterOperand m rest) (line : Nat) :
    (List.range m.text.length).filterMap (rejectionAt? line (m.text ++ rest)) =
      m.rejections line := by
  have hlexical := h.forall_isLexical
  have hbang := h.bang_not_mem
  have hlexeme (hm : m.shape.isLexical = true) (hunequal : m ≠ ⟨.operator, ['!', '=']⟩) :
      (List.range m.text.length).filterMap (rejectionAt? line (m.text ++ rest)) = [] :=
    filterMap_rejectionAt?_eq_nil (fun c hc => ⟨isLegal_of_isLexical (hlexical hm c hc),
      fun heq => hbang hm hunequal (heq ▸ hc)⟩) line rest
  cases h with
  | joined hd => exact hlexeme rfl (by simp [(ne_bang_of_mem_followers hd).1])
  | unequal => rfl
  | bang hhead =>
    rw [filterMap_rejectionAt?_singleton, rejection?, if_neg (by decide), if_pos ⟨rfl, hhead⟩]
    rfl
  | newline =>
    rw [filterMap_rejectionAt?_singleton, rejection?_eq_none (by decide) (by decide)]
    rfl
  | @blank c _ hc =>
    have hne : c ≠ '!' := by
      rintro rfl
      exact absurd hc (by decide)
    rw [filterMap_rejectionAt?_singleton, rejection?_eq_none (by simp [isLegal, hc]) hne]
    rfl
  | illegal hc =>
    rw [filterMap_rejectionAt?_singleton, rejection?, if_pos hc]
    rfl
  | _ => exact hlexeme rfl (by simp)

theorem Lexer.rejected?_classify (table : Spellings) (lx : Lexer) (m : Munch) :
    (lx.classify table m).rejected?.toList.map (Diagnostic.behind 0) =
      m.rejections lx.cursor.line.toNat := by
  unfold classify Munch.rejections
  cases m.shape <;> rfl

/-- **The pieces that a lexer rejects are the characters that are rejected in its text.** -/
theorem Lexer.filterMap_rejected?_pieces (table : Spellings) (lx : Lexer)
    (hfit : lx.cursor.line.toNat + lx.cursor.rest.count '\n' < 2 ^ 32) :
    ((lx.pieces table).filterMap Piece.rejected?).map (Diagnostic.behind 0) =
      rejectionsFrom lx.cursor.line.toNat lx.cursor.rest := by
  induction lx using munch_induction table with
  | done lx hnil => rw [pieces_of_rest_eq_nil hnil, hnil]; rfl
  | step lx m rest hm hcut ih =>
    rw [hcut, List.count_append] at hfit
    have hline := hm.toNat_line_pass table lx (by omega)
    rw [rest_pass hcut, hline] at ih
    have htail := ih (by omega)
    have hhead : [lx.classify table m].filterMap Piece.rejected? =
        (lx.classify table m).rejected?.toList := by
      rw [List.filterMap_cons, List.filterMap_nil]
      cases (lx.classify table m).rejected? <;> rfl
    rw [pieces_of_isMunch hm hcut, ← List.singleton_append, List.filterMap_append,
      List.map_append, hhead, rejected?_classify, htail, hcut, rejectionsFrom_append,
      hm.rejections_eq]

/-- **The diagnostics of characters are exactly those of the rejected characters**, in the order of
the source and on their lines. -/
theorem character_diagnostics_eq_rejections (table : Spellings) {source : String}
    (hfit : source.toList.count '\n' ≤ 2 ^ 32 - 2) :
    ((diagnosticsOf (analyzeWith table source)).filter fun d => d.fault.topic = .character).map
        (Diagnostic.behind 0) = rejectionsFrom 1 source.toList := by
  rw [filter_character_analyzeWith]
  refine Lexer.filterMap_rejected?_pieces table (Lexer.ofSource source) ?_
  change 1 + source.toList.count '\n' < 2 ^ 32
  omega

/-- A dollar sign, an unequal, a lone exclamation mark before a newline and one at the end. -/
theorem character_diagnostics_eq_rejections_of_bangs :
    ((diagnosticsOf (analyzeWith .standard "a$\n!b!=\n!")).filter fun d =>
        d.fault.topic = .character).map (Diagnostic.behind 0) =
      [(.unknownSymbol '$', some 1), (.expectedSymbol "!" "=", some 2),
        (.expectedSymbol "!" "=", some 3)] := by
  rw [character_diagnostics_eq_rejections .standard (by decide)]
  decide

end Lexis
