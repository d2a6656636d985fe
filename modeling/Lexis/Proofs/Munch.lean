import Mathlib
import Lexis.Munch

/-!
# Longest pieces

What the piece at a cursor is, said without looking for it: the shape and the text of a piece, and
what may stand right after it.

* `Ends`, `IsWord`, `IsNumeral`: where a run of characters is longest, and the runs that matter;
* `Alphabet.isLexical`, `Alphabet.isLegal`: the characters of lexemes, and those of sources;
* `IsMunch`: the pieces that may be taken before a rest, one rule a shape;
* **`isMunch_munch`**, **`IsMunch.munch_eq`**: the piece at the cursor is the one that the rules
  allow, and the only one.
-/

namespace Lexis

open Alphabet

/-! ## Runs of characters -/

/-- No character of the class `p` comes next. -/
def Ends (p : Char → Bool) (rest : List Char) : Prop := ∀ c ∈ rest.head?, p c = false

/-- A letter, and letters and digits after it. -/
def IsWord (w : List Char) : Prop := (∃ c ∈ w.head?, c.isAlpha = true) ∧ ∀ c ∈ w, c.isAlphanum = true

instance : DecidablePred IsWord := fun w =>
  decidable_of_iff (w.head?.any Char.isAlpha && w.all Char.isAlphanum)
    (by cases w <;> simp [IsWord])

/-- A run of digits. -/
def IsNumeral (ds : List Char) : Prop := ds ≠ [] ∧ ∀ c ∈ ds, c.isDigit = true

theorem ends_iff_headD {p : Char → Bool} (hp : p Cursor.padding = false) {rest : List Char} :
    Ends p rest ↔ p (rest.headD Cursor.padding) = false := by
  cases rest <;> simp [Ends, hp]

theorem ends_dropWhile (p : Char → Bool) (cs : List Char) : Ends p (cs.dropWhile p) := by
  intro c hc
  have h := List.head?_dropWhile_not p cs
  rw [Option.mem_def.1 hc] at h
  simpa using h

theorem takeWhile_eq_of_ends {p : Char → Bool} {run rest : List Char}
    (hrun : ∀ c ∈ run, p c = true) (hend : Ends p rest) : (run ++ rest).takeWhile p = run := by
  rw [List.takeWhile_append_of_pos hrun]
  cases rest with
  | nil => simp
  | cons c cs => simp [hend c rfl]

theorem dropWhile_eq_of_ends {p : Char → Bool} {run rest : List Char}
    (hrun : ∀ c ∈ run, p c = true) (hend : Ends p rest) : (run ++ rest).dropWhile p = rest := by
  rw [List.dropWhile_append_of_pos hrun]
  cases rest with
  | nil => rfl
  | cons c cs => simp [hend c rfl]

theorem headD_eq_iff {a : Char} (ha : a ≠ Cursor.padding) {rest : List Char} :
    rest.headD Cursor.padding = a ↔ rest.head? = some a := by
  cases rest with
  | nil => simpa using ha.symm
  | cons c cs => simp

theorem IsWord.exists_cons {w : List Char} (hw : IsWord w) :
    ∃ c cs, w = c :: cs ∧ c.isAlpha = true := by
  obtain ⟨⟨c, hc, halpha⟩, -⟩ := hw
  cases w with
  | nil => simp at hc
  | cons a as =>
    obtain rfl : a = c := by simpa using hc
    exact ⟨a, as, rfl, halpha⟩

theorem isAlpha_eq_false_of_isDigit {c : Char} (h : c.isDigit = true) : c.isAlpha = false := by
  simp only [Char.isDigit, Char.isAlpha, Char.isUpper, Char.isLower, Bool.and_eq_true,
    decide_eq_true_eq, Bool.or_eq_false_iff, Bool.and_eq_false_iff, decide_eq_false_iff_not] at *
  simp only [UInt32.le_iff_toNat_le, ge_iff_le] at *
  simp at *
  omega

theorem IsNumeral.not_isWord {ds : List Char} (hds : IsNumeral ds) : ¬IsWord ds := by
  intro hw
  obtain ⟨c, cs, rfl, hc⟩ := hw.exists_cons
  rw [isAlpha_eq_false_of_isDigit (hds.2 c (by simp))] at hc
  cases hc

/-! ## The rules -/

/-- The characters of words, numbers and operators. -/
def Alphabet.isLexical (c : Char) : Bool :=
  c.isAlphanum || isSolo c || c ∈ ['=', '<', '>', '-', '!']

/-- The characters that a source without faults may hold. -/
def Alphabet.isLegal (c : Char) : Bool := isLexical c || isBlank c || c = '\n'

/-- The piece may be taken where it is followed by the rest, and no longer one may. Whether an
operand was passed matters to a minus only. -/
inductive IsMunch (afterOperand : Bool) : Munch → List Char → Prop
  | label {w rest : List Char} (hw : IsWord w) : IsMunch afterOperand ⟨.label, w ++ [':']⟩ rest
  | word {w rest : List Char} (hw : IsWord w) (hend : Ends Char.isAlphanum rest)
      (hcolon : rest.head? ≠ some ':') : IsMunch afterOperand ⟨.word, w⟩ rest
  | numeral {ds rest : List Char} (hds : IsNumeral ds) (hend : Ends Char.isDigit rest) :
      IsMunch afterOperand ⟨.number, ds⟩ rest
  | negative {ds rest : List Char} (hds : IsNumeral ds) (hend : Ends Char.isDigit rest)
      (hoperand : afterOperand = false) : IsMunch afterOperand ⟨.number, '-' :: ds⟩ rest
  | minus {rest : List Char} (h : afterOperand = true ∨ Ends Char.isDigit rest) :
      IsMunch afterOperand ⟨.operator, ['-']⟩ rest
  | solo {c : Char} {rest : List Char} (hc : isSolo c = true) :
      IsMunch afterOperand ⟨.operator, [c]⟩ rest
  | joined {c d : Char} {rest : List Char} (hd : d ∈ followers c) :
      IsMunch afterOperand ⟨.operator, [c, d]⟩ rest
  | single {c : Char} {rest : List Char} (hc : followers c ≠ [])
      (hend : ∀ d ∈ rest.head?, d ∉ followers c) : IsMunch afterOperand ⟨.operator, [c]⟩ rest
  | unequal {rest : List Char} : IsMunch afterOperand ⟨.operator, ['!', '=']⟩ rest
  | bang {rest : List Char} (h : rest.head? ≠ some '=') :
      IsMunch afterOperand ⟨.rejected (.expectedSymbol "!" "="), ['!']⟩ rest
  | newline {rest : List Char} : IsMunch afterOperand ⟨.newline, ['\n']⟩ rest
  | blank {c : Char} {rest : List Char} (hc : isBlank c = true) :
      IsMunch afterOperand ⟨.blank, [c]⟩ rest
  | illegal {c : Char} {rest : List Char} (hc : isLegal c = false) :
      IsMunch afterOperand ⟨.rejected (.unknownSymbol c), [c]⟩ rest

theorem Alphabet.isLexical_of_isAlphanum {c : Char} (h : c.isAlphanum = true) :
    isLexical c = true := by
  simp [isLexical, h]

theorem Alphabet.isLexical_of_isDigit {c : Char} (h : c.isDigit = true) : isLexical c = true :=
  isLexical_of_isAlphanum (by simp [Char.isAlphanum, h])

theorem Alphabet.eq_of_mem_followers {c d : Char} (hd : d ∈ followers c) :
    c = '=' ∧ d = '=' ∨ c = '<' ∧ d = '=' ∨ c = '<' ∧ d = '<' ∨ c = '>' ∧ d = '=' ∨
      c = '>' ∧ d = '>' := by
  unfold followers at hd
  split at hd <;> simp_all

theorem Alphabet.isLexical_of_mem_followers {c d : Char} (hd : d ∈ followers c) :
    isLexical c = true ∧ isLexical d = true := by
  rcases eq_of_mem_followers hd with ⟨rfl, rfl⟩ | ⟨rfl, rfl⟩ | ⟨rfl, rfl⟩ | ⟨rfl, rfl⟩ | ⟨rfl, rfl⟩
  all_goals decide

namespace IsMunch

variable {afterOperand : Bool} {m : Munch} {rest : List Char}

theorem isWord_of_word (h : IsMunch afterOperand m rest) (hm : m.shape = .word) :
    IsWord m.text := by
  cases h with
  | word hw => exact hw
  | _ => cases hm

theorem text_ne_nil (h : IsMunch afterOperand m rest) : m.text ≠ [] := by
  cases h with
  | word hw => obtain ⟨c, cs, rfl, -⟩ := hw.exists_cons; simp
  | numeral hds => exact hds.1
  | _ => simp

end IsMunch

/-! ## The piece at the cursor obeys the rules -/

section

variable {afterOperand : Bool} {cur : Cursor}

namespace Munch

theorem isMunch_word (h : cur.hasInput = true) (halpha : cur.current.isAlpha = true) :
    IsMunch afterOperand (word cur) (cur.rest.drop (word cur).text.length) := by
  have hw : IsWord (cur.run Char.isAlphanum) := by
    refine ⟨⟨cur.current, ?_, halpha⟩, fun c hc => List.mem_takeWhile_imp hc⟩
    rw [Cursor.run, Cursor.rest_eq_cons h, List.takeWhile_cons_of_pos]
    · rfl
    · simp [Char.isAlphanum, halpha]
  have hdrop := Cursor.rest_skip_run cur Char.isAlphanum
  rw [Cursor.rest_skip] at hdrop
  unfold word
  dsimp only
  split
  · exact .label hw
  · next hcolon =>
    dsimp only
    rw [hdrop]
    refine .word hw (ends_dropWhile _ _) fun hhead => hcolon ?_
    rw [Cursor.current, Cursor.rest_skip_run, headD_eq_iff (by decide)]
    exact hhead

theorem isNumeral_run (h : cur.hasInput = true) (hdigit : cur.current.isDigit = true) :
    IsNumeral (cur.run Char.isDigit) :=
  ⟨run_ne_nil h hdigit, fun _ hc => List.mem_takeWhile_imp hc⟩

theorem isMunch_number (h : cur.hasInput = true) (hdigit : cur.current.isDigit = true) :
    IsMunch afterOperand (number cur) (cur.rest.drop (number cur).text.length) := by
  have hdrop := Cursor.rest_skip_run cur Char.isDigit
  rw [Cursor.rest_skip] at hdrop
  unfold number
  dsimp only
  rw [hdrop]
  exact .numeral (isNumeral_run h hdigit) (ends_dropWhile _ _)

theorem isMunch_minus (h : cur.hasInput = true) (hminus : cur.current = '-') :
    IsMunch afterOperand (minus afterOperand cur)
      (cur.rest.drop (minus afterOperand cur).text.length) := by
  have hhead : cur.lookahead = cur.advance.current := by
    simp [Cursor.lookahead, Cursor.current]
  unfold minus
  rw [hminus]
  split
  · next hsign =>
    rw [Bool.and_eq_true, Bool.not_eq_true'] at hsign
    have hinput : cur.advance.hasInput = true := by
      refine Cursor.hasInput_iff.2 fun hnil => ?_
      rw [Cursor.lookahead, ← Cursor.rest_advance, hnil] at hsign
      exact absurd hsign.1 (by decide)
    have hdrop := Cursor.rest_skip_run cur.advance Char.isDigit
    rw [Cursor.rest_skip, Cursor.rest_advance] at hdrop
    rw [Cursor.rest_eq_cons h]
    simp only [List.length_cons, List.drop_succ_cons, hdrop]
    exact .negative (isNumeral_run hinput (hhead ▸ hsign.1)) (ends_dropWhile _ _) hsign.2
  · next hsign =>
    rw [Bool.and_eq_true, Bool.not_eq_true', not_and_or] at hsign
    refine .minus ?_
    rcases hsign with hdigit | hoperand
    · refine .inr ((ends_iff_headD (by decide)).2 ?_)
      simpa [Cursor.lookahead] using hdigit
    · exact .inl (by simpa using hoperand)

theorem isMunch_pair (h : cur.hasInput = true) (hc : followers cur.current ≠ []) :
    IsMunch afterOperand (pair cur) (cur.rest.drop (pair cur).text.length) := by
  unfold pair
  split
  · next hmem => exact .joined hmem
  · next hmem =>
    refine .single hc fun d hd => ?_
    rw [Cursor.rest_eq_cons h] at hd
    have hlook : cur.lookahead = d := by
      simp only [List.length_singleton, List.drop_succ_cons, List.drop_zero] at hd
      rw [Cursor.lookahead, List.headD_eq_head?_getD, Option.mem_def.1 hd, Option.getD_some]
    exact hlook ▸ hmem

theorem isMunch_bang (h : cur.hasInput = true) (hbang : cur.current = '!') :
    IsMunch afterOperand (bang cur) (cur.rest.drop (bang cur).text.length) := by
  unfold bang
  rw [hbang]
  split
  · next heq => exact heq ▸ .unequal
  · next hne =>
    refine .bang fun hhead => hne ?_
    rw [Cursor.rest_eq_cons h] at hhead
    rw [Cursor.lookahead, headD_eq_iff (by decide)]
    simpa using hhead

end Munch

/-- **The piece at the cursor obeys the rules.** -/
theorem isMunch_munch (afterOperand : Bool) (h : cur.hasInput = true) :
    IsMunch afterOperand (munch afterOperand cur)
      (cur.rest.drop (munch afterOperand cur).text.length) := by
  unfold munch
  dsimp only
  split
  · next halpha => exact Munch.isMunch_word h halpha
  split
  · next hdigit => exact Munch.isMunch_number h hdigit
  split
  · next hblank => exact .blank hblank
  split
  · next hsolo => exact .solo hsolo
  split
  · next hpair => exact Munch.isMunch_pair h hpair
  split
  · next hminus => exact Munch.isMunch_minus h hminus
  split
  · next hbang => exact Munch.isMunch_bang h hbang
  split
  · next hnewline => exact hnewline ▸ .newline
  · next halpha hdigit hblank hsolo hpair hminus hbang hnewline =>
    refine .illegal ?_
    rw [followers_ne_nil_iff] at hpair
    simp_all [isLegal, isLexical, Char.isAlphanum]

end

/-! ## The rules allow no other piece -/

section

variable {afterOperand : Bool} {cur : Cursor} {rest : List Char}

theorem Cursor.current_eq {c : Char} (hrest : cur.rest = c :: rest) : cur.current = c := by
  rw [Cursor.current, hrest, List.headD_cons]

theorem Cursor.run_eq {p : Char → Bool} {run : List Char} (hrest : cur.rest = run ++ rest)
    (hrun : ∀ c ∈ run, p c = true) (hend : Ends p rest) : cur.run p = run := by
  rw [Cursor.run, hrest, takeWhile_eq_of_ends hrun hend]

namespace Munch

theorem word_eq_label {w : List Char} (hw : IsWord w) (hrest : cur.rest = w ++ ':' :: rest) :
    word cur = ⟨.label, w ++ [':']⟩ := by
  have hrun : cur.run Char.isAlphanum = w :=
    Cursor.run_eq hrest hw.2 fun c hc => by
      obtain rfl : ':' = c := by simpa using hc
      rfl
  have hcolon : (cur.skip w.length).current = ':' :=
    Cursor.current_eq (by rw [Cursor.rest_skip, hrest, List.drop_left])
  simp only [word, hrun, hcolon, if_true]

theorem word_eq_word {w : List Char} (hw : IsWord w) (hend : Ends Char.isAlphanum rest)
    (hcolon : rest.head? ≠ some ':') (hrest : cur.rest = w ++ rest) : word cur = ⟨.word, w⟩ := by
  have hrun : cur.run Char.isAlphanum = w := Cursor.run_eq hrest hw.2 hend
  have hne : (cur.skip w.length).current ≠ ':' := by
    rw [Cursor.current, Cursor.rest_skip, hrest, List.drop_left, Ne, headD_eq_iff (by decide)]
    exact hcolon
  simp only [word, hrun, if_neg hne]

theorem minus_eq_negative {ds : List Char} (hds : IsNumeral ds) (hend : Ends Char.isDigit rest)
    (hrest : cur.rest = '-' :: ds ++ rest) : minus false cur = ⟨.number, '-' :: ds⟩ := by
  have hrun : cur.advance.run Char.isDigit = ds :=
    Cursor.run_eq (by rw [Cursor.rest_advance, hrest]; rfl) hds.2 hend
  have hdigit : cur.lookahead.isDigit = true := by
    obtain ⟨hne, hall⟩ := hds
    cases ds with
    | nil => exact absurd rfl hne
    | cons d ds => simpa [Cursor.lookahead, hrest] using hall d (List.mem_cons_self ..)
  simp [minus, hrun, hdigit, Cursor.current_eq hrest]

theorem minus_eq_operator (h : afterOperand = true ∨ Ends Char.isDigit rest)
    (hrest : cur.rest = '-' :: rest) : minus afterOperand cur = ⟨.operator, ['-']⟩ := by
  have hsign : (cur.lookahead.isDigit && !afterOperand) = false := by
    rcases h with rfl | hend
    · simp
    · rw [ends_iff_headD (by decide)] at hend
      rw [Cursor.lookahead, hrest, List.tail_cons, hend, Bool.false_and]
  simp [minus, hsign, Cursor.current_eq hrest]

theorem pair_eq_joined {c d : Char} (hd : d ∈ followers c) (hrest : cur.rest = c :: d :: rest) :
    pair cur = ⟨.operator, [c, d]⟩ := by
  simp [pair, Cursor.current, Cursor.lookahead, hrest, hd]

theorem pair_eq_single {c : Char} (hend : ∀ d ∈ rest.head?, d ∉ followers c)
    (hrest : cur.rest = c :: rest) : pair cur = ⟨.operator, [c]⟩ := by
  have hlook : cur.lookahead ∉ followers c := by
    cases rest with
    | nil => simpa [Cursor.lookahead, hrest] using padding_not_mem_followers c
    | cons d ds => simpa [Cursor.lookahead, hrest] using hend d rfl
  simp [pair, Cursor.current_eq hrest, hlook]

theorem bang_eq_unequal (hrest : cur.rest = '!' :: '=' :: rest) :
    bang cur = ⟨.operator, ['!', '=']⟩ := by
  simp [bang, Cursor.current, Cursor.lookahead, hrest]

theorem bang_eq_rejected (h : rest.head? ≠ some '=') (hrest : cur.rest = '!' :: rest) :
    bang cur = ⟨.rejected (.expectedSymbol "!" "="), ['!']⟩ := by
  have hne : cur.lookahead ≠ '=' := by
    rw [Cursor.lookahead, hrest, List.tail_cons, Ne, headD_eq_iff (by decide)]
    exact h
  simp [bang, hne, Cursor.current_eq hrest]

end Munch

theorem munch_of_isAlpha (h : cur.current.isAlpha = true) :
    munch afterOperand cur = Munch.word cur := by
  simp [munch, h]

theorem munch_of_isDigit (h : cur.current.isDigit = true) :
    munch afterOperand cur = Munch.number cur := by
  simp [munch, h, isAlpha_eq_false_of_isDigit h]

theorem munch_of_minus (h : cur.current = '-') :
    munch afterOperand cur = Munch.minus afterOperand cur := by
  rw [munch, h]
  rfl

theorem munch_of_followers (h : followers cur.current ≠ []) :
    munch afterOperand cur = Munch.pair cur := by
  rcases followers_ne_nil_iff.1 h with hc | hc | hc <;> rw [munch, hc] <;> rfl

theorem munch_of_bang (h : cur.current = '!') : munch afterOperand cur = Munch.bang cur := by
  rw [munch, h]
  rfl

theorem munch_of_isBlank (h : isBlank cur.current = true) :
    munch afterOperand cur = ⟨.blank, [cur.current]⟩ := by
  have hc : cur.current = ' ' ∨ cur.current = '\t' := by simpa [isBlank] using h
  rcases hc with hc | hc <;> rw [munch, hc] <;> rfl

theorem munch_of_isSolo (h : isSolo cur.current = true) :
    munch afterOperand cur = ⟨.operator, [cur.current]⟩ := by
  have hc : cur.current ∈ solo := isSolo_iff.1 h
  simp only [solo, List.mem_cons, List.not_mem_nil, or_false] at hc
  rcases hc with hc | hc | hc | hc | hc | hc | hc | hc | hc | hc | hc <;> rw [munch, hc] <;> rfl

theorem munch_of_newline (h : cur.current = '\n') :
    munch afterOperand cur = ⟨.newline, ['\n']⟩ := by
  rw [munch, h]
  rfl

theorem munch_of_illegal (h : isLegal cur.current = false) :
    munch afterOperand cur = ⟨.rejected (.unknownSymbol cur.current), [cur.current]⟩ := by
  simp only [isLegal, isLexical, Char.isAlphanum, Bool.or_eq_false_iff, decide_eq_false_iff_not,
    List.mem_cons, List.not_mem_nil, or_false, not_or] at h
  obtain ⟨⟨⟨⟨⟨halpha, hdigit⟩, hsolo⟩, heq, hlt, hgt, hminus, hbang⟩, hblank⟩, hnewline⟩ := h
  have hpair : followers cur.current = [] := by
    by_contra hne
    rcases followers_ne_nil_iff.1 hne with hc | hc | hc
    · exact heq hc
    · exact hlt hc
    · exact hgt hc
  simp [munch, halpha, hdigit, hblank, hsolo, hpair, hminus, hbang, hnewline]

/-- **The rules allow no other piece than the one at the cursor.** -/
theorem IsMunch.munch_eq {m : Munch} (h : IsMunch afterOperand m rest)
    (hrest : cur.rest = m.text ++ rest) : munch afterOperand cur = m := by
  cases h with
  | label hw =>
    obtain ⟨c, cs, rfl, halpha⟩ := hw.exists_cons
    rw [munch_of_isAlpha (by rwa [Cursor.current_eq hrest])]
    exact Munch.word_eq_label hw (by simpa using hrest)
  | word hw hend hcolon =>
    obtain ⟨c, cs, rfl, halpha⟩ := hw.exists_cons
    rw [munch_of_isAlpha (by rwa [Cursor.current_eq hrest])]
    exact Munch.word_eq_word hw hend hcolon hrest
  | @numeral ds _ hds hend =>
    have hdigit : cur.current.isDigit = true := by
      obtain ⟨hne, hall⟩ := hds
      cases ds with
      | nil => exact absurd rfl hne
      | cons d ds => rw [Cursor.current_eq hrest]; exact hall d (List.mem_cons_self ..)
    rw [munch_of_isDigit hdigit, Munch.number, Cursor.run_eq hrest hds.2 hend]
  | negative hds hend hoperand =>
    rw [munch_of_minus (Cursor.current_eq hrest), hoperand]
    exact Munch.minus_eq_negative hds hend hrest
  | minus h =>
    rw [munch_of_minus (Cursor.current_eq hrest)]
    exact Munch.minus_eq_operator h hrest
  | solo hc =>
    have hcur := Cursor.current_eq hrest
    rw [munch_of_isSolo (hcur ▸ hc), hcur]
  | @joined c d _ hd =>
    have hcur := Cursor.current_eq hrest
    rw [munch_of_followers (by rw [hcur]; exact List.ne_nil_of_mem hd)]
    exact Munch.pair_eq_joined hd hrest
  | single hc hend =>
    rw [munch_of_followers (by rwa [Cursor.current_eq hrest])]
    exact Munch.pair_eq_single hend hrest
  | unequal =>
    rw [munch_of_bang (Cursor.current_eq hrest)]
    exact Munch.bang_eq_unequal hrest
  | bang h =>
    rw [munch_of_bang (Cursor.current_eq hrest)]
    exact Munch.bang_eq_rejected h hrest
  | newline => exact munch_of_newline (Cursor.current_eq hrest)
  | blank hc =>
    have hcur := Cursor.current_eq hrest
    rw [munch_of_isBlank (hcur ▸ hc), hcur]
  | illegal hc =>
    have hcur := Cursor.current_eq hrest
    rw [munch_of_illegal (hcur ▸ hc), hcur]

end

end Lexis
