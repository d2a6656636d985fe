import Lexis.Json
import Lexis.Proofs.Fields
import Lexis.Proofs.Munch

/-!
# Reading JSON texts

The text of a JSON value can be told from whatever stands behind it, unless that goes on with a
digit. So no two values have the same text, however deep they are nested and whatever their strings
hold.

* `Separable`: the text of a thing can be told from those of all others and from what follows it,
  with `flatMap_append_inj` for texts one behind the other up to a mark, and `separable_between`
  for a text between two marks;
* `Json.unescape?`: the character that an escape stands for, with `Json.unescape?_escape`;
* `Json.separable_quote`, `Json.separable_toString`, `Json.eq_of_block_append`: strings, numbers,
  and lists of members;
* `Json.induction`: what holds of a value if it holds of its members, holds of all values;
* **`Json.separable_prettyAt`**, **`Json.pretty_inj`**: the text of a value.
-/

namespace Lexis

/-! ## Texts that can be told apart -/

section

variable {α : Type}

/-- The text of `a` can be told from the text of anything else, and from what stands behind it if
that is one of the texts that may follow. -/
def Separable (follows : List Char → Prop) (text : α → List Char) (a : α) : Prop :=
  ∀ (b : α) (rest rest' : List Char), follows rest → follows rest' →
    text a ++ rest = text b ++ rest' → a = b ∧ rest = rest'

theorem Separable.eq_of_text_eq {follows : List Char → Prop} {text : α → List Char} {a b : α}
    (ha : Separable follows text a) (hend : follows []) (h : text a = text b) : a = b := by
  refine (ha b [] [] hend hend ?_).1
  rw [h]

/-- **Texts one behind the other can be told apart up to a mark that none of them begins with**, if
each of them can be told from what follows it. -/
theorem flatMap_append_inj {follows : List Char → Prop} {text : α → List Char} {mark : Char}
    (hhead : ∀ a, ∃ c cs, text a = c :: cs ∧ c ≠ mark) (hmark : ∀ rest, follows (mark :: rest))
    (htext : ∀ a rest, follows (text a ++ rest)) {as bs : List α} {rest rest' : List Char}
    (has : ∀ a ∈ as, Separable follows text a)
    (h : as.flatMap text ++ mark :: rest = bs.flatMap text ++ mark :: rest') :
    as = bs ∧ rest = rest' := by
  have hfollows (as : List α) (rest : List Char) : follows (as.flatMap text ++ mark :: rest) := by
    cases as with
    | nil => exact hmark rest
    | cons a as =>
      rw [List.flatMap_cons, List.append_assoc]
      exact htext a _
  induction as generalizing bs with
  | nil =>
    cases bs with
    | nil => exact ⟨rfl, (List.cons.inj h).2⟩
    | cons b bs =>
      obtain ⟨c, cs, hb, hne⟩ := hhead b
      rw [List.flatMap_cons, hb] at h
      exact absurd (List.cons.inj h).1.symm hne
  | cons a as ih =>
    rw [List.forall_mem_cons] at has
    cases bs with
    | nil =>
      obtain ⟨c, cs, ha, hne⟩ := hhead a
      rw [List.flatMap_cons, ha] at h
      exact absurd (List.cons.inj h).1 hne
    | cons b bs =>
      rw [List.flatMap_cons, List.flatMap_cons, List.append_assoc, List.append_assoc] at h
      obtain ⟨rfl, htail⟩ := has.1 b _ _ (hfollows as rest) (hfollows bs rest') h
      obtain ⟨rfl, hrest⟩ := ih has.2 htail
      exact ⟨rfl, hrest⟩

end

/-- **A text between two marks can be told from what follows it**, if each of its characters can and
none is written as the mark. -/
theorem separable_between {escape : Char → List Char} {mark : Char}
    (hhead : ∀ c, ∃ d ds, escape c = d :: ds ∧ d ≠ mark)
    (hescape : ∀ c, Separable (fun _ => True) escape c) (cs : List Char) :
    Separable (fun _ => True) (fun cs => mark :: cs.flatMap escape ++ [mark]) cs := by
  intro ds rest rest' _ _ h
  have hlist (cs rest : List Char) : (mark :: cs.flatMap escape ++ [mark]) ++ rest =
      mark :: (cs.flatMap escape ++ mark :: rest) := by
    simp
  rw [hlist, hlist, List.cons.injEq] at h
  exact flatMap_append_inj hhead (fun _ => trivial) (fun _ _ => trivial) (fun c _ => hescape c) h.2

namespace Json

/-! ## Strings -/

/-- The value of a hexadecimal digit. -/
def hexValue (c : Char) : Nat := if c.isDigit then c.toNat - '0'.toNat else c.toNat - 'a'.toNat + 10

/-- The character that a text shows first, if it stands in a string, and what is left of the
text. -/
def unescape? : List Char → Option (Char × List Char)
  | '\\' :: 'b' :: cs => some ('\x08', cs)
  | '\\' :: 't' :: cs => some ('\t', cs)
  | '\\' :: 'n' :: cs => some ('\n', cs)
  | '\\' :: 'f' :: cs => some ('\x0c', cs)
  | '\\' :: 'r' :: cs => some ('\r', cs)
  | '\\' :: 'u' :: '0' :: '0' :: high :: low :: cs =>
    some (.ofNat (16 * hexValue high + hexValue low), cs)
  | '\\' :: c :: cs => some (c, cs)
  | c :: cs => some (c, cs)
  | [] => none

theorem ofNat_hexPair {n : Nat} (h : n < 32) :
    Char.ofNat (16 * hexValue (Nat.digitChar (n / 16)) + hexValue (Nat.digitChar (n % 16))) =
      .ofNat n := by
  have hall : ∀ n < 32, Char.ofNat (16 * hexValue (Nat.digitChar (n / 16)) +
      hexValue (Nat.digitChar (n % 16))) = .ofNat n := by decide
  exact hall n h

theorem unescape?_cons {c : Char} (h : c ≠ '\\') (cs : List Char) :
    unescape? (c :: cs) = some (c, cs) := by
  unfold unescape?
  split <;> simp_all

/-- **A character is read back from its escape.** -/
theorem unescape?_escape (c : Char) (rest : List Char) :
    unescape? (escape c ++ rest) = some (c, rest) := by
  unfold escape
  split_ifs with hquoted hback htab hnewline hfeed hreturn hcontrol
  · rcases hquoted with rfl | rfl <;> rfl
  · subst hback; rfl
  · subst htab; rfl
  · subst hnewline; rfl
  · subst hfeed; rfl
  · subst hreturn; rfl
  · have hlt : c.toNat < 32 := hcontrol
    change some (Char.ofNat _, rest) = _
    rw [ofNat_hexPair hlt, Char.ofNat_toNat]
  · exact unescape?_cons (not_or.1 hquoted).2 rest

/-- No escape begins with the quote that ends a string. -/
theorem exists_escape_eq_cons (c : Char) : ∃ d ds, escape c = d :: ds ∧ d ≠ '"' := by
  have hread := unescape?_escape c []
  rw [List.append_nil] at hread
  cases hescape : escape c with
  | nil =>
    rw [hescape] at hread
    cases hread
  | cons d ds =>
    refine ⟨d, ds, rfl, ?_⟩
    rintro rfl
    rw [hescape, unescape?_cons (by decide), Option.some.injEq, Prod.mk.injEq] at hread
    -- the quote itself has an escape that begins with a backslash
    obtain ⟨rfl, -⟩ := hread
    exact absurd (List.cons.inj hescape).1 (by decide)

theorem separable_escape (c : Char) : Separable (fun _ => True) escape c := by
  intro d rest rest' _ _ h
  have hread := congrArg unescape? h
  rw [unescape?_escape, unescape?_escape, Option.some.injEq, Prod.mk.injEq] at hread
  exact hread

/-- **A string can be told from what follows it.** -/
theorem separable_quote (s : String) :
    Separable (fun _ => True) (fun s => (quote s).toList) s := by
  intro t rest rest' _ _ h
  dsimp only [quote] at h
  rw [String.toList_ofList, String.toList_ofList] at h
  obtain ⟨hchars, hrest⟩ :=
    separable_between exists_escape_eq_cons separable_escape s.toList _ _ _ trivial trivial h
  exact ⟨String.toList_inj.1 hchars, hrest⟩

/-! ## Numbers -/

/-- A number can be told from what follows it, if that is no further digit. -/
theorem eq_of_toString_append {m n : Nat} {rest rest' : List Char} (hrest : Ends Char.isDigit rest)
    (hrest' : Ends Char.isDigit rest')
    (h : (toString m).toList ++ rest = (toString n).toList ++ rest') : m = n ∧ rest = rest' := by
  have hdigits (n : Nat) : ∀ c ∈ (toString n).toList, c.isDigit = true :=
    fun _ => isDigit_of_mem_toString
  have htake := congrArg (List.takeWhile Char.isDigit) h
  have hdrop := congrArg (List.dropWhile Char.isDigit) h
  rw [takeWhile_eq_of_ends (hdigits m) hrest, takeWhile_eq_of_ends (hdigits n) hrest',
    String.toList_inj] at htake
  rw [dropWhile_eq_of_ends (hdigits m) hrest, dropWhile_eq_of_ends (hdigits n) hrest'] at hdrop
  exact ⟨Nat.repr_inj.1 htake, hdrop⟩

theorem exists_toString_eq_cons (n : Nat) :
    ∃ c cs, (toString n).toList = c :: cs ∧ c.isDigit = true := by
  obtain ⟨c, cs, heq⟩ := List.exists_cons_of_ne_nil (isField_toString n).ne_nil
  exact ⟨c, cs, heq, isDigit_of_mem_toString (heq ▸ List.mem_cons_self ..)⟩

theorem minus_ne_toString_append (n : Nat) (rest rest' : List Char) :
    '-' :: rest ≠ (toString n).toList ++ rest' := by
  obtain ⟨c, cs, heq, hc⟩ := exists_toString_eq_cons n
  rw [heq]
  intro h
  obtain rfl := (List.cons.inj h).1
  cases hc

theorem toString_negSucc (n : Nat) :
    (toString (Int.negSucc n)).toList = '-' :: (toString (n + 1)).toList := by
  change ("-" ++ toString (n + 1)).toList = _
  simp

theorem separable_toString (n : Int) :
    Separable (Ends Char.isDigit) (fun n : Int => (toString n).toList) n := by
  intro m rest rest' hrest hrest' h
  dsimp only at h
  cases n with
  | ofNat n =>
    cases m with
    | ofNat m =>
      obtain ⟨rfl, htail⟩ := eq_of_toString_append hrest hrest' h
      exact ⟨rfl, htail⟩
    | negSucc m =>
      rw [toString_negSucc] at h
      exact absurd h.symm (minus_ne_toString_append n _ rest)
  | negSucc n =>
    rw [toString_negSucc] at h
    cases m with
    | ofNat m => exact absurd h (minus_ne_toString_append m _ rest')
    | negSucc m =>
      rw [toString_negSucc] at h
      obtain ⟨heq, htail⟩ := eq_of_toString_append hrest hrest' (List.cons.inj h).2
      obtain rfl := Nat.succ.inj heq
      exact ⟨rfl, htail⟩

/-! ## Members -/

theorem toList_lineBreak (depth : Nat) :
    (lineBreak depth).toList = '\n' :: List.replicate (2 * depth) ' ' := by
  simp [lineBreak]

theorem intercalate_cons (separator text : List Char) (texts : List (List Char)) :
    separator.intercalate (text :: texts) = text ++ texts.flatMap fun cs => separator ++ cs := by
  induction texts generalizing text with
  | nil => simp
  | cons next texts ih => simp only [List.intercalate_cons_cons, ih, List.flatMap_cons, List.append_assoc]

/-- A member on a line of its own, behind the comma that ends the line before. -/
def nextMember (depth : Nat) (member : String) : List Char :=
  ',' :: ((lineBreak (depth + 1)).toList ++ member.toList)

/-- The first member of a list stands behind the opening bracket, the others behind a comma. -/
theorem toList_block_cons (opening closing : String) (depth : Nat) (member : String)
    (members : List String) :
    (block opening closing depth (member :: members)).toList =
      opening.toList ++ ((lineBreak (depth + 1)).toList ++ (member.toList ++
        (members.flatMap (nextMember depth) ++
          '\n' :: (List.replicate (2 * depth) ' ' ++ closing.toList)))) := by
  have hnext : (members.map String.toList).flatMap
      (fun cs => ("," ++ lineBreak (depth + 1)).toList ++ cs) = members.flatMap (nextMember depth) := by
    rw [List.flatMap_map]
    exact congrArg (members.flatMap ·) (funext fun s => by simp [nextMember])
  rw [block, String.toList_append, String.toList_append, String.toList_append,
    String.toList_append, String.toList_intercalate, List.map_cons, intercalate_cons, hnext,
    toList_lineBreak depth]
  · simp
  · simp

theorem toList_block_nil (opening closing : String) (depth : Nat) :
    (block opening closing depth []).toList = opening.toList ++ closing.toList := by
  simp [block]

theorem opening_prefix_block (opening closing : String) (depth : Nat) (members : List String) :
    opening.toList <+: (block opening closing depth members).toList := by
  cases members with
  | nil => rw [toList_block_nil]; exact List.prefix_append ..
  | cons member members => rw [toList_block_cons]; exact List.prefix_append ..

theorem ends_isDigit_cons {c : Char} (h : c.isDigit = false) (cs : List Char) :
    Ends Char.isDigit (c :: cs) := by
  intro d hd
  obtain rfl : c = d := by simpa using hd
  exact h

/-- **Members between brackets can be told from what follows them**, if each of them can. -/
theorem eq_of_block_append {α : Type} {member : α → String} {opening closing : String}
    {depth : Nat} (hclosing : ∃ c cs, closing.toList = c :: cs ∧ c ≠ '\n') {as bs : List α}
    {rest rest' : List Char}
    (has : ∀ a ∈ as, Separable (Ends Char.isDigit) (fun a => (member a).toList) a)
    (h : (block opening closing depth (as.map member)).toList ++ rest =
      (block opening closing depth (bs.map member)).toList ++ rest') :
    as = bs ∧ rest = rest' := by
  have hclosing' (rest tail : List Char) :
      closing.toList ++ rest ≠ (lineBreak (depth + 1)).toList ++ tail := by
    obtain ⟨c, cs, heq, hne⟩ := hclosing
    rw [heq, toList_lineBreak]
    exact fun h => hne (List.cons.inj h).1
  cases as with
  | nil =>
    cases bs with
    | nil => exact ⟨rfl, List.append_cancel_left h⟩
    | cons b bs =>
      simp only [List.map_nil, List.map_cons, toList_block_nil, toList_block_cons,
        List.append_assoc, List.append_cancel_left_eq] at h
      exact absurd h (hclosing' _ _)
  | cons a as =>
    cases bs with
    | nil =>
      simp only [List.map_nil, List.map_cons, toList_block_nil, toList_block_cons,
        List.append_assoc, List.append_cancel_left_eq] at h
      exact absurd h.symm (hclosing' _ _)
    | cons b bs =>
      rw [List.forall_mem_cons] at has
      have hnext (cs : List α) (rest : List Char) : Ends Char.isDigit
          (cs.flatMap (fun a => nextMember depth (member a)) ++ '\n' :: rest) := by
        cases cs with
        | nil => exact ends_isDigit_cons rfl _
        | cons c cs => exact ends_isDigit_cons rfl _
      simp only [List.map_cons, toList_block_cons, List.append_assoc, List.cons_append,
        List.append_cancel_left_eq, List.flatMap_map] at h
      obtain ⟨rfl, htail⟩ := has.1 b _ _ (hnext as _) (hnext bs _) h
      have hseparable : ∀ a ∈ as,
          Separable (Ends Char.isDigit) (fun a => nextMember depth (member a)) a := by
        intro a ha b rest rest' hrest hrest' h
        simp only [nextMember, List.cons_append, List.append_assoc, List.cons.injEq, true_and,
          List.append_cancel_left_eq] at h
        exact has.2 a ha b rest rest' hrest hrest' h
      obtain ⟨rfl, hrest⟩ := flatMap_append_inj (fun _ => ⟨_, _, rfl, by decide⟩)
        (ends_isDigit_cons rfl) (fun _ _ => ends_isDigit_cons rfl _) hseparable htail
      simp only [List.append_cancel_left_eq] at hrest
      exact ⟨rfl, hrest⟩

/-! ## Values -/

/-- What holds of a value if it holds of its members, holds of all values. -/
@[elab_as_elim]
theorem induction {motive : Json → Prop} (null : motive .null) (bool : ∀ b, motive (.bool b))
    (num : ∀ n, motive (.num n)) (str : ∀ s, motive (.str s))
    (arr : ∀ items, (∀ item ∈ items, motive item) → motive (.arr items))
    (obj : ∀ fields, (∀ field ∈ fields, motive field.2) → motive (.obj fields)) :
    ∀ j, motive j
  | .null => null
  | .bool b => bool b
  | .num n => num n
  | .str s => str s
  | .arr items => arr items fun item _ => induction null bool num str arr obj item
  | .obj fields => obj fields fun field _ => induction null bool num str arr obj field.2
termination_by j => sizeOf j
decreasing_by
  · have hlt := List.sizeOf_lt_of_mem ‹item ∈ items›
    rw [Json.arr.sizeOf_spec]
    omega
  · have hlt := List.sizeOf_lt_of_mem ‹field ∈ fields›
    have hfield : sizeOf field = 1 + sizeOf field.1 + sizeOf field.2 := rfl
    rw [Json.obj.sizeOf_spec]
    omega

/-- The sort of value that a text is of, told by its first character; a zero stands for numbers. -/
def sortOf (cs : List Char) : Option Char :=
  cs.head?.map fun c => if c.isDigit ∨ c = '-' then '0' else c

/-- The first character of the text of a value; a zero stands for numbers. -/
def sort : Json → Char
  | null => 'n'
  | bool true => 't'
  | bool false => 'f'
  | num _ => '0'
  | str _ => '"'
  | arr _ => '['
  | obj _ => '\x7b'

/-- The first character of a text tells the sort of its value. -/
theorem sortOf_prettyAt (depth : Nat) (j : Json) (rest : List Char) :
    sortOf ((prettyAt depth j).toList ++ rest) = some j.sort := by
  cases j with
  | null => simp [prettyAt, sortOf, sort]
  | bool b => cases b <;> simp [prettyAt, sortOf, sort]
  | num n =>
    rw [prettyAt]
    cases n with
    | ofNat n =>
      obtain ⟨c, cs, heq, hc⟩ := exists_toString_eq_cons n
      change sortOf ((toString n).toList ++ rest) = _
      rw [heq]
      simp [sortOf, hc, sort]
    | negSucc n =>
      rw [toString_negSucc]
      rfl
  | str s => simp [prettyAt, quote, sortOf, sort]
  | arr items =>
    obtain ⟨cs, hcs⟩ := opening_prefix_block "[" "]" depth (prettyItems (depth + 1) items)
    rw [prettyAt, ← hcs]
    rfl
  | obj fields =>
    obtain ⟨cs, hcs⟩ := opening_prefix_block "\x7b" "\x7d" depth (prettyFields (depth + 1) fields)
    rw [prettyAt, ← hcs]
    rfl

/-- Values of one sort. There are two sorts of truth values. -/
inductive Alike : Json → Json → Prop
  | null : Alike null null
  | bool (b : Bool) : Alike (bool b) (bool b)
  | num (m n : Int) : Alike (num m) (num n)
  | str (s t : String) : Alike (str s) (str t)
  | arr (items others : List Json) : Alike (arr items) (arr others)
  | obj (fields others : List (String × Json)) : Alike (obj fields) (obj others)

theorem Alike.of_sort_eq {j k : Json} (h : j.sort = k.sort) : Alike j k := by
  rcases j with _ | (_ | _) | _ | _ | _ | _ <;> rcases k with _ | (_ | _) | _ | _ | _ | _ <;>
    first | constructor | simp [sort] at h

/-- Texts that go on alike are those of values of one sort. -/
theorem Alike.of_append_eq {depth : Nat} {j k : Json} {rest rest' : List Char}
    (h : (prettyAt depth j).toList ++ rest = (prettyAt depth k).toList ++ rest') : Alike j k := by
  have hsort := congrArg sortOf h
  rw [sortOf_prettyAt, sortOf_prettyAt, Option.some.injEq] at hsort
  exact .of_sort_eq hsort

/-- A field can be told from what follows it if its value can. -/
theorem separable_field {depth : Nat} {field : String × Json}
    (h : Separable (Ends Char.isDigit) (fun j => (prettyAt depth j).toList) field.2) :
    Separable (Ends Char.isDigit)
      (fun field => (quote field.1 ++ ": " ++ prettyAt depth field.2).toList) field := by
  intro other rest rest' hrest hrest' heq
  simp only [String.toList_append, List.append_assoc] at heq
  obtain ⟨hkey, htail⟩ := separable_quote field.1 other.1 _ _ trivial trivial heq
  obtain ⟨hvalue, hrest⟩ := h other.2 _ _ hrest hrest' (List.append_cancel_left htail)
  exact ⟨Prod.ext hkey hvalue, hrest⟩

/-- **The text of a value can be told from what follows it**, if that is no further digit. -/
theorem separable_prettyAt (depth : Nat) (j : Json) :
    Separable (Ends Char.isDigit) (fun j => (prettyAt depth j).toList) j := by
  induction j using induction generalizing depth with
  | null =>
    intro k rest rest' _ _ h
    cases Alike.of_append_eq h
    exact ⟨rfl, List.append_cancel_left h⟩
  | bool b =>
    intro k rest rest' _ _ h
    cases Alike.of_append_eq h
    exact ⟨rfl, List.append_cancel_left h⟩
  | num n =>
    intro k rest rest' hrest hrest' h
    cases Alike.of_append_eq h with
    | num _ m =>
      simp only [prettyAt] at h
      obtain ⟨rfl, htail⟩ := separable_toString n m _ _ hrest hrest' h
      exact ⟨rfl, htail⟩
  | str s =>
    intro k rest rest' _ _ h
    cases Alike.of_append_eq h with
    | str _ t =>
      simp only [prettyAt] at h
      obtain ⟨rfl, htail⟩ := separable_quote s t _ _ trivial trivial h
      exact ⟨rfl, htail⟩
  | arr items ih =>
    intro k rest rest' _ _ h
    cases Alike.of_append_eq h with
    | arr _ others =>
      simp only [prettyAt, prettyItems_eq_map] at h
      obtain ⟨rfl, htail⟩ := eq_of_block_append ⟨_, _, rfl, by decide⟩
        (fun item hitem => ih item hitem (depth + 1)) h
      exact ⟨rfl, htail⟩
  | obj fields ih =>
    intro k rest rest' _ _ h
    cases Alike.of_append_eq h with
    | obj _ others =>
      simp only [prettyAt, prettyFields_eq_map] at h
      obtain ⟨rfl, htail⟩ := eq_of_block_append ⟨_, _, rfl, by decide⟩
        (fun field hfield => separable_field (ih field hfield (depth + 1))) h
      exact ⟨rfl, htail⟩

/-- **No two values have the same text.** -/
theorem pretty_inj {j k : Json} : j.pretty = k.pretty ↔ j = k := by
  refine ⟨fun h => ?_, congrArg pretty⟩
  have hend : Ends Char.isDigit [] := by simp [Ends]
  exact (separable_prettyAt 0 j).eq_of_text_eq hend (congrArg String.toList h)

end Json

end Lexis
