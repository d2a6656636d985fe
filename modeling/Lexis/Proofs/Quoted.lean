import Lexis.Text.Quoted
import Lexis.Proofs.Json

/-!
# Reading quoted texts

A quoted text can be told from whatever stands behind it, and it never breaks a line. It does not
matter which characters are shown as they are: those that would mislead a reader are escaped in any
case.

* `Text.ofHex`: the number that hexadecimal digits stand for, with `Text.ofHex_toDigits`;
* `Text.unescape?`: the character that an escape stands for, with **`Text.unescape?_escape`**;
* **`Text.separable_quote`**, `Text.separable_quoteString`: quoted texts;
* `Text.newline_not_mem_quote`: a quoted text holds no newline.
-/

namespace Lexis.Text

/-! ## Hexadecimal digits -/

/-- The number that hexadecimal digits stand for. -/
def ofHex (digits : List Char) : Nat := digits.foldl (fun n d => 16 * n + Json.hexValue d) 0

theorem hexValue_digitChar {d : Nat} (h : d < 16) : Json.hexValue d.digitChar = d := by
  have hall : ∀ d < 16, Json.hexValue (Nat.digitChar d) = d := by decide
  exact hall d h

theorem ofHex_toDigits (n : Nat) : ofHex (Nat.toDigits 16 n) = n := by
  induction n using Nat.strongRecOn with
  | ind n ih =>
    by_cases hlt : n < 16
    · rw [Nat.toDigits_of_lt_base hlt, ofHex, List.foldl_cons, List.foldl_nil,
        hexValue_digitChar hlt, Nat.mul_zero, Nat.zero_add]
    · have hhigh := ih (n / 16) (by omega)
      rw [Nat.toDigits_of_base_le (by decide) (by omega), ofHex, List.foldl_append, ← ofHex, hhigh,
        List.foldl_cons, List.foldl_nil, hexValue_digitChar (Nat.mod_lt n (by decide))]
      exact Nat.div_add_mod n 16

theorem exists_eq_digitChar {n : Nat} {c : Char} (hc : c ∈ Nat.toDigits 16 n) :
    ∃ d < 16, c = Nat.digitChar d := by
  induction n using Nat.strongRecOn with
  | ind n ih =>
    by_cases hlt : n < 16
    · rw [Nat.toDigits_of_lt_base hlt, List.mem_singleton] at hc
      exact ⟨n, hlt, hc⟩
    · rw [Nat.toDigits_of_base_le (by decide) (by omega), List.mem_append,
        List.mem_singleton] at hc
      rcases hc with hc | rfl
      · exact ih (n / 16) (by omega) hc
      · exact ⟨n % 16, Nat.mod_lt n (by decide), rfl⟩

/-- Hexadecimal digits are letters and digits. -/
theorem isAlphanum_of_mem_toDigits {n : Nat} {c : Char} (hc : c ∈ Nat.toDigits 16 n) :
    c.isAlphanum = true := by
  have hall : ∀ d < 16, (Nat.digitChar d).isAlphanum = true := by decide
  obtain ⟨d, hd, rfl⟩ := exists_eq_digitChar hc
  exact hall d hd

/-! ## Escapes -/

/-- The character that a quoted text shows first, and what is left of the text. -/
def unescape? : List Char → Option (Char × List Char)
  | '\\' :: '0' :: cs => some ('\x00', cs)
  | '\\' :: 't' :: cs => some ('\t', cs)
  | '\\' :: 'r' :: cs => some ('\r', cs)
  | '\\' :: 'n' :: cs => some ('\n', cs)
  | '\\' :: 'u' :: '{' :: cs =>
    some (.ofNat (ofHex (cs.takeWhile Char.isAlphanum)), (cs.dropWhile Char.isAlphanum).tail)
  | '\\' :: c :: cs => some (c, cs)
  | c :: cs => some (c, cs)
  | [] => none

theorem unescape?_cons {c : Char} (h : c ≠ '\\') (cs : List Char) :
    unescape? (c :: cs) = some (c, cs) := by
  unfold unescape?
  split <;> simp_all

section

variable {q : Char} (hq : q = '\'' ∨ q = '"') (shown : Char → Bool)
include hq

/-- **A character is read back from its escape**, whichever characters are shown as they are. -/
theorem unescape?_escape (c : Char) (rest : List Char) :
    unescape? (escape shown q c ++ rest) = some (c, rest) := by
  unfold escape
  split_ifs with hnull htab hreturn hnewline hescaped hshown
  · subst hnull; rfl
  · subst htab; rfl
  · subst hreturn; rfl
  · subst hnewline; rfl
  · rcases hescaped with rfl | rfl
    · rfl
    · rcases hq with rfl | rfl <;> rfl
  · exact unescape?_cons (not_or.1 hescaped).1 rest
  · have hdigits : ∀ d ∈ Nat.toDigits 16 c.toNat, d.isAlphanum = true :=
      fun d => isAlphanum_of_mem_toDigits
    have hends : Ends Char.isAlphanum ('}' :: rest) := by simp [Ends]
    rw [List.append_assoc, List.append_assoc]
    change some (Char.ofNat (ofHex (List.takeWhile _ (_ ++ '}' :: rest))),
      (List.dropWhile _ (_ ++ '}' :: rest)).tail) = _
    rw [takeWhile_eq_of_ends hdigits hends, dropWhile_eq_of_ends hdigits hends, ofHex_toDigits,
      Char.ofNat_toNat, List.tail_cons]

/-- No escape begins with the quote that ends a text. -/
theorem exists_escape_eq_cons (c : Char) : ∃ d ds, escape shown q c = d :: ds ∧ d ≠ q := by
  have hback : '\\' ≠ q := by rcases hq with rfl | rfl <;> decide
  unfold escape
  split_ifs with hnull htab hreturn hnewline hescaped hshown
  · exact ⟨_, _, rfl, hback⟩
  · exact ⟨_, _, rfl, hback⟩
  · exact ⟨_, _, rfl, hback⟩
  · exact ⟨_, _, rfl, hback⟩
  · exact ⟨_, _, rfl, hback⟩
  · exact ⟨_, _, rfl, (not_or.1 hescaped).2⟩
  · exact ⟨_, _, rfl, hback⟩

theorem separable_escape (c : Char) : Separable (fun _ => True) (escape shown q) c := by
  intro d rest rest' _ _ h
  have hread := congrArg unescape? h
  rw [unescape?_escape hq, unescape?_escape hq, Option.some.injEq, Prod.mk.injEq] at hread
  exact hread

/-- **A quoted text can be told from what follows it.** -/
theorem separable_quote (cs : List Char) : Separable (fun _ => True) (quote shown q) cs :=
  separable_between (exists_escape_eq_cons hq shown) (separable_escape hq shown) cs

end

variable (shown : Char → Bool)

theorem quoteChar_inj {c d : Char} : quoteChar shown c = quoteChar shown d ↔ c = d := by
  refine ⟨fun h => ?_, congrArg (quoteChar shown)⟩
  rw [quoteChar, quoteChar, String.ofList_inj] at h
  have htext := (separable_quote (.inl rfl) shown [c]).eq_of_text_eq trivial h
  exact (List.cons.inj htext).1

theorem separable_quoteString (s : String) :
    Separable (fun _ => True) (fun s => (quoteString shown s).toList) s := by
  intro t rest rest' _ _ h
  dsimp only [quoteString] at h
  rw [String.toList_ofList, String.toList_ofList] at h
  obtain ⟨hchars, hrest⟩ :=
    separable_quote (.inr rfl) shown s.toList t.toList rest rest' trivial trivial h
  exact ⟨String.toList_inj.1 hchars, hrest⟩

/-! ## Newlines -/

theorem newline_not_mem_escape {q : Char} (hq : q ≠ '\n') (c : Char) :
    '\n' ∉ escape shown q c := by
  have hdigits : '\n' ∉ Nat.toDigits 16 c.toNat := fun hmem =>
    absurd (isAlphanum_of_mem_toDigits hmem) (by decide)
  unfold escape
  split_ifs with hnull htab hreturn hnewline hescaped hshown
  · decide
  · decide
  · decide
  · decide
  · rcases hescaped with rfl | rfl
    · decide
    · simpa using hq.symm
  · simpa using Ne.symm hnewline
  · simpa using hdigits

/-- **A quoted text holds no newline**, whatever the text is. -/
theorem newline_not_mem_quote {q : Char} (hq : q ≠ '\n') (cs : List Char) :
    '\n' ∉ quote shown q cs := by
  have hbody : '\n' ∉ cs.flatMap (escape shown q) := by
    rw [List.mem_flatMap]
    rintro ⟨c, -, hmem⟩
    exact newline_not_mem_escape shown hq c hmem
  simp [quote, hq.symm, hbody]

end Lexis.Text
