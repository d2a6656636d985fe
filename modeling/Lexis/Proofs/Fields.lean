import Mathlib
import Lexis.Report.Text

/-!
# Reading rows

What a reader finds in a text who knows nothing of its columns and goes by its newlines and spaces
alone.

* `Text.IsField`: the texts that such a reader takes for one;
* `Text.fields`: the texts between the spaces of a row, with **`Text.fields_alignRight`** and
  **`Text.fields_alignLeft`**: columns do not show in them, however narrow;
* `Text.lines`: the texts between newlines, with **`Text.lines_ofRows`**;
* `isField_toString`, `orDash_inj`, `orUnset_inj`: numbers are fields and can be told apart.
-/

namespace Lexis

namespace Text

/-- A text in which neither a space nor a newline stands, and which is not empty. -/
structure IsField (s : String) : Prop where
  ne_nil : s.toList ≠ []
  space : ' ' ∉ s.toList
  newline : '\n' ∉ s.toList

/-- The texts between the spaces of a row, empty ones left out. -/
def fields (row : String) : List String :=
  ((row.toList.splitOn ' ').filter (· ≠ [])).map String.ofList

/-- The lines of a text, each of which ends in a newline. -/
def lines (s : String) : List String :=
  (s.toList.splitOn '\n').dropLast.map String.ofList

/-! ## Fields of a row -/

theorem fields_append_space (s t : String) : fields (s ++ " " ++ t) = fields s ++ fields t := by
  have hlist : (s ++ " " ++ t).toList = s.toList ++ ' ' :: t.toList := by simp
  rw [fields, hlist, List.splitOn_append_cons_self, List.filter_append, List.map_append]
  rfl

theorem fields_of_space_not_mem {s : String} (hne : s.toList ≠ []) (h : ' ' ∉ s.toList) :
    fields s = [s] := by
  rw [fields, List.splitOn_eq_singleton h]
  simp [hne]

theorem IsField.fields_eq {s : String} (h : IsField s) : fields s = [s] :=
  fields_of_space_not_mem h.ne_nil h.space

/-- Spaces before a text do not show in its fields. -/
theorem fields_replicate_append (k : Nat) (s : String) :
    fields (.ofList (List.replicate k ' ' ++ s.toList)) = fields s := by
  induction k with
  | zero => simp
  | succ k ih =>
    have hempty : fields "" = [] := by simp [fields]
    have hcons : String.ofList (List.replicate (k + 1) ' ' ++ s.toList) =
        "" ++ " " ++ String.ofList (List.replicate k ' ' ++ s.toList) := by
      rw [← String.toList_inj]
      simp [List.replicate_succ]
    rw [hcons, fields_append_space, ih, hempty, List.nil_append]

/-- Nor do spaces after it. -/
theorem fields_append_replicate (k : Nat) (s : String) :
    fields (.ofList (s.toList ++ List.replicate k ' ')) = fields s := by
  cases k with
  | zero => simp
  | succ k =>
    have hspaces : fields (.ofList (List.replicate k ' ')) = [] := by
      simpa [fields] using fields_replicate_append k ""
    have hcons : String.ofList (s.toList ++ List.replicate (k + 1) ' ') =
        s ++ " " ++ String.ofList (List.replicate k ' ') := by
      rw [← String.toList_inj]
      simp [List.replicate_succ]
    rw [hcons, fields_append_space, hspaces, List.append_nil]

/-- **Columns do not show in the fields of a row.** -/
theorem fields_alignRight (width : Nat) (s : String) : fields (alignRight width s) = fields s := by
  rw [← fields_replicate_append (width - s.length) s, ← toList_alignRight, String.ofList_toList]

theorem fields_alignLeft (width : Nat) (s : String) : fields (alignLeft width s) = fields s := by
  rw [← fields_append_replicate (width - s.length) s, ← toList_alignLeft, String.ofList_toList]

/-- All characters but spaces are in the fields. -/
theorem exists_mem_fields {cs : List Char} {c : Char} (hc : c ≠ ' ') (hmem : c ∈ cs) :
    ∃ field ∈ fields (.ofList cs), c ∈ field.toList := by
  by_cases hspace : ' ' ∈ cs
  · obtain ⟨before, behind, hcs⟩ := List.append_of_mem hspace
    have hfields : fields (.ofList cs) = fields (.ofList before) ++ fields (.ofList behind) := by
      rw [← fields_append_space]
      exact congrArg fields (String.toList_inj.1 (by simp [hcs]))
    rw [hfields]
    rcases List.mem_append.1 (hcs ▸ hmem) with hbefore | hbehind
    · obtain ⟨field, hfield, hin⟩ := exists_mem_fields hc hbefore
      exact ⟨field, List.mem_append_left _ hfield, hin⟩
    · have hbehind := (List.mem_cons.1 hbehind).resolve_left hc
      obtain ⟨field, hfield, hin⟩ := exists_mem_fields hc hbehind
      exact ⟨field, List.mem_append_right _ hfield, hin⟩
  · refine ⟨.ofList cs, ?_, by simpa using hmem⟩
    rw [fields_of_space_not_mem (by simpa using List.ne_nil_of_mem hmem) (by simpa using hspace)]
    exact List.mem_singleton_self _
termination_by cs.length
decreasing_by
  all_goals
    have hlength := congrArg List.length hcs
    rw [List.length_append, List.length_cons] at hlength
    omega

/-- A row has no newline if none of its fields has one. -/
theorem newline_not_mem_of_fields {row : String} (h : ∀ field ∈ fields row, IsField field) :
    '\n' ∉ row.toList := by
  intro hmem
  obtain ⟨field, hfield, hnewline⟩ := exists_mem_fields (by decide) hmem
  rw [String.ofList_toList] at hfield
  exact (h field hfield).newline hnewline

/-! ## Lines of a text -/

/-- **The lines of a text that is made of rows are the rows.** -/
theorem lines_ofRows {rows : List String} (h : ∀ row ∈ rows, '\n' ∉ row.toList) :
    lines (Report.ofRows rows) = rows := by
  have hsplit : (Report.ofRows rows).toList.splitOn '\n' = rows.map String.toList ++ [[]] := by
    induction rows with
    | nil => simp [Report.ofRows]
    | cons row rows ih =>
      have hcons : (Report.ofRows (row :: rows)).toList =
          row.toList ++ '\n' :: (Report.ofRows rows).toList := by
        simp [Report.ofRows, String.toList_join]
      rw [hcons, List.splitOn_append_cons_self_of_not_mem (h row (List.mem_cons_self ..)),
        ih fun row hrow => h row (List.mem_cons_of_mem _ hrow)]
      rfl
  rw [lines, hsplit, List.dropLast_concat, List.map_map]
  simp [Function.comp_def]

end Text

open Report Text

/-! ## Numbers -/

theorem isDigit_of_mem_toString {n : Nat} {c : Char} (h : c ∈ (toString n).toList) :
    c.isDigit = true :=
  Nat.isDigit_of_mem_toDigits (by decide) (by decide) (Nat.toList_repr ▸ h)

theorem isField_toString (n : Nat) : IsField (toString n) where
  ne_nil := by
    change n.repr.toList ≠ []
    rw [Nat.toList_repr]
    exact Nat.toDigits_ne_nil
  space h := absurd (isDigit_of_mem_toString h) (by decide)
  newline h := absurd (isDigit_of_mem_toString h) (by decide)

/-- A text that begins with a dash is no number. -/
theorem dash_ne_toString {s : String} (h : '-' ∈ s.toList) (n : Nat) : s ≠ toString n := by
  rintro rfl
  exact absurd (isDigit_of_mem_toString h) (by decide)

namespace Report

theorem isField_orDash (n? : Option Nat) : IsField (orDash n?) := by
  cases n? with
  | none => exact ⟨by decide, by decide, by decide⟩
  | some n => exact isField_toString n

theorem isField_orUnset (line? : Option UInt32) : IsField (orUnset line?) := by
  cases line? with
  | none => exact ⟨by decide, by decide, by decide⟩
  | some line => exact isField_toString line.toNat

theorem orDash_inj {m? n? : Option Nat} : orDash m? = orDash n? ↔ m? = n? := by
  have hdash : '-' ∈ "-".toList := by decide
  cases m? with
  | none =>
    cases n? with
    | none => simp
    | some n => simpa [orDash] using dash_ne_toString hdash n
  | some m =>
    cases n? with
    | none => simpa [orDash] using (dash_ne_toString hdash m).symm
    | some n => simp [orDash]

theorem orUnset_inj {line? line'? : Option UInt32} :
    orUnset line? = orUnset line'? ↔ line? = line'? := by
  have hdash : '-' ∈ "-1".toList := by decide
  cases line? with
  | none =>
    cases line'? with
    | none => simp
    | some line => simpa [orUnset] using dash_ne_toString hdash line.toNat
  | some line =>
    cases line'? with
    | none => simpa [orUnset] using (dash_ne_toString hdash line.toNat).symm
    | some line' => simpa [orUnset] using Nat.repr_inj.trans UInt32.toNat_inj

end Report

end Lexis
