import Lexis.CommandLine
import Lexis.Proofs.Json

/-!
# Reading a report in JSON

The report in JSON tells the whole outcome of an analysis, whatever the outcome is and whatever its
texts hold.

* `Token.toJson_injective`, `Identifier.toJson_injective`, `Constant.toJson_injective`,
  `Label.toJson_injective`, `Analysis.toJson_injective`: tokens, symbols and analyses;
* `Fault.eq_of_detail_eq`, `Diagnostic.toJson_injective`: the details of a fault do not tell its
  sort, but its name does;
* `Report.toJson_injective`: outcomes;
* **`CommandLine.report_json_eq_iff`**: reports in JSON are the same only for the same outcome.
-/

namespace Lexis

theorem Json.ofNat_injective : Function.Injective Json.ofNat := fun m n h => by
  simpa [ofNat] using h

theorem Json.ofOption_injective {α : Type} {f : α → Json} (hf : Function.Injective f)
    (hnull : ∀ a, f a ≠ .null) : Function.Injective (ofOption f) := by
  intro a? b? h
  cases a? with
  | none =>
    cases b? with
    | none => rfl
    | some b => exact absurd h.symm (hnull b)
  | some a =>
    cases b? with
    | none => exact absurd h (hnull a)
    | some b => exact congrArg some (hf h)

/-! ## Analyses -/

theorem Kind.toJson_injective : Function.Injective Kind.toJson := by
  intro k k' h
  cases k <;> cases k' <;> simp_all [toJson, display, Json.ofNat]

theorem lineToJson_injective : Function.Injective lineToJson :=
  Json.ofOption_injective (fun _ _ h => UInt32.toNat_inj.1 (Json.ofNat_injective h)) (by nofun)

theorem ofOption_ofNat_injective : Function.Injective (Json.ofOption Json.ofNat) :=
  Json.ofOption_injective Json.ofNat_injective (by nofun)

theorem Token.toJson_injective : Function.Injective Token.toJson := by
  intro t u h
  simp only [toJson, Json.obj.injEq, List.cons.injEq, Prod.mk.injEq, Json.str.injEq, true_and,
    and_true] at h
  obtain ⟨hid, hindex, hkind, hline, htext⟩ := h
  have hid := Json.ofNat_injective hid
  have hindex := ofOption_ofNat_injective hindex
  have hkind := Kind.toJson_injective hkind
  have hline := UInt32.toNat_inj.1 (Json.ofNat_injective hline)
  cases t; cases u
  rw [Token.mk.injEq, Lexeme.mk.injEq]
  exact ⟨⟨hline, htext, hkind⟩, hid, hindex⟩

theorem Identifier.toJson_injective : Function.Injective Identifier.toJson := by
  intro i j h
  simp only [toJson, Json.obj.injEq, List.cons.injEq, Prod.mk.injEq, Json.str.injEq, true_and,
    and_true] at h
  obtain ⟨htype, hindex, hname⟩ := h
  have hindex := Json.ofNat_injective hindex
  cases i; cases j
  rw [Identifier.mk.injEq]
  exact ⟨hname, hindex, htype⟩

theorem Constant.toJson_injective : Function.Injective Constant.toJson := by
  intro c d h
  simp only [toJson, Json.obj.injEq, List.cons.injEq, Prod.mk.injEq, Json.str.injEq, true_and,
    and_true] at h
  obtain ⟨hindex, hspelling⟩ := h
  have hindex := Json.ofNat_injective hindex
  cases c; cases d
  rw [Constant.mk.injEq]
  exact ⟨hspelling, hindex⟩

theorem Label.toJson_injective : Function.Injective Label.toJson := by
  intro l m h
  simp only [toJson, Json.obj.injEq, List.cons.injEq, Prod.mk.injEq, Json.str.injEq, true_and,
    and_true] at h
  obtain ⟨hindex, hfrom, hto, hname⟩ := h
  have hindex := Json.ofNat_injective hindex
  have hfrom := lineToJson_injective hfrom
  have hto := lineToJson_injective hto
  cases l; cases m
  rw [Label.mk.injEq]
  exact ⟨hname, hindex, hfrom, hto⟩

theorem Analysis.toJson_injective : Function.Injective Analysis.toJson := by
  intro a b h
  simp only [toJson, Json.obj.injEq, List.cons.injEq, Prod.mk.injEq, Json.arr.injEq, true_and,
    and_true] at h
  obtain ⟨hconstants, hidentifiers, hlabels, htokens⟩ := h
  have hconstants := Constant.toJson_injective.list_map hconstants
  have hidentifiers := Identifier.toJson_injective.list_map hidentifiers
  have hlabels := Label.toJson_injective.list_map hlabels
  have htokens := Token.toJson_injective.list_map htokens
  cases a; cases b
  rw [Analysis.mk.injEq]
  exact ⟨htokens, hidentifiers, hconstants, hlabels⟩

/-! ## Diagnostics -/

/-- Faults of one name with the same detail are the same. -/
theorem Fault.eq_of_detail_eq {fault other : Fault} (hname : fault.name = other.name)
    (hdetail : fault.detail = other.detail) : fault = other := by
  cases fault <;> cases other <;> simp_all [name, detail, ← String.toList_inj]

/-- The detail alone does not tell the sort of a fault. -/
example : Fault.detail (.labelRedeclared "L") = Fault.detail (.labelNeverDeclared "L") := rfl

theorem reportedLine_inj {d e : Diagnostic} : d.reportedLine = e.reportedLine ↔ d.line = e.line := by
  rcases d with ⟨_, line | line⟩ <;> rcases e with ⟨_, line' | line'⟩ <;>
    simp [Diagnostic.reportedLine, ← UInt32.toNat_inj]

theorem Diagnostic.toJson_injective : Function.Injective Diagnostic.toJson := by
  intro d e h
  simp only [toJson, Json.obj.injEq, List.cons.injEq, Prod.mk.injEq, Json.str.injEq,
    Json.num.injEq, true_and, and_true] at h
  obtain ⟨hdetail, hname, hline, -⟩ := h
  have hfault := Fault.eq_of_detail_eq hname hdetail
  have hline := reportedLine_inj.1 hline
  cases d; cases e
  rw [Diagnostic.mk.injEq]
  exact ⟨hfault, hline⟩

/-! ## Outcomes -/

theorem Report.toJson_injective : Function.Injective Report.toJson := by
  intro result other h
  cases result with
  | ok a =>
    cases other with
    | ok b =>
      simp only [toJson, Json.obj.injEq, List.cons.injEq, Prod.mk.injEq, true_and, and_true] at h
      exact congrArg Except.ok (Analysis.toJson_injective h)
    | error ds => simp [toJson] at h
  | error ds =>
    cases other with
    | ok b => simp [toJson] at h
    | error es =>
      simp only [toJson, Json.obj.injEq, List.cons.injEq, Prod.mk.injEq, Json.arr.injEq, true_and,
        and_true] at h
      exact congrArg Except.error (Diagnostic.toJson_injective.list_map h)

/-- **Reports in JSON are faithful.** Whatever the program prints in JSON, for an analysis or for
diagnostics of any texts and lines, it prints for no other outcome. -/
theorem CommandLine.report_json_eq_iff {file other content content' : String}
    {result result' : Except (List Diagnostic) Analysis} :
    Options.report ⟨file, .json⟩ content result = Options.report ⟨other, .json⟩ content' result' ↔
      result = result' := by
  have hreport (file content : String) (result : Except (List Diagnostic) Analysis) :
      Options.report ⟨file, .json⟩ content result = (Report.toJson result).pretty ++ "\n" := rfl
  rw [hreport, hreport]
  constructor
  · intro h
    rw [← String.toList_inj, String.toList_append, String.toList_append] at h
    have htext := String.toList_inj.1 (List.append_cancel_right h)
    exact Report.toJson_injective (Json.pretty_inj.1 htext)
  · rintro rfl
    rfl

end Lexis
