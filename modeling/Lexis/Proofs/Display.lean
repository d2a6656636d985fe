import Lexis.Proofs.JsonReport
import Lexis.Proofs.Places
import Lexis.Proofs.Quoted

/-!
# Reading diagnostics

No two diagnostics read the same, whatever their texts hold. The quotes show where a text ends, the
words around it which sort of fault it is, and the colon where the number of the line ends.

* `Fault.opening`, `Fault.closing`: the words that a message begins and ends with, with
  `Fault.messageWith_of_topic`: between them stands the name at fault;
* `Fault.opening_eq_of_messageWith_eq`: the first letter tells the words that a message begins with;
* **`Fault.messageWith_injective`**: the message tells the fault;
* **`Diagnostic.displayWith_inj`**: the text of a diagnostic tells the diagnostic.
-/

namespace Lexis

open Text

namespace Fault

/-- The words that the message begins with. -/
def opening : Fault → String
  | unknownSymbol _ => "unknown symbol: "
  | expectedSymbol _ _ => "expected "
  | variableRedeclared _ | variableUndeclared _ => "variable "
  | labelReferencedAgain _ | labelRedeclared _ | labelNeverDeclared _ => "label "

/-- The words that the message ends with, behind the name at fault. -/
def closing : Fault → String
  | unknownSymbol _ | expectedSymbol _ _ => ""
  | variableRedeclared _ | labelRedeclared _ => " already declared"
  | variableUndeclared _ => " used without declaration"
  | labelReferencedAgain _ => " referenced more than once"
  | labelNeverDeclared _ => " never declared"

variable {shown : Char → Bool} {fault other : Fault}

theorem messageWith_of_topic (h : fault.topic ≠ .character) :
    fault.messageWith shown = fault.opening ++ quoteString shown fault.subject ++ fault.closing := by
  cases fault with
  | unknownSymbol | expectedSymbol => exact absurd rfl h
  | _ => rfl

theorem head?_messageWith :
    (fault.messageWith shown).toList.head? = fault.opening.toList.head? := by
  cases fault <;> simp [messageWith, opening]

/-- The first letter of a message tells the words that it begins with. -/
theorem opening_eq_of_messageWith_eq (h : fault.messageWith shown = other.messageWith shown) :
    fault.opening = other.opening := by
  have hhead : fault.opening.toList.head? = other.opening.toList.head? := by
    rw [← head?_messageWith, ← head?_messageWith, h]
  cases fault <;> cases other <;> simp_all [opening]

/-- Faults of names with the same words around the same name are the same. -/
theorem eq_of_words (hfault : fault.topic ≠ .character) (hother : other.topic ≠ .character)
    (hopening : fault.opening = other.opening) (hclosing : fault.closing = other.closing)
    (hsubject : fault.subject = other.subject) : fault = other := by
  cases fault <;> cases other <;> simp_all [topic, opening, closing, subject]

theorem topic_of_opening_eq (h : fault.opening = other.opening) :
    fault.topic = .character ↔ other.topic = .character := by
  cases fault <;> cases other <;> simp_all [topic, opening]

/-- **The message tells the fault.** -/
theorem messageWith_injective (shown : Char → Bool) :
    Function.Injective (Fault.messageWith shown) := by
  intro fault other h
  have hopening := opening_eq_of_messageWith_eq h
  have htext := congrArg String.toList h
  by_cases htopic : fault.topic = .character
  · cases fault with
    | unknownSymbol c =>
      cases other with
      | unknownSymbol d =>
        simp only [messageWith, String.toList_append, List.append_cancel_left_eq,
          String.toList_inj] at htext
        rw [(quoteChar_inj shown).1 htext]
      | _ => simp [opening] at hopening
    | expectedSymbol found expected =>
      cases other with
      | expectedSymbol found' expected' =>
        simp only [messageWith, String.toList_append, List.append_assoc,
          List.append_cancel_left_eq] at htext
        obtain ⟨rfl, htail⟩ := separable_quoteString shown expected _ _ _ trivial trivial htext
        rw [List.append_cancel_left_eq] at htail
        obtain rfl := (separable_quoteString shown found).eq_of_text_eq trivial htail
        rfl
      | _ => simp [opening] at hopening
    | _ => cases htopic
  · have hother : other.topic ≠ .character := fun hc => htopic ((topic_of_opening_eq hopening).2 hc)
    rw [messageWith_of_topic htopic, messageWith_of_topic hother, hopening] at htext
    simp only [String.toList_append, List.append_assoc, List.append_cancel_left_eq] at htext
    obtain ⟨hsubject, hclosing⟩ := separable_quoteString shown _ _ _ _ trivial trivial htext
    exact eq_of_words htopic hother hopening (String.toList_inj.1 hclosing) hsubject

end Fault

/-- **No two diagnostics read the same**, whichever characters are shown as they are: the printable
ones, as in `Diagnostic.display`, or any others. -/
theorem Diagnostic.displayWith_inj {shown : Char → Bool} {d e : Diagnostic} :
    d.displayWith shown = e.displayWith shown ↔ d = e := by
  refine ⟨fun h => ?_, congrArg (displayWith shown)⟩
  have htext := congrArg String.toList h
  simp only [displayWith, String.toList_append, List.append_assoc,
    List.append_cancel_left_eq] at htext
  have hcolon (rest : List Char) : Ends Char.isDigit (": ".toList ++ rest) :=
    Json.ends_isDigit_cons rfl _
  obtain ⟨hline, hmessage⟩ :=
    Json.separable_toString d.reportedLine e.reportedLine _ _ (hcolon _) (hcolon _) htext
  rw [List.append_cancel_left_eq, String.toList_inj] at hmessage
  have hfault := Fault.messageWith_injective shown hmessage
  have hline := reportedLine_inj.1 hline
  cases d; cases e
  rw [Diagnostic.mk.injEq]
  exact ⟨hfault, hline⟩

end Lexis
