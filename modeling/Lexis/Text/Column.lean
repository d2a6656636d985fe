/-!
# Columns

Texts set in columns of a least width, counted in characters. A text that is too wide for its
column keeps all its characters.

* `alignRight`, `alignLeft`: the blanks go before or after the text.
-/

namespace Lexis.Text

/-- The text at the right end of a column of `width` characters. -/
def alignRight (width : Nat) (s : String) : String :=
  String.ofList (s.toList.leftpad width ' ')

/-- The text at the left end of a column of `width` characters. -/
def alignLeft (width : Nat) (s : String) : String :=
  String.ofList (s.toList.rightpad width ' ')

theorem toList_alignRight (width : Nat) (s : String) :
    (alignRight width s).toList = List.replicate (width - s.length) ' ' ++ s.toList := by
  simp [alignRight, List.leftpad, String.length_toList]

theorem toList_alignLeft (width : Nat) (s : String) :
    (alignLeft width s).toList = s.toList ++ List.replicate (width - s.length) ' ' := by
  simp [alignLeft, List.rightpad, String.length_toList]

end Lexis.Text
