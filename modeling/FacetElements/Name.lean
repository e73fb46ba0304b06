import FacetElements.MachineWord

/-!
# Element names

Elements are stored by name and rebuilt later, so the form of a name is fixed.
In version 1 of the grammar a name is a family, a dimension in angle brackets,
and in parentheses the degree, or nothing for the element without degrees of
freedom: `FaceLagrange<3>(2)`, `Nothing<2>()`.
-/

namespace FacetElements

/-- A name of an element: its family and the numbers that fix it. -/
inductive ElementName where
  | faceLagrange (dim degree : Nat)
  | nothing (dim : Nat)
  deriving DecidableEq, Repr

namespace ElementName

def grammarVersion : Nat := 1

/-- A number in decimal digits, without leading zeros. -/
def decimal (n : Nat) : List Char :=
  Nat.toDigits 10 n

def chars : ElementName → List Char
  | .faceLagrange dim degree =>
      "FaceLagrange".toList ++ '<' :: decimal dim ++ '>' :: '(' :: decimal degree ++ [')']
  | .nothing dim => "Nothing".toList ++ '<' :: decimal dim ++ ['>', '(', ')']

/-- The one text of a name. -/
def text (name : ElementName) : String :=
  String.ofList name.chars

@[simp] theorem toList_text (name : ElementName) : name.text.toList = name.chars := by
  simp [text]

end ElementName

end FacetElements
