import FacetElements.Error
import FacetElements.Name

/-!
# Reading element names

Only the text that writing a name produces is read: no blanks, no signs and no
leading zeros.  Every other text is refused unchanged.
-/

namespace FacetElements

namespace ElementName

/-- What stands before the first `c`, and what stands after it. -/
def splitAtFirst (c : Char) : List Char → Option (List Char × List Char)
  | [] => none
  | x :: rest =>
      if x = c then some ([], rest)
      else (splitAtFirst c rest).map fun parts => (x :: parts.1, parts.2)

/-- What stands between a parenthesis that opens the text and one that closes
it. -/
def insideParentheses : List Char → Option (List Char)
  | '(' :: rest => if rest.getLast? = some ')' then some rest.dropLast else none
  | _ => none

/-- Digits only, at least one of them, and no zero in front of another digit. -/
def IsCanonicalInteger (digits : List Char) : Prop :=
  digits ≠ [] ∧ (digits = ['0'] ∨ digits.head? ≠ some '0') ∧
    ∀ c ∈ digits, c.isDigit = true

-- The characters are looked at one by one.  Which instance of a bounded
-- quantifier is found would depend on the imports.
instance (digits : List Char) : Decidable (IsCanonicalInteger digits) :=
  have : Decidable (∀ c ∈ digits, c.isDigit = true) := List.decidableBAll _ digits
  inferInstanceAs (Decidable (_ ∧ _))

def readInteger (digits : List Char) : Option Nat :=
  if IsCanonicalInteger digits then
    let n := Nat.ofDigitChars 10 digits 0
    if n < wordBound then some n else none
  else none

def ofChars? (cs : List Char) : Option ElementName := do
  let (family, rest) ← splitAtFirst '<' cs
  let (dimDigits, rest) ← splitAtFirst '>' rest
  let args ← insideParentheses rest
  let dim ← readInteger dimDigits
  if family = "FaceLagrange".toList then
    let degree ← readInteger args
    return .faceLagrange dim degree
  else if family = "Nothing".toList ∧ args = [] then
    return .nothing dim
  else
    none

/-- Reads a name.  A text outside the grammar comes back in the refusal. -/
def parse (s : String) : Except Error ElementName :=
  match ofChars? s.toList with
  | some name => .ok name
  | none => .error (.invalidName s)

end ElementName

end FacetElements
