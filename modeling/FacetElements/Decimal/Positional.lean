import FacetElements.Decimal.Shortest
import FacetElements.Scalar

/-!
# Positional decimals

The text of a scalar in a message: the shortest decimal that reads back, always
in positional notation, with a point only where digits follow it.
-/

namespace FacetElements

namespace Decimal

/-- The digits after the point of a fraction of `10 ^ places`, without zeros at
the end. -/
def fractionDigits (places n : Nat) : List Char :=
  let digits := (Nat.toDigits 10 n).leftpad places '0'
  (digits.reverse.dropWhile (· = '0')).reverse

def Scientific.positional (d : Scientific) : List Char :=
  let unit := Nat.pow 10 (-d.place).toNat
  let scaled := d.coefficient * Nat.pow 10 d.place.toNat
  let whole := Nat.toDigits 10 (scaled / unit)
  match fractionDigits (-d.place).toNat (scaled % unit) with
  | [] => whole
  | digits => whole ++ '.' :: digits

def binaryText (bits : Nat) : String :=
  let sign := if bits.testBit 63 then "-" else ""
  let magnitude := bits &&& 0x7fffffffffffffff
  let infinite := 0x7ff0000000000000
  if infinite < magnitude then "NaN"
  else if magnitude = infinite then sign ++ "inf"
  else if magnitude = 0 then sign ++ "0"
  else sign ++ String.ofList (shortest (Binary.ofBits magnitude)).positional

end Decimal

instance : ScalarText Float where
  text x := Decimal.binaryText x.toBits.toNat

end FacetElements
