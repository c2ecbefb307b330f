/-!
# Hexadecimal numerals

Lower-case hexadecimal text of a fixed least width.
-/

namespace LoxScan

/-- A number in lower-case hexadecimal with at least `width` digits. -/
def hexadecimal (width n : Nat) : List Char :=
  let digits := Nat.toDigits 16 n
  List.replicate (width - digits.length) '0' ++ digits

end LoxScan
