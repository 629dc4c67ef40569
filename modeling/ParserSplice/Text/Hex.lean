set_option autoImplicit false

namespace ParserSplice.Hex

/-- The value of a hexadecimal digit of either case. -/
def digit? (c : Char) : Option Nat :=
  if '0' ≤ c ∧ c ≤ '9' then some (c.toNat - '0'.toNat)
  else if 'a' ≤ c ∧ c ≤ 'f' then some (c.toNat - 'a'.toNat + 10)
  else if 'A' ≤ c ∧ c ≤ 'F' then some (c.toNat - 'A'.toNat + 10)
  else none

/-- Whether a character is a hexadecimal digit. -/
def isDigit (c : Char) : Bool := (digit? c).isSome

/-- The number that hexadecimal digits denote; any other character counts as zero. -/
def value (digits : List Char) : Nat :=
  digits.foldl (fun total c => total * 16 + (digit? c).getD 0) 0

/-- The lower-case digit of a value below 16. -/
def digit (n : Nat) : Char := Nat.digitChar (n % 16)

/-- The two lower-case digits of a byte. -/
def ofByte (b : UInt8) : List Char := [digit (b.toNat / 16), digit b.toNat]

/-- Bytes as pairs of lower-case digits. -/
def ofBytes (bytes : List UInt8) : String := String.ofList (bytes.flatMap ofByte)

/-- The bytes that pairs of digits denote, unless a digit is bad or one is left over. -/
def toBytes? : List Char → Option (List UInt8)
  | [] => some []
  | high :: low :: rest => do
    let h ← digit? high
    let l ← digit? low
    let bytes ← toBytes? rest
    return UInt8.ofNat (h * 16 + l) :: bytes
  | [_] => none

end ParserSplice.Hex
