import Terradoc.Text.Utf8

namespace Terradoc.Text

/-- Signs that stand for themselves beside letters and digits. -/
def plainSigns : List Char := ['*', '-', '.', '_']

/-- A byte in a query: itself, or a percent sign with two upper-case hexadecimal digits. -/
def percentByte (byte : UInt8) : List Char :=
  let char := Char.ofNat byte.toNat
  if char.isAlphanum || plainSigns.contains char then [char]
  else
    let digits := (Nat.toDigits 16 byte.toNat).map Char.toUpper
    '%' :: List.replicate (2 - digits.length) '0' ++ digits

def percentEncode (text : String) : String :=
  String.ofList ((toBytes text).flatMap percentByte)

end Terradoc.Text
