namespace Terradoc.Digest

/-- The bytes of a number, most significant first. -/
def bigEndian (size value : Nat) : List UInt8 :=
  (List.range size).map fun place => UInt8.ofNat (value / Nat.pow 256 (size - 1 - place) % 256)

def littleEndian (size value : Nat) : List UInt8 := (bigEndian size value).reverse

/-- The number that bytes write, most significant first. -/
def ofBigEndian (bytes : List UInt8) : Nat :=
  bytes.foldl (fun value byte => value * 256 + byte.toNat) 0

/-- A message with a one bit, zeros and the bytes of its length, up to a multiple of a block. -/
def padded (block : Nat) (lengthBytes : List UInt8) (message : List UInt8) : List UInt8 :=
  let used := message.length + 1 + lengthBytes.length
  message ++ 0x80 :: List.replicate ((block - used % block) % block) 0 ++ lengthBytes

/-- Cuts a list into pieces of a size; the budget bounds their number. -/
def pieces {α : Type} (size : Nat) : Nat → List α → List (List α)
  | 0, _ => []
  | _, [] => []
  | budget + 1, items => items.take size :: pieces size budget (items.drop size)

def blocks (size : Nat) (message : List UInt8) : List (List UInt8) :=
  pieces size message.length message

/-- A byte as two lower-case hexadecimal digits. -/
def hexByte (byte : UInt8) : List Char :=
  let digits := Nat.toDigits 16 byte.toNat
  List.replicate (2 - digits.length) '0' ++ digits

/-- Bytes as lower-case hexadecimal digits. -/
def hex (bytes : List UInt8) : String := String.ofList (bytes.flatMap hexByte)

end Terradoc.Digest
