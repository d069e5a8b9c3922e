namespace Terradoc.Text.Base64

/-- Symbols of the alphabet in order. -/
def alphabet : List Char :=
  "ABCDEFGHIJKLMNOPQRSTUVWXYZabcdefghijklmnopqrstuvwxyz0123456789+/".toList

def symbol (value : Nat) : Char := alphabet.getD value '='

def value? (byte : UInt8) : Option Nat := alphabet.idxOf? (Char.ofNat byte.toNat)

/-- Symbols of bytes, three bytes to four symbols; the end is filled with padding. -/
def encodeChars : List UInt8 → List Char
  | a :: b :: c :: rest =>
    let bits := a.toNat * 65536 + b.toNat * 256 + c.toNat
    symbol (bits / 262144) :: symbol (bits / 4096 % 64) :: symbol (bits / 64 % 64) ::
      symbol (bits % 64) :: encodeChars rest
  | [a, b] =>
    let bits := a.toNat * 1024 + b.toNat * 4
    [symbol (bits / 4096), symbol (bits / 64 % 64), symbol (bits % 64), '=']
  | [a] =>
    let bits := a.toNat * 16
    [symbol (bits / 64), symbol (bits % 64), '=', '=']
  | [] => []

def encode (bytes : List UInt8) : String := String.ofList (encodeChars bytes)

/-- Why a text is no encoding. -/
inductive Fault where
  | symbol (byte offset : Nat)
  | length (size : Nat)
  | lastSymbol (byte offset : Nat)
  | padding
deriving DecidableEq, Repr

def Fault.message : Fault → String
  | symbol byte offset => "Invalid symbol " ++ toString byte ++ ", offset " ++ toString offset ++ "."
  | length size => "Invalid input length: " ++ toString size
  | lastSymbol byte offset =>
    "Invalid last symbol " ++ toString byte ++ ", offset " ++ toString offset ++ "."
  | padding => "Invalid padding"

def padCode : UInt8 := 61

/-- Six bits of the symbol at an offset. -/
def valueAt (offset : Nat) (byte : UInt8) : Except Fault Nat :=
  match value? byte with
  | some value => .ok value
  | none => .error (.symbol byte.toNat offset)

def threeBytes (bits : Nat) : List UInt8 :=
  [UInt8.ofNat (bits / 65536), UInt8.ofNat (bits / 256 % 256), UInt8.ofNat (bits % 256)]

/-- What the last symbols hold: their values and last byte, and where padding begins and its
length. -/
structure Tail where
  values : List Nat
  last : UInt8
  padStart : Nat
  pads : Nat

/-- Reads the last symbols. Padding stands after two or three of them, and nothing follows it. -/
def readTail (start : Nat) : Nat → Tail → List UInt8 → Except Fault Tail
  | _, tail, [] => .ok tail
  | place, tail, byte :: rest =>
    if byte == padCode then
      if place < 2 then .error (.symbol byte.toNat (start + place))
      else readTail start (place + 1)
        ⟨tail.values, tail.last, if tail.pads = 0 then place else tail.padStart, tail.pads + 1⟩ rest
    else if 0 < tail.pads then .error (.symbol padCode.toNat (start + tail.padStart))
    else do
      let value ← valueAt (start + place) byte
      readTail start (place + 1) ⟨tail.values ++ [value], byte, tail.padStart, tail.pads⟩ rest

/-- Bytes of the last symbols. Bits that no byte takes have to be zero. -/
def decodeTail (start : Nat) (input : List UInt8) : Except Fault (List UInt8) := do
  let tail ← readTail start 0 ⟨[], 0, 0, 0⟩ input
  let symbols := tail.values.length
  if (start != 0 || !input.isEmpty) && symbols < 2 then .error (.length (start + symbols))
  else if (tail.pads + symbols) % 4 != 0 then .error .padding
  else
    let bits := tail.values.foldl (fun bits value => bits * 64 + value) 0 * Nat.pow 64 (4 - symbols)
    let size := symbols * 6 / 8
    if bits % Nat.pow 256 (3 - size) != 0 then
      .error (.lastSymbol tail.last.toNat (start + symbols - 1))
    else .ok ((threeBytes bits).take size)

/-- Decodes whole groups of four symbols; the last group may be cut short or padded. -/
def decodeGroups (start : Nat) : List UInt8 → Except Fault (List UInt8)
  | a :: b :: c :: d :: next :: rest => do
    let a ← valueAt start a
    let b ← valueAt (start + 1) b
    let c ← valueAt (start + 2) c
    let d ← valueAt (start + 3) d
    let more ← decodeGroups (start + 4) (next :: rest)
    .ok (threeBytes (((a * 64 + b) * 64 + c) * 64 + d) ++ more)
  | input => decodeTail start input

/-- Decodes bytes of a text. A lone last symbol that is none is reported before all else. -/
def decode (input : List UInt8) : Except Fault (List UInt8) :=
  match input.getLast? with
  | some last =>
    if input.length % 4 = 1 && last != padCode && (value? last).isNone then
      .error (.symbol last.toNat (input.length - 1))
    else decodeGroups 0 input
  | none => .ok []

end Terradoc.Text.Base64
