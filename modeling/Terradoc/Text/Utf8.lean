namespace Terradoc.Text

/-- Why bytes are no text: the sequence at a place is wrong, or cut off by the end. -/
inductive Utf8Fault where
  | invalid (length place : Nat)
  | incomplete (place : Nat)
deriving DecidableEq, Repr

def Utf8Fault.message : Utf8Fault → String
  | invalid length place =>
    "invalid utf-8 sequence of " ++ toString length ++ " bytes from index " ++ toString place
  | incomplete place => "incomplete utf-8 byte sequence from index " ++ toString place

def toBytes (text : String) : List UInt8 := text.toUTF8.toList

def secondByteRange (first : Nat) : Nat × Nat :=
  if first = 0xE0 then (0xA0, 0xBF)
  else if first = 0xED then (0x80, 0x9F)
  else if first = 0xF0 then (0x90, 0xBF)
  else if first = 0xF4 then (0x80, 0x8F)
  else (0x80, 0xBF)

/-- How many bytes a sequence has, given its first. -/
def sequenceLength (first : Nat) : Nat :=
  if first < 0x80 then 1
  else if 0xC2 ≤ first && first ≤ 0xDF then 2
  else if 0xE0 ≤ first && first ≤ 0xEF then 3
  else if 0xF0 ≤ first && first ≤ 0xF4 then 4
  else 0

def isContinuation (byte : Nat) : Bool := 0x80 ≤ byte && byte ≤ 0xBF

/-- The characters that bytes stand for, from a place on. -/
def decodeFrom (place : Nat) : List UInt8 → Except Utf8Fault (List Char)
  | [] => .ok []
  | first :: rest =>
    let a := first.toNat
    let length := sequenceLength a
    let (low, high) := secondByteRange a
    if length = 1 then (decodeFrom (place + 1) rest).map (Char.ofNat a :: ·)
    else if length = 0 then .error (.invalid 1 place)
    else match rest with
      | [] => .error (.incomplete place)
      | second :: rest =>
        let b := second.toNat
        if b < low || high < b then .error (.invalid 1 place)
        else if length = 2 then
          (decodeFrom (place + 2) rest).map (Char.ofNat ((a - 0xC0) * 64 + (b - 0x80)) :: ·)
        else match rest with
          | [] => .error (.incomplete place)
          | third :: rest =>
            let c := third.toNat
            if !isContinuation c then .error (.invalid 2 place)
            else if length = 3 then
              (decodeFrom (place + 3) rest).map
                (Char.ofNat (((a - 0xE0) * 64 + (b - 0x80)) * 64 + (c - 0x80)) :: ·)
            else match rest with
              | [] => .error (.incomplete place)
              | fourth :: rest =>
                let d := fourth.toNat
                if !isContinuation d then .error (.invalid 3 place)
                else
                  (decodeFrom (place + 4) rest).map
                    (Char.ofNat
                      ((((a - 0xF0) * 64 + (b - 0x80)) * 64 + (c - 0x80)) * 64 + (d - 0x80)) :: ·)

/-- The text that bytes stand for. -/
def decode (bytes : List UInt8) : Except Utf8Fault String :=
  (decodeFrom 0 bytes).map String.ofList

end Terradoc.Text
