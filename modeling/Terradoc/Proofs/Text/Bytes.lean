import Mathlib.Data.List.Basic
import Mathlib.Tactic.SplitIfs
import Terradoc.Text.Utf8

namespace Terradoc.Text

private theorem loop_eq (bytes : ByteArray) (place : Nat) (before : List UInt8) :
    ByteArray.toList.loop bytes place before = before.reverse ++ bytes.data.toList.drop place := by
  fun_induction ByteArray.toList.loop bytes place before with
  | case1 place before inside ih =>
    have size : place < bytes.data.toList.length := inside
    have byte : bytes.get! place = bytes.data.toList[place] := getElem!_pos bytes.data place inside
    rw [ih, List.reverse_cons, List.append_assoc, List.singleton_append, byte,
      List.drop_eq_getElem_cons size]
  | case2 place before outside =>
    have size : bytes.data.toList.length ≤ place := Nat.not_lt.mp outside
    rw [List.drop_eq_nil_of_le size, List.append_nil]

/-- The bytes of a text are those of its characters. -/
theorem toBytes_eq (text : String) : toBytes text = text.toList.flatMap String.utf8EncodeChar := by
  rw [toBytes, ByteArray.toList, loop_eq, List.reverse_nil, List.nil_append, List.drop_zero,
    String.toUTF8_eq_toByteArray, ← String.utf8Encode_toList, List.utf8Encode, List.toList_data_toByteArray]

/-- A lower character has lower bytes, whatever comes after. -/
theorem utf8EncodeChar_lt {first second : Char} (lower : first < second) (rest others : List UInt8) :
    String.utf8EncodeChar first ++ rest < String.utf8EncodeChar second ++ others := by
  have order : first.val.toNat < second.val.toNat := lower
  have bounded : second.val.toNat < 0x110000 := second.valid.elim (by omega) (by omega)
  rw [String.utf8EncodeChar, String.utf8EncodeChar]
  generalize first.val.toNat = low at order
  generalize second.val.toNat = high at order bounded
  -- Each byte holds six bits more of the number, so the first that differs decides.
  have digits (code : Nat) : code / 4096 = code / 64 / 64 ∧ code / 262144 = code / 64 / 64 / 64 := by
    simp only [Nat.div_div_eq_div_mul, and_self]
  have byte_lt {left right : Nat} (first : left < 256) (second : right < 256) :
      UInt8.ofNat left < UInt8.ofNat right ↔ left < right := UInt8.ofNat_lt_iff_lt first second
  have byte_eq {left right : Nat} (first : left < 256) (second : right < 256) :
      UInt8.ofNat left = UInt8.ofNat right ↔ left = right := by
    rw [← UInt8.toNat_inj, UInt8.toNat_ofNat_of_lt' first, UInt8.toNat_ofNat_of_lt' second]
  split_ifs <;>
    simp (disch := omega) only [List.cons_append, List.nil_append, List.cons_lt_cons_iff, byte_lt, byte_eq,
      digits] <;>
    omega

theorem flatMap_utf8EncodeChar_lt {left right : List Char} (lower : left < right) :
    left.flatMap String.utf8EncodeChar < right.flatMap String.utf8EncodeChar := by
  induction lower with
  | @nil char rest =>
    rw [List.flatMap_nil, List.flatMap_cons]
    cases bytes : String.utf8EncodeChar char with
    | nil =>
      exact absurd bytes (List.length_pos_iff.mp (String.length_utf8EncodeChar char ▸ char.utf8Size_pos))
    | cons byte more => exact .nil
  | rel lower =>
    rw [List.flatMap_cons, List.flatMap_cons]
    exact utf8EncodeChar_lt lower _ _
  | cons _ ih =>
    rw [List.flatMap_cons, List.flatMap_cons]
    exact List.append_left_lt ih

theorem toBytes_lt {left right : String} (lower : left < right) : toBytes left < toBytes right := by
  rw [toBytes_eq, toBytes_eq]
  exact flatMap_utf8EncodeChar_lt (String.lt_iff.mp lower)

/-- The order of texts by characters is their order by bytes. -/
theorem toBytes_lt_iff {left right : String} : toBytes left < toBytes right ↔ left < right := by
  refine ⟨fun lower => String.not_le.mp fun above => ?_, toBytes_lt⟩
  by_cases below : right < left
  · exact List.lt_asymm lower (toBytes_lt below)
  · obtain rfl := String.le_antisymm above (String.not_lt.mp below)
    exact List.lt_irrefl _ lower

end Terradoc.Text
