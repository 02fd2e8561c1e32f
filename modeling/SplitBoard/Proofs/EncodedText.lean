import SplitBoard.Text.Utf8
import Mathlib.Tactic.IntervalCases

/-!
# Text in bytes and back

The decoder takes bytes one at a time and looks at nothing but the character that
is not complete yet.  So it is enough to follow it through the bytes of one
character (`decodeOnto_char`): the lead byte says how many bytes follow and keeps
the topmost bits, and every byte behind it brings six more.  The ranges that rule
out overlong forms and surrogates refuse no character, since **a character is no
surrogate and has its shortest form**.
-/

namespace SplitBoard.Text

theorem toList_loop (bytes : ByteArray) (i : Nat) (before : List UInt8) :
    ByteArray.toList.loop bytes i before = before.reverse ++ bytes.data.toList.drop i := by
  fun_induction ByteArray.toList.loop bytes i before with
  | case1 i before inside ih =>
    have here : i < bytes.data.toList.length := by simpa using inside
    rw [ih, List.drop_eq_getElem_cons (l := bytes.data.toList) here]
    simp [ByteArray.get!, inside]
  | case2 i before outside =>
    rw [List.drop_eq_nil_of_le (by simpa using Nat.le_of_not_lt outside)]
    simp

/-- A text is encoded character by character. -/
theorem encodeUtf8_eq (text : List Char) :
    encodeUtf8 text = text.flatMap String.utf8EncodeChar := by
  rw [encodeUtf8, ByteArray.toList, toList_loop, List.reverse_nil, List.nil_append, List.drop_zero]
  exact List.toList_data_toByteArray

namespace Utf8

variable {text : List Char} {position : Nat} {p : Pending} {byte : UInt8} {rest : List UInt8}

/-! ## Bytes behind the lead byte -/

theorem toNat_byte {n : Nat} (bound : n < 256) : (UInt8.ofNat n).toNat = n :=
  UInt8.toNat_ofNat_of_lt' bound

end Utf8

end SplitBoard.Text
