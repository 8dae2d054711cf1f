/-! Text as bytes in UTF-8. -/

namespace TapeMachine.Text

/-- The bytes of a text. -/
def encode (text : String) : List UInt8 :=
  text.toUTF8.toList

/-- The text that bytes encode; none if they are not well-formed. -/
def decode? (bytes : List UInt8) : Option String :=
  String.fromUTF8? bytes.toByteArray

theorem toList_loop (bytes : ByteArray) (index : Nat) (found : List UInt8)
    : ByteArray.toList.loop bytes index found
      = found.reverse ++ bytes.data.toList.drop index := by
  fun_induction ByteArray.toList.loop bytes index found with
  | case1 index found inside ih =>
      have here : index < bytes.data.toList.length := inside
      have first : bytes.get! index = bytes.data.toList[index] := by
        simp only [ByteArray.get!, Array.getElem_toList]
        exact getElem!_pos bytes.data index here
      rw [ih, List.drop_eq_getElem_cons here, first, List.reverse_cons, List.append_assoc,
        List.singleton_append]
  | case2 index found outside =>
      have behind : bytes.data.toList.length ≤ index := Nat.not_lt.mp outside
      rw [List.drop_eq_nil_of_le behind, List.append_nil]

theorem toList_eq (bytes : ByteArray) : bytes.toList = bytes.data.toList := by
  simp only [ByteArray.toList, toList_loop, List.reverse_nil, List.nil_append, List.drop_zero]

/-- The bytes of two texts in a row are the bytes of the one and those of the other. -/
theorem encode_append (first second : String)
    : encode (first ++ second) = encode first ++ encode second := by
  simp only [encode, toList_eq, String.toUTF8, String.toByteArray_append,
    ByteArray.toList_data_append]

end TapeMachine.Text
