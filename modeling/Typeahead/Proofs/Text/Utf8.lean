import Typeahead.Text.Utf8

/-!
# Text as bytes and back

The bytes of a text, read as UTF-8, are the characters of the text and nothing else, whether broken
characters would be kept (`Symbol.read_toUTF8`) or replaced (`Utf8.lossy_toUTF8`).
-/

namespace Typeahead.Text

/-! ### One character after the bytes before it -/

theorem utf8DecodeChar?_append_utf8Encode (b : ByteArray) (c : Char) (s : List Char) :
    (b ++ (c :: s).utf8Encode).utf8DecodeChar? b.size = some c := by
  rw [ByteArray.utf8DecodeChar?_eq_utf8DecodeChar?_extract, ByteArray.size_append,
    ByteArray.extract_append_eq_right rfl rfl]
  exact List.utf8DecodeChar?_utf8Encode_cons

theorem size_utf8Encode_singleton (c : Char) : [c].utf8Encode.size = c.utf8Size := by
  rw [List.utf8Encode_singleton, List.size_toByteArray, String.length_utf8EncodeChar]

theorem size_lt_size_append_utf8Encode (b : ByteArray) (c : Char) (s : List Char) :
    b.size < (b ++ (c :: s).utf8Encode).size := by
  rw [ByteArray.size_append, List.utf8Encode_cons, ByteArray.size_append, size_utf8Encode_singleton]
  have := c.utf8Size_pos
  omega

/-- The first character can be counted among the bytes before the others. -/
theorem append_utf8Encode_cons (b : ByteArray) (c : Char) (s : List Char) :
    b ++ (c :: s).utf8Encode = (b ++ [c].utf8Encode) ++ s.utf8Encode := by
  rw [List.utf8Encode_cons, ByteArray.append_assoc]

/-! ### All characters -/

namespace Symbol

/-- The induction is on what is still to be read; `b` holds the bytes before it. -/
theorem readFrom_append (b : ByteArray) (s : List Char) :
    readFrom (b ++ s.utf8Encode) b.size = s.map char := by
  induction s generalizing b with
  | nil => rw [readFrom]; simp
  | cons c s ih =>
    have hnext := ih (b ++ [c].utf8Encode)
    rw [ByteArray.size_append, size_utf8Encode_singleton, ← append_utf8Encode_cons] at hnext
    rw [readFrom, dif_pos (size_lt_size_append_utf8Encode b c s), utf8DecodeChar?_append_utf8Encode]
    simp [hnext]

theorem read_toUTF8 (s : String) : read s.toUTF8 = ofString s := by
  have h := readFrom_append ByteArray.empty s.toList
  rw [ByteArray.empty_append, String.utf8Encode_toList] at h
  exact h

end Symbol

namespace Utf8

/-- As `Symbol.readFrom_append`. -/
theorem lossyFrom_append (b : ByteArray) (s : List Char) :
    lossyFrom (b ++ s.utf8Encode) b.size = s := by
  induction s generalizing b with
  | nil => rw [lossyFrom]; simp
  | cons c s ih =>
    have hnext := ih (b ++ [c].utf8Encode)
    rw [ByteArray.size_append, size_utf8Encode_singleton, ← append_utf8Encode_cons] at hnext
    rw [lossyFrom, if_pos (size_lt_size_append_utf8Encode b c s), utf8DecodeChar?_append_utf8Encode]
    simp [hnext]

theorem lossy_toUTF8 (s : String) : lossy s.toUTF8 = s := by
  have h := lossyFrom_append ByteArray.empty s.toList
  rw [ByteArray.empty_append, String.utf8Encode_toList] at h
  calc lossy s.toUTF8 = String.ofList s.toList := congrArg String.ofList h
    _ = s := String.ofList_toList

end Utf8

/-- Bytes without a broken character are the same symbols, read as they are or made into a text
first. -/
theorem Symbol.ofString_lossy {b : ByteArray} (h : b.IsValidUTF8) :
    ofString (Utf8.lossy b) = read b := by
  have hb : b = (String.ofByteArray b h).toUTF8 := rfl
  rw [hb, Utf8.lossy_toUTF8, read_toUTF8]

end Typeahead.Text
