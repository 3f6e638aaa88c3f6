import Allotment.Text.Blank

/-!
# Texts and their bytes

A byte string is one text at most (`fromUTF8?_eq_some_iff`). A text has at least as many bytes as characters
(`length_le_size_toUTF8`), of which trimming leaves no more than there were (`length_trimChars_le`).
-/

namespace Allotment.Text

/-- A byte string is the text whose bytes it is, and no other one. -/
theorem fromUTF8?_eq_some_iff {bytes : ByteArray} {text : String} :
    String.fromUTF8? bytes = some text ↔ bytes = text.toUTF8 := by
  constructor
  · intro decoded
    unfold String.fromUTF8? at decoded
    split at decoded
    case isTrue =>
      obtain rfl := Option.some.inj decoded
      rfl
    case isFalse => cases decoded
  · rintro rfl
    exact dif_pos text.isValidUTF8

/-- A text has at least as many bytes as characters. -/
theorem length_le_size_toUTF8 (text : String) : text.toList.length ≤ text.toUTF8.size := by
  have encoded (cs : List Char) : cs.length ≤ cs.utf8Encode.size := by
    induction cs with
    | nil => simp
    | cons c cs ih =>
      have one : 0 < (String.utf8EncodeChar c).length := by
        rw [String.length_utf8EncodeChar]
        exact c.utf8Size_pos
      rw [List.utf8Encode_cons, ByteArray.size_append, List.utf8Encode_singleton, List.size_toByteArray,
        List.length_cons]
      omega
  have := encoded text.toList
  rwa [String.utf8Encode_toList] at this

/-- Trimming adds no characters. -/
theorem length_trimChars_le (cs : List Char) : (trimChars cs).length ≤ cs.length :=
  Nat.le_trans (trimEndChars_isPrefix _).length_le (List.dropWhile_suffix isBlank).length_le

end Allotment.Text
