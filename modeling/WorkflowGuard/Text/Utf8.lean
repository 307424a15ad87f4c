/-!
# Texts as bytes

Documents arrive and are fingerprinted as bytes. Main statement: bytes decode to a text just if
they are its encoded form.
-/

namespace WorkflowGuard

/-- A sequence of octets. -/
abbrev Bytes := List UInt8

namespace Text

def utf8 (text : String) : Bytes :=
  text.toByteArray.data.toList

/-- The text that the bytes encode, unless they are not valid UTF-8. -/
def ofUtf8? (bytes : Bytes) : Option String :=
  String.fromUTF8? ⟨bytes.toArray⟩

/-- Encoded text is decoded to itself. -/
theorem ofUtf8?_utf8 (text : String) : ofUtf8? (utf8 text) = some text := by
  have valid : (⟨text.toByteArray.data.toList.toArray⟩ : ByteArray).IsValidUTF8 := by
    simpa using text.isValidUTF8
  rw [ofUtf8?, utf8, String.fromUTF8?, dif_pos valid]
  simp [String.fromUTF8]

theorem utf8_of_ofUtf8? {bytes : Bytes} {text : String} (decoded : ofUtf8? bytes = some text) :
    utf8 text = bytes := by
  rw [ofUtf8?, String.fromUTF8?] at decoded
  split at decoded
  · cases decoded
    simp [utf8, String.fromUTF8]
  · cases decoded

theorem ofUtf8?_eq_some_iff {bytes : Bytes} {text : String} :
    ofUtf8? bytes = some text ↔ utf8 text = bytes := by
  constructor
  · exact utf8_of_ofUtf8?
  · rintro rfl
    exact ofUtf8?_utf8 text

end Text

end WorkflowGuard
