/-
ContentDelivery.Text.Utf8 — texts and their bytes.
-/
namespace ContentDelivery

/-- The bytes of a text. -/
def utf8 (s : String) : List UInt8 := s.toList.flatMap String.utf8EncodeChar

/-- The text that some bytes spell, if they spell one. -/
def text? (bytes : List UInt8) : Option String := String.fromUTF8? bytes.toByteArray

theorem toByteArray_utf8 (s : String) : (utf8 s).toByteArray = s.toByteArray :=
  String.utf8Encode_toList

theorem utf8_inj {s t : String} : utf8 s = utf8 t ↔ s = t := by
  refine ⟨fun same => ?_, congrArg utf8⟩
  have encoded := congrArg List.toByteArray same
  rw [toByteArray_utf8, toByteArray_utf8] at encoded
  exact String.toByteArray_inj.mp encoded

theorem text?_utf8 (s : String) : text? (utf8 s) = some s := by
  unfold text? String.fromUTF8?
  rw [toByteArray_utf8, dif_pos s.isValidUTF8]
  rfl

/-- Bytes are read as the text whose bytes they are. -/
theorem text?_eq_some {bytes : List UInt8} {s : String} : text? bytes = some s ↔ utf8 s = bytes := by
  constructor
  · intro read
    unfold text? String.fromUTF8? at read
    split at read
    · next valid =>
      have encoded : s.toByteArray = bytes.toByteArray :=
        (congrArg String.toByteArray (Option.some.inj read)).symm
      rw [← toByteArray_utf8] at encoded
      have lists := congrArg (·.data.toList) encoded
      simpa using lists
    · cases read
  · rintro rfl
    exact text?_utf8 s

end ContentDelivery
