/-!
Texts as bytes.

A character is one to four bytes in UTF-8. `text?` reads bytes back and refuses whatever is not
the bytes of a text.
-/

namespace ReportRouting.Text

/-- The bytes of a text. -/
def bytesOf (s : List Char) : List UInt8 :=
  s.flatMap String.utf8EncodeChar

def text? (bytes : List UInt8) : Option String :=
  String.fromUTF8? bytes.toByteArray

@[simp] theorem bytesOf_nil : bytesOf [] = [] := rfl

@[simp] theorem bytesOf_append (s t : List Char) : bytesOf (s ++ t) = bytesOf s ++ bytesOf t := by
  simp [bytesOf]

@[simp] theorem text?_bytesOf (s : List Char) : text? (bytesOf s) = some (String.ofList s) := by
  have h : (bytesOf s).toByteArray = s.utf8Encode := rfl
  have hv : (bytesOf s).toByteArray.IsValidUTF8 := h ▸ ByteArray.isValidUTF8_utf8Encode
  rw [text?, String.fromUTF8?, dif_pos hv, Option.some.injEq]
  apply String.toByteArray_inj.1
  simp [String.fromUTF8, h]

end ReportRouting.Text
