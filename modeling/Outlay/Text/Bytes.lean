/-!
Bytes and the UTF-8 texts that they spell.
-/

namespace Outlay

abbrev Bytes := List UInt8

namespace Bytes

def ofText (s : String) : Bytes := s.toUTF8.data.toList

def text? (b : Bytes) : Option String := String.fromUTF8? (ByteArray.mk b.toArray)

@[simp] theorem text?_ofText (s : String) : (ofText s).text? = some s := by
  simp only [ofText, text?, String.fromUTF8?, Array.toArray_toList]
  exact dif_pos s.isValidUTF8

end Bytes

end Outlay
