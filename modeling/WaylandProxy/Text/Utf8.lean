/-
# Text.Utf8 -- characters as bytes

Text travels as UTF-8.  `decode?` accepts exactly the byte strings that some
text encodes to: no overlong form, no surrogate, nothing cut short.  `encode` is
its inverse.
-/

namespace WaylandProxy.Text.Utf8

set_option autoImplicit false

def encode (s : String) : List UInt8 :=
  s.toUTF8.data.toList

/-- The text whose UTF-8 bytes these are, if there is one. -/
def decode? (bytes : List UInt8) : Option String :=
  String.fromUTF8? ⟨bytes.toArray⟩

end WaylandProxy.Text.Utf8
