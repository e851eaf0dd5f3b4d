/-!
# Blank text

Unicode's property White_Space, and texts that consist of such characters only.
-/

namespace ApiMocks.Text

/-- The characters with the property White_Space, as ranges. -/
def whiteSpace : List (Nat × Nat) := [
  (0x9, 0xD), (0x20, 0x20), (0x85, 0x85), (0xA0, 0xA0), (0x1680, 0x1680), (0x2000, 0x200A),
  (0x2028, 0x2029), (0x202F, 0x202F), (0x205F, 0x205F), (0x3000, 0x3000)]

/-- Whether a character is white space. -/
def isWhiteSpace (c : Char) : Bool :=
  whiteSpace.any fun r => r.1 ≤ c.toNat && c.toNat ≤ r.2

/-- Whether a text is empty or white space throughout. -/
def isBlank (s : String) : Bool := s.toList.all isWhiteSpace

end ApiMocks.Text
