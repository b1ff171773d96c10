/-!
# Comparing Without Regard to Case

Words of the wire formats are compared without regard to the case of the ASCII letters; every other
character has to agree exactly.
-/

set_option autoImplicit false

namespace WorkerRoster.Text

/-- The lower case of an ASCII capital, any other character unchanged. -/
def lowerAscii (c : Char) : Char :=
  if 'A' ≤ c ∧ c ≤ 'Z' then Char.ofNat (c.toNat + 32) else c

/-- Whether two texts agree up to the case of ASCII letters. -/
def sameLetters (s t : String) : Bool :=
  s.toList.map lowerAscii == t.toList.map lowerAscii

end WorkerRoster.Text
