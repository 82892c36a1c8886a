/-!
# Powers of two and ten

The powers that positional numerals and binary words are made of.
-/

namespace Wireframe

/-- A power of two. -/
abbrev pow2 (n : Nat) : Nat :=
  Nat.pow 2 n

/-- A power of ten. -/
abbrev pow10 (n : Nat) : Nat :=
  Nat.pow 10 n

end Wireframe
