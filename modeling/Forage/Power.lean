/-!
# Powers and lengths

Powers of two and of ten, and the number of binary digits of a number.
-/

namespace Forage

def twoTo (exponent : Nat) : Nat :=
  Nat.pow 2 exponent

def tenTo (exponent : Nat) : Nat :=
  Nat.pow 10 exponent

def bitLength (n : Nat) : Nat :=
  if n = 0 then 0 else Nat.log2 n + 1

end Forage
