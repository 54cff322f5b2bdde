/-!
# Powers of two and of ten

The scales of binary and of decimal notation, as natural numbers.
-/

namespace SchemaGraph

def powerOfTwo (exponent : Nat) : Nat := Nat.pow 2 exponent

def powerOfTen (exponent : Nat) : Nat := Nat.pow 10 exponent

end SchemaGraph
