/-!
Powers of two and of ten, and the limits of numbers of a fixed width.
-/

namespace BindingOperator

def powerOfTwo (exponent : Nat) : Nat := Nat.pow 2 exponent

def powerOfTen (exponent : Nat) : Nat := Nat.pow 10 exponent

/-- The first number that needs more than 31 bits. -/
def limit31 : Nat := 2147483648

def limit32 : Nat := 4294967296

/-- The first number that needs more than 63 bits. -/
def limit63 : Nat := 9223372036854775808

def limit64 : Nat := 18446744073709551616

end BindingOperator
