/-! Powers of two and of ten. -/

set_option autoImplicit false

namespace Timetable

def twoTo (exponent : Nat) : Nat :=
  Nat.pow 2 exponent

def tenTo (exponent : Nat) : Nat :=
  Nat.pow 10 exponent

end Timetable
