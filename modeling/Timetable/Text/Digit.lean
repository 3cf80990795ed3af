/-! Decimal digits of every script, the numbers they spell, and numbers in plain digits. -/

set_option autoImplicit false

namespace Timetable.Text

def zeros : List Nat := [
  0x30, 0x660, 0x6f0, 0x7c0, 0x966, 0x9e6, 0xa66, 0xae6, 0xb66, 0xbe6, 0xc66, 0xce6, 0xd66,
  0xde6, 0xe50, 0xed0, 0xf20, 0x1040, 0x1090, 0x17e0, 0x1810, 0x1946, 0x19d0, 0x1a80, 0x1a90,
  0x1b50, 0x1bb0, 0x1c40, 0x1c50, 0xa620, 0xa8d0, 0xa900, 0xa9d0, 0xa9f0, 0xaa50, 0xabf0, 0xff10,
  0x104a0, 0x10d30, 0x11066, 0x110f0, 0x11136, 0x111d0, 0x112f0, 0x11450, 0x114d0, 0x11650,
  0x116c0, 0x11730, 0x118e0, 0x11950, 0x11c50, 0x11d50, 0x11da0, 0x16a60, 0x16ac0, 0x16b50,
  0x1d7ce, 0x1d7d8, 0x1d7e2, 0x1d7ec, 0x1d7f6, 0x1e140, 0x1e2f0, 0x1e950, 0x1fbf0]

def digit? (c : Char) : Option Nat :=
  (zeros.find? fun base => decide (base ≤ c.toNat ∧ c.toNat < base + 10)).map (c.toNat - ·)

def isDigit (c : Char) : Bool :=
  (digit? c).isSome

def isPlainDigit (c : Char) : Bool :=
  decide ('0' ≤ c) && decide (c ≤ '9')

def allAre (test : Char → Bool) (text : List Char) : Bool :=
  !text.isEmpty && text.all test

def numberFrom (value : Nat) : List Char → Nat
  | [] => value
  | c :: rest => numberFrom (10 * value + (digit? c).getD 0) rest

/-- The most digits that a number has where it is read from a text or written. -/
def digitLimit : Nat := 4300

/-- The number that a run of digits spells, or the number of its digits where these are too many. -/
def number (digits : List Char) : Except Nat Nat :=
  if digitLimit < digits.length then .error digits.length else .ok (numberFrom 0 digits)

def plainNumber? (text : List Char) : Option Nat :=
  if allAre isPlainDigit text then (number text).toOption else none

def ofNat (n : Nat) : String :=
  String.ofList (Nat.toDigits 10 n)

def ofInt : Int → String
  | .ofNat n => ofNat n
  | .negSucc n => "-" ++ ofNat (n + 1)

/-- Whether an integer has few enough digits to be written. Only then does it have the text `ofInt`. -/
def isWritable (n : Int) : Bool :=
  decide ((Nat.toDigits 10 n.natAbs).length ≤ digitLimit)

def padded (width n : Nat) : String :=
  let digits := Nat.toDigits 10 n
  String.ofList (List.replicate (width - digits.length) '0' ++ digits)

end Timetable.Text
