import ClusterTopology.Text.Basic

/-!
Integers written by hand. The digits are those of any script, single underscores may stand
between two of them, a sign may come first, and blanks may surround the whole.
-/

namespace ClusterTopology

def CodePoint.decimalZeros : List Nat := [
  0x30, 0x660, 0x6f0, 0x7c0, 0x966, 0x9e6, 0xa66, 0xae6, 0xb66, 0xbe6, 0xc66, 0xce6, 0xd66,
  0xde6, 0xe50, 0xed0, 0xf20, 0x1040, 0x1090, 0x17e0, 0x1810, 0x1946, 0x19d0, 0x1a80, 0x1a90,
  0x1b50, 0x1bb0, 0x1c40, 0x1c50, 0xa620, 0xa8d0, 0xa900, 0xa9d0, 0xa9f0, 0xaa50, 0xabf0,
  0xff10, 0x104a0, 0x10d30, 0x11066, 0x110f0, 0x11136, 0x111d0, 0x112f0, 0x11450, 0x114d0,
  0x11650, 0x116c0, 0x11730, 0x118e0, 0x11950, 0x11c50, 0x11d50, 0x11da0, 0x16a60, 0x16ac0,
  0x16b50, 0x1d7ce, 0x1d7d8, 0x1d7e2, 0x1d7ec, 0x1d7f6, 0x1e140, 0x1e2f0, 0x1e950, 0x1fbf0]

def CodePoint.digitValue? (c : CodePoint) : Option Nat :=
  (decimalZeros.find? fun start => start ≤ c.val && c.val < start + 10).map (c.val - ·)

/-- Blanks around a number: the layout characters, the space, and the blanks beyond ASCII. The four
information separators are not among them. -/
def CodePoint.isNumberBlank (c : CodePoint) : Bool :=
  (9 ≤ c.val && c.val ≤ 13) || c.val = 0x20 || c.val = 0x85 || c.val = 0xa0 || c.val = 0x1680
    || (0x2000 ≤ c.val && c.val ≤ 0x200a) || c.val = 0x2028 || c.val = 0x2029
    || c.val = 0x202f || c.val = 0x205f || c.val = 0x3000

namespace Text

inductive IntegerFault where
  | notAnInteger (given : Text)
  | tooManyDigits (count : Nat)
  /-- The digits are too many to be written. -/
  | notWritable
  deriving DecidableEq

/-- The most digits an integer is read from or written with, on a system that limits them. -/
def digitLimit : Nat := 4300

/-- The digits at the front of a text and what follows them. `due` says that a digit has to come
next, which holds at the beginning and after an underscore. -/
def takeDigits : (due : Bool) → Text → Option (List Nat × Text)
  | due, [] => if due then none else some ([], [])
  | due, c :: rest =>
    match c.digitValue? with
    | some digit => (takeDigits false rest).map fun (digits, after) => (digit :: digits, after)
    | none =>
      if due then none
      else if c = '_' then takeDigits true rest
      else some ([], c :: rest)

def valueOfDigits (digits : List Nat) : Nat :=
  digits.foldl (fun value digit => 10 * value + digit) 0

/-- Whether the number is negative, and the text after its sign. -/
def takeSign : Text → Bool × Text
  | [] => (false, [])
  | c :: rest =>
    if c = '-' then (true, rest) else if c = '+' then (false, rest) else (false, c :: rest)

/-- Digits beyond the limit are reported before whatever else follows them. -/
def readInt (given : Text) : Except IntegerFault Int :=
  let (negative, unsigned) := takeSign (given.dropWhile CodePoint.isNumberBlank)
  match takeDigits true unsigned with
  | none => .error (.notAnInteger given)
  | some (digits, after) =>
    if digitLimit < digits.length then .error (.tooManyDigits digits.length)
    else if !after.all CodePoint.isNumberBlank then .error (.notAnInteger given)
    else if negative then .ok (-(valueOfDigits digits : Int))
    else .ok (valueOfDigits digits)

end Text
end ClusterTopology
