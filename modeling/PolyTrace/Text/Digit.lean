/-!
# Digits and blanks of all scripts

Numbers may be written with the decimal digits of any script.  The digits of one script have ten
consecutive codes, so a script is given by the code of its zero.  Blanks are the characters that
only leave space.

`plainForm?` gives a text in plain digits and blanks, which is the form in which numbers are read.
-/

namespace PolyTrace.Digit

/-- The codes of the zeros of all scripts, in ascending order. -/
def zeros : List Nat :=
  [0x30, 0x660, 0x6f0, 0x7c0, 0x966, 0x9e6, 0xa66, 0xae6, 0xb66, 0xbe6, 0xc66, 0xce6, 0xd66, 0xde6,
    0xe50, 0xed0, 0xf20, 0x1040, 0x1090, 0x17e0, 0x1810, 0x1946, 0x19d0, 0x1a80, 0x1a90, 0x1b50,
    0x1bb0, 0x1c40, 0x1c50, 0xa620, 0xa8d0, 0xa900, 0xa9d0, 0xa9f0, 0xaa50, 0xabf0, 0xff10, 0x104a0,
    0x10d30, 0x11066, 0x110f0, 0x11136, 0x111d0, 0x112f0, 0x11450, 0x114d0, 0x11650, 0x116c0,
    0x11730, 0x118e0, 0x11950, 0x11c50, 0x11d50, 0x11da0, 0x16a60, 0x16ac0, 0x16b50, 0x1d7ce,
    0x1d7d8, 0x1d7e2, 0x1d7ec, 0x1d7f6, 0x1e140, 0x1e2f0, 0x1e950, 0x1fbf0]

/-- The value of a decimal digit of any script. -/
def value? (c : Char) : Option Nat :=
  (zeros.find? fun first => first ≤ c.toNat && c.toNat < first + 10).map fun first =>
    c.toNat - first

/-- The plain digit with the given value. -/
def plain (value : Nat) : Char :=
  Char.ofNat (0x30 + value)

/-- A plain digit is read back as its value. -/
theorem value?_plain {value : Nat} (h : value < 10) : value? (plain value) = some value := by
  have all : ∀ v ∈ List.range 10, value? (plain v) = some v := by decide
  exact all value (List.mem_range.mpr h)

/-- The plain blanks: the space and the controls from the tabulator to the carriage return. -/
def isPlainBlank (c : Char) : Bool :=
  (9 ≤ c.toNat && c.toNat ≤ 13) || c.toNat = 32

/-- The blanks of all scripts. -/
def isBlank (c : Char) : Bool :=
  let n := c.toNat
  isPlainBlank c || n = 0x85 || n = 0xa0 || n = 0x1680 || (0x2000 ≤ n && n ≤ 0x200a) ||
    n = 0x2028 || n = 0x2029 || n = 0x202f || n = 0x205f || n = 0x3000

/-- A character in plain writing; beyond the plain characters only digits and blanks have one. -/
def plainChar? (c : Char) : Option Char :=
  if c.toNat < 128 then some c
  else if isBlank c then some ' '
  else (value? c).map plain

/-- A text in plain writing. -/
def plainForm? (text : List Char) : Option (List Char) :=
  text.mapM plainChar?

/-- Text without the characters of a class at its ends. -/
def strip (among : Char → Bool) (text : List Char) : List Char :=
  ((text.dropWhile among).reverse.dropWhile among).reverse

end PolyTrace.Digit
