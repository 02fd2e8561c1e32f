import SplitBoard.Text.Numeral
import SplitBoard.Text.Quoted

/-!
# Colors and gamma tables

A color is three bytes. A half's LEDs do not shine in proportion to the byte they are sent, so bytes
go through a table first: level `i` is sent as the rounded value of `255 · (i / 255)^2.8`.

Colors are also read from text, as six hexadecimal digits with or without a leading `#`.
-/

namespace SplitBoard

/-- A color, as the levels of its three channels. -/
structure Color where
  red : UInt8
  green : UInt8
  blue : UInt8
  deriving DecidableEq, Repr, Inhabited

/-- All channels off. -/
def Color.black : Color := ⟨0, 0, 0⟩

/-- The channels in the order in which they are sent. -/
def Color.channels (c : Color) : List UInt8 := [c.red, c.green, c.blue]

/-- What is sent for each of the 256 levels. -/
abbrev Gamma := Vector UInt8 256

namespace Gamma

/-- The corrected level. -/
def apply (gamma : Gamma) (level : UInt8) : UInt8 :=
  gamma.get ⟨level.toNat, level.toNat_lt⟩

/-- Every level stands for itself. -/
def identity : Gamma := Vector.ofFn fun i => UInt8.ofNat i

/-- Light and dark exchanged. -/
def inverted : Gamma := Vector.ofFn fun i => UInt8.ofNat (255 - i)

/-- The correction with exponent 2.8. -/
def power28 : Gamma := ⟨#[
    0, 0, 0, 0, 0, 0, 0, 0, 0, 0, 0, 0, 0, 0, 0, 0,
    0, 0, 0, 0, 0, 0, 0, 0, 0, 0, 0, 0, 1, 1, 1, 1,
    1, 1, 1, 1, 1, 1, 1, 1, 1, 2, 2, 2, 2, 2, 2, 2,
    2, 3, 3, 3, 3, 3, 3, 3, 4, 4, 4, 4, 4, 5, 5, 5,
    5, 6, 6, 6, 6, 7, 7, 7, 7, 8, 8, 8, 9, 9, 9, 10,
    10, 10, 11, 11, 11, 12, 12, 13, 13, 13, 14, 14, 15, 15, 16, 16,
    17, 17, 18, 18, 19, 19, 20, 20, 21, 21, 22, 22, 23, 24, 24, 25,
    25, 26, 27, 27, 28, 29, 29, 30, 31, 32, 32, 33, 34, 35, 35, 36,
    37, 38, 39, 39, 40, 41, 42, 43, 44, 45, 46, 47, 48, 49, 50, 50,
    51, 52, 54, 55, 56, 57, 58, 59, 60, 61, 62, 63, 64, 66, 67, 68,
    69, 70, 72, 73, 74, 75, 77, 78, 79, 81, 82, 83, 85, 86, 87, 89,
    90, 92, 93, 95, 96, 98, 99, 101, 102, 104, 105, 107, 109, 110, 112, 114,
    115, 117, 119, 120, 122, 124, 126, 127, 129, 131, 133, 135, 137, 138, 140, 142,
    144, 146, 148, 150, 152, 154, 156, 158, 160, 162, 164, 167, 169, 171, 173, 175,
    177, 180, 182, 184, 186, 189, 191, 193, 196, 198, 200, 203, 205, 208, 210, 213,
    215, 218, 220, 223, 225, 228, 231, 233, 236, 239, 241, 244, 247, 249, 252, 255],
    by decide +kernel⟩

end Gamma

/-- Why a text is not a color. -/
inductive ColorError where
  /-- The digits do not take six bytes. -/
  | wrongLength (text : String)
  /-- Six bytes that are not a number. -/
  | notNumeral (text : String)
  deriving DecidableEq

/-- The error and its cause, outermost first. -/
def ColorError.chain : ColorError → List String
  | wrongLength text => [s!"color must be six hex digits, got {Text.quoted text}"]
  | notNumeral text => [s!"invalid color {Text.quoted text}", "invalid digit found in string"]

namespace Color

/-- The color whose channels are the three low bytes of a number, the highest of them red. -/
def ofNat (n : Nat) : Color :=
  ⟨UInt8.ofNat (n / 0x10000), UInt8.ofNat (n / 0x100), UInt8.ofNat n⟩

/-- Read `RRGGBB` or `#RRGGBB`. What follows the mark is a numeral of six bytes, so its first
character may be a plus sign. -/
def parse (text : String) : Except ColorError Color :=
  let digits := match text.toList with
    | '#' :: rest => rest
    | all => all
  if (String.ofList digits).utf8ByteSize ≠ 6 then .error (.wrongLength text)
  else
    match Text.numeral? 16 digits with
    | some n => .ok (ofNat n)
    | none => .error (.notNumeral text)

end Color
end SplitBoard
