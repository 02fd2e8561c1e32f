import SplitBoard.Half.State

/-!
# Previewing colors

The frames that a half would get if all of its LEDs had one color.
-/

namespace SplitBoard

/-- A half with every LED in one color. -/
def Half.uniform (profile : Profile) (color : Color) (brightness : UInt8) : Half :=
  ((Half.new 0 profile).setBrightness brightness).mapLeds (·.fill color)

/-- The frames of every bank of such a half, by ascending bank. -/
def previewFrames (profile : Profile) (color : Color) (brightness : UInt8) : List (List UInt8) :=
  let half := Half.uniform profile color brightness
  (List.range half.leds.banks).map half.bankFrame

/-- A frame as text. -/
def frameText (frame : List UInt8) : String :=
  " ".intercalate (frame.map Text.upperByte)

end SplitBoard
