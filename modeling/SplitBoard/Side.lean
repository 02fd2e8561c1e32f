/-!
# Sides and layouts

A board has a left and a right half. Each half is wired with a select value, which is the low end of
its bus addresses, and knows which of the two key layouts it was built for.
-/

namespace SplitBoard

/-- One of the two halves. -/
inductive Side where
  | left
  | right
  deriving DecidableEq, Repr

namespace Side

/-- Both sides, in the order in which they are served. -/
def both : List Side := [left, right]

/-- The select value wired on the half. -/
def select : Side → UInt8
  | left => 0
  | right => 1

/-- The side as messages call it. -/
def name : Side → String
  | left => "Left"
  | right => "Right"

/-- The other half. -/
def other : Side → Side
  | left => right
  | right => left

end Side

/-- The arrangement of keys that a half was built for. -/
inductive KeyLayout where
  | iso
  | ansi
  deriving DecidableEq, Repr

namespace KeyLayout

/-- The layout that a half reports by this number. Only one number stands for ANSI. -/
def ofReport (n : UInt8) : KeyLayout :=
  if n = 1 then ansi else iso

/-- The layout as messages call it. -/
def name : KeyLayout → String
  | iso => "Iso"
  | ansi => "Ansi"

end KeyLayout
end SplitBoard
