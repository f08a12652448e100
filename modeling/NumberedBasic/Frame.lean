import NumberedBasic.Decimal.Layout
import NumberedBasic.Text.Basic

/-! # Frames

A frame is a pending jump: where a subroutine returns to, or where a loop begins
again. What a position is, the frames leave open; a machine counts the lines of the
running program.
-/

namespace NumberedBasic

inductive FrameKind where
  | subroutine
  | repetition
  | count
  deriving DecidableEq, Repr

def FrameKind.keyword : FrameKind → String
  | subroutine => "GOSUB"
  | repetition => "DO"
  | count => "FOR"

inductive Frame (Position : Type) where
  | subroutine (position : Position)
  | repetition (position : Position)
  | count (step limit : Number) (position : Position)
  deriving DecidableEq, Repr

namespace Frame

variable {Position : Type}

def kind : Frame Position → FrameKind
  | subroutine _ => .subroutine
  | repetition _ => .repetition
  | count _ _ _ => .count

def position : Frame Position → Position
  | subroutine position => position
  | repetition position => position
  | count _ _ position => position

/-- A frame as shown to a programmer who inspects the stack. -/
def describe [ToString Position] : Frame Position → String
  | subroutine position => s!"<ReturnFrame position={position}>"
  | repetition position => s!"<RepeatFrame position={position}>"
  | count step limit position =>
    let written (a : Number) := String.ofList (Layout.descriptive.number a)
    s!"<CountedFrame step={written step} limit={written limit} position={position}>"

end Frame

end NumberedBasic
