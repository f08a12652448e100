import NumberedBasic.Cause

/-! # The control stack

Subroutines and both kinds of loop share one stack. A statement that ends one of
them names the kind of frame that it needs on top and complains about any other.
-/

namespace NumberedBasic

/-- The pending frames, the last one pushed first. -/
abbrev ControlStack (Position : Type) := List (Frame Position)

namespace Frame

variable {Position : Type}

def subroutine? : Frame Position → Option Position
  | subroutine position => some position
  | _ => none

def repetition? : Frame Position → Option Position
  | repetition position => some position
  | _ => none

/-- The step, the limit and the position of a counted loop. -/
def count? : Frame Position → Option (Number × Number × Position)
  | count step limit position => some (step, limit, position)
  | _ => none

def ofKind? (kind : FrameKind) (frame : Frame Position) : Option (Frame Position) :=
  if frame.kind = kind then some frame else none

end Frame

namespace ControlStack

variable {Position α : Type}

def push (stack : ControlStack Position) (frame : Frame Position) : ControlStack Position :=
  frame :: stack

def top (stack : ControlStack Position) (select : Frame Position → Option α)
    (complaint : String) : Except Cause α :=
  match stack with
  | [] => .error (.unmatched complaint none)
  | frame :: _ =>
    match select frame with
    | some found => .ok found
    | none => .error (.unmatched complaint (some frame.kind))

def pop (stack : ControlStack Position) (select : Frame Position → Option α)
    (complaint : String) : Except Cause (α × ControlStack Position) :=
  (stack.top select complaint).map fun found => (found, stack.tail)

def describe [ToString Position] (stack : ControlStack Position) : String :=
  "<ControlStack [" ++ ", ".intercalate (stack.reverse.map Frame.describe) ++ "]>"

end ControlStack

end NumberedBasic
