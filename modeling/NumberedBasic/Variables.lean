import NumberedBasic.Number.Basic
import NumberedBasic.Table
import NumberedBasic.Text.Basic

/-! # Variables

Variables hold numbers and are named by lower-case words.
-/

namespace NumberedBasic

/-- The assigned variables by increasing name. -/
abbrev Variables := Table Text Number

end NumberedBasic
