import LinearProgram.Text.Blank

namespace LinearProgram

/-!
# Relations, directions and restrictions

The finite vocabulary of a linear program. Each word has an integer code, which
stands for it in matrices and dumps, and reading a code undoes writing it.
-/

/-- How a constraint compares its left-hand side with its right-hand side. -/
inductive Relation where
  | le
  | eq
  | ge
  deriving Repr, DecidableEq

/-- Whether the objective is to be minimized or maximized. -/
inductive Direction where
  | min
  | max
  deriving Repr, DecidableEq

/-- The sign restriction on a variable. -/
inductive Restriction where
  | free
  | nonNegative
  | nonPositive
  deriving Repr, DecidableEq

namespace Relation

/-- The code of a relation. -/
def code : Relation → Int
  | .le => -1
  | .eq => 0
  | .ge => 1

/-- The relation with a given code. -/
def ofCode? (code : Int) : Option Relation :=
  if code = -1 then some .le
  else if code = 0 then some .eq
  else if code = 1 then some .ge
  else none

theorem ofCode?_code (relation : Relation) : ofCode? relation.code = some relation := by
  cases relation <;> rfl

end Relation

namespace Direction

/-- The code of a direction. -/
def code : Direction → Int
  | .min => -1
  | .max => 1

/-- The direction with a given code. -/
def ofCode? (code : Int) : Option Direction :=
  if code = -1 then some .min
  else if code = 1 then some .max
  else none

/-- The other direction. -/
def opposite : Direction → Direction
  | .min => .max
  | .max => .min

theorem ofCode?_code (direction : Direction) : ofCode? direction.code = some direction := by
  cases direction <;> rfl

@[simp] theorem opposite_opposite (direction : Direction) :
    direction.opposite.opposite = direction := by
  cases direction <;> rfl

end Direction

namespace Restriction

/-- The code of a restriction. -/
def code : Restriction → Int
  | .free => 0
  | .nonNegative => 1
  | .nonPositive => -1

/-- The restriction with a given code. -/
def ofCode? (code : Int) : Option Restriction :=
  if code = 0 then some .free
  else if code = 1 then some .nonNegative
  else if code = -1 then some .nonPositive
  else none

/-- How a restriction is written out. -/
def label : Restriction → String
  | .free => "free"
  | .nonNegative => ">= 0"
  | .nonPositive => "<= 0"

/-- The restriction with a given label, whose blanks do not matter. -/
def ofLabel? (label : String) : Option Restriction :=
  match String.ofList (Text.compact label.toList) with
  | "free" => some .free
  | ">=0" => some .nonNegative
  | "<=0" => some .nonPositive
  | _ => none

theorem ofCode?_code (restriction : Restriction) :
    ofCode? restriction.code = some restriction := by
  cases restriction <;> rfl

theorem ofLabel?_label (restriction : Restriction) :
    ofLabel? restriction.label = some restriction := by
  cases restriction <;> decide

end Restriction

end LinearProgram
