import LinearProgram.Dump.Error
import LinearProgram.Dump.Printer
import LinearProgram.Text.Pieces

namespace LinearProgram.Dump

/-!
# Reading a dump

The sections of a dump may stand in any order among other lines, but each has
to open a line, and the first one of a name counts. Blank lines of a section
are passed over. The restriction lines of a dual are wherever a line starts
with `w_`, and have to be numbered in order from one.
-/

/--
The text behind the first occurrence of a header at the start of a line, where
`atStart` tells whether the text itself starts a line.
-/
def afterHeader? (header : List Char) (atStart : Bool) : List Char → Option (List Char)
  | [] => none
  | character :: rest =>
      if atStart && header.isPrefixOf (character :: rest) then
        some ((character :: rest).drop header.length)
      else
        afterHeader? header (character == '\n') rest

/-- What stands between the brackets of a section. -/
def body (name : MatrixName) (text : List Char) : Except Error (List Char) :=
  match afterHeader? (header name) true text with
  | none => .error (.missingSection name)
  | some rest =>
      if rest.contains ']' then
        .ok (rest.takeWhile fun character => character != ']')
      else
        .error (.unterminatedSection name)

/-- The value that a word of a section denotes. -/
def valueOfWord (name : MatrixName) (word : List Char) : Except Error Int :=
  match Numeral.value? word with
  | some value => .ok value
  | none => .error (.invalidValue name (String.ofList word))

/-- The values on a line of a section. -/
def rowOfLine (name : MatrixName) (line : List Char) : Except Error (List Int) :=
  (Text.words line).mapM (valueOfWord name)

/-- The lines of a section that are not blank. -/
def filledLines (text : List Char) : List (List Char) :=
  (Text.lines text).filter fun line => !line.all Text.isBlank

/-- The rows of a section. -/
def rowsOfSection (name : MatrixName) (text : List Char) : Except Error (List (List Int)) := do
  let text ← body name text
  (filledLines text).mapM (rowOfLine name)

/-- The value on a line that has to hold one value. -/
def entryOfLine (name : MatrixName) (line : List Char) : Except Error Int := do
  match ← rowOfLine name line with
  | [value] => return value
  | values => throw (.notAVector name values.length)

/-- The entries of a section that has to hold one value on each line. -/
def vectorOfSection (name : MatrixName) (text : List Char) : Except Error (List Int) := do
  let text ← body name text
  (filledLines text).mapM (entryOfLine name)

/-- The word of the domain that a code stands for. -/
def decode (name : MatrixName) (ofCode? : Int → Option α) (code : Int) : Except Error α :=
  match ofCode? code with
  | some word => .ok word
  | none => .error (.invalidCode name code)

/-- The direction that the only value of its section stands for. -/
def directionOfSection (text : List Char) : Except Error Direction := do
  match ← vectorOfSection .minMax text with
  | [code] => decode .minMax Direction.ofCode? code
  | values => throw (.shape (.directionCount values.length))

/-- The restriction on a line that has to carry a given index. -/
def restrictionOfLine? (index : Nat) (line : List Char) : Option Restriction :=
  let numbered := line.drop 2
  let numeral := numbered.takeWhile fun character => character != ' '
  match numbered.dropWhile fun character => character != ' ' with
  | [] => none
  | _ :: label =>
      if Numeral.index? numeral = some index then
        Restriction.ofLabel? (String.ofList label)
      else
        none

/-- The restrictions on lines whose indices start at a given one. -/
def restrictionsOfLines (index : Nat) : List (List Char) → Except Error (List Restriction)
  | [] => .ok []
  | line :: rest =>
      match restrictionOfLine? index line with
      | none => .error (.invalidRestriction (String.ofList line))
      | some restriction => do
          let restrictions ← restrictionsOfLines (index + 1) rest
          return restriction :: restrictions

/-- The lines of a text that carry restrictions. -/
def restrictionTexts (text : List Char) : List (List Char) :=
  (Text.lines text).filter fun line => ['w', '_'].isPrefixOf line

/-- The first row that does not have the given length, with its position. -/
def firstMisfit? (width position : Nat) : List (List Int) → Option (Nat × Nat)
  | [] => none
  | row :: rest =>
      if row.length = width then
        firstMisfit? width (position + 1) rest
      else
        some (position, row.length)

/-- The first disagreement between the sizes of some matrices. -/
def shapeError? (matrices : Matrices) : Option ShapeError :=
  if matrices.a.length ≠ matrices.b.length then
    some (.rowCount matrices.a.length matrices.b.length)
  else
    match firstMisfit? matrices.c.length 1 matrices.a with
    | some (row, columns) => some (.rowWidth row columns matrices.c.length)
    | none =>
        if matrices.eqin.length ≠ matrices.b.length then
          some (.relationCount matrices.eqin.length matrices.b.length)
        else
          match matrices.varConstr with
          | none => none
          | some restrictions =>
              if restrictions.length ≠ matrices.c.length then
                some (.restrictionCount restrictions.length matrices.c.length)
              else
                none

/-- The restrictions of a dual; those of a primal problem are not looked for. -/
def restrictionsOf (dual : Bool) (text : List Char) : Except Error (Option (List Restriction)) :=
  if dual then
    (restrictionsOfLines 1 (restrictionTexts text)).map some
  else
    .ok none

/-- The matrices that the characters of a dump hold. -/
def ofCharacters (text : List Char) (dual : Bool) : Except Error Matrices := do
  let a ← rowsOfSection .a text
  let b ← vectorOfSection .b text
  let c ← vectorOfSection .c text
  let codes ← vectorOfSection .eqin text
  let eqin ← codes.mapM (decode .eqin Relation.ofCode?)
  let direction ← directionOfSection text
  let varConstr ← restrictionsOf dual text
  let matrices : Matrices := ⟨a, b, c, eqin, direction, varConstr⟩
  match shapeError? matrices with
  | some error => throw (.shape error)
  | none => return matrices

/-- The matrices that a dump holds, with the restrictions on the variables of a dual. -/
def read (text : String) (dual : Bool) : Except Error Matrices :=
  ofCharacters text.toList dual

end LinearProgram.Dump
