import LinearProgram.Problem.Matrices

namespace LinearProgram.Command

/-!
# Matrices as JSON

The matrices of a problem are written as one object, sorted by name, with each
element of an array on a line of its own and two spaces of indent per level.
-/

/-- The indent of a nesting level. -/
def indent (level : Nat) : String :=
  String.ofList (List.replicate (2 * level) ' ')

/-- Elements between brackets, each on a line of its own one level deeper. -/
def bracketed (opening closing : String) (level : Nat) (elements : List String) : String :=
  if elements.isEmpty then
    opening ++ closing
  else
    opening ++ "\n" ++
      ",\n".intercalate (elements.map fun element => indent (level + 1) ++ element) ++
      "\n" ++ indent level ++ closing

/-- A vector as a JSON array. -/
def vectorJson (level : Nat) (entries : List Int) : String :=
  bracketed "[" "]" level (entries.map toString)

/-- A matrix as a JSON array. -/
def valueJson (level : Nat) : MatrixValue → String
  | .vector entries => vectorJson level entries
  | .matrix rows => bracketed "[" "]" level (rows.map (vectorJson (level + 1)))

/-- The names of all matrices in the order of their canonical spellings. -/
def sortedNames : List MatrixName :=
  [.a, .eqin, .minMax, .varConstr, .b, .c]

/-- The matrices of a problem as a JSON object. -/
def matricesJson (matrices : Matrices) : String :=
  bracketed "\x7b" "\x7d" 0 <|
    sortedNames.filterMap fun name =>
      (matrices.get? name).map fun value =>
        "\"" ++ name.text ++ "\": " ++ valueJson 1 value

end LinearProgram.Command
