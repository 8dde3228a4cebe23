import LinearProgram.Text.Numeral

namespace LinearProgram

/-!
# Commands and their arguments

A command line names a command and then gives its options and at most one file,
in any order. An option with a value is followed by it. Neither a value nor a
file may start with a hyphen, unless it is the hyphen alone; after a double
hyphen only the file may follow. No option may be repeated.

Nothing else is accepted. Shorthands that a parser for a system may know besides
are left out: a value joined to its option (`--text=max`, `-tmax`), and a request for
help (`--help`).
-/

/-- Where a problem is stated. -/
structure Source where
  file : Option String
  text : Option String
  delimiter : String
  deriving Repr, DecidableEq

/-- How matrices are printed. -/
inductive Format where
  | dump
  | json
  deriving Repr, DecidableEq

/-- What the program is asked to do. -/
inductive Command where
  /-- Check a problem. -/
  | check (source : Source)
  /-- List the variables of one line, or of the whole problem. -/
  | listVariables (source : Source) (line : Option Nat)
  /-- Print the matrices of a problem or of its dual. -/
  | matrices (source : Source) (dual : Bool) (format : Format)
  /-- Write the matrices of a problem or of its dual to a file. -/
  | dump (source : Source) (output : String) (dual : Bool)
  /-- Print the matrices that a file holds. -/
  | read (file : String) (dual : Bool) (format : Format)
  deriving Repr, DecidableEq

namespace Command

/-- An option with a value. -/
inductive Setting where
  | text
  | delimiter
  | line
  | output
  | format
  deriving Repr, DecidableEq

/-- The option with a given spelling. -/
def Setting.ofSpelling? : String → Option Setting
  | "-t" => some .text
  | "--text" => some .text
  | "-d" => some .delimiter
  | "--delimiter" => some .delimiter
  | "-l" => some .line
  | "--line" => some .line
  | "-o" => some .output
  | "--output" => some .output
  | "-f" => some .format
  | "--format" => some .format
  | _ => none

/-- What a command accepts besides its file. -/
structure Grammar where
  settings : List Setting
  /-- Whether the dual problem may be asked for. -/
  dual : Bool
  deriving Repr, DecidableEq

/-- The arguments of a command, sorted out. -/
structure Arguments where
  file : Option String
  dual : Bool
  settings : List (Setting × String)
  deriving Repr, DecidableEq

namespace Arguments

/-- No arguments. -/
def empty : Arguments :=
  ⟨none, false, []⟩

/-- The value of an option. -/
def value? (arguments : Arguments) (setting : Setting) : Option String :=
  arguments.settings.lookup setting

/-- Add the file, which has to be named and may be given once. -/
def addFile? (arguments : Arguments) (name : String) : Option Arguments :=
  if arguments.file.isNone && name != "" then
    some { arguments with file := some name }
  else
    none

/-- Add the wish for the dual, which may be given once where it is accepted. -/
def addDual? (arguments : Arguments) (grammar : Grammar) : Option Arguments :=
  if grammar.dual && !arguments.dual then
    some { arguments with dual := true }
  else
    none

/-- Add the value of an option, which may be given once where it is accepted. -/
def addSetting?
    (arguments : Arguments)
    (grammar : Grammar)
    (setting : Setting)
    (value : String) : Option Arguments :=
  if grammar.settings.contains setting && (arguments.value? setting).isNone then
    some { arguments with settings := (setting, value) :: arguments.settings }
  else
    none

/-- Whether a word is an option rather than a value or a file. -/
def isOption (word : String) : Bool :=
  word.toList.head? == some '-' && word != "-"

/-- Add words none of which is an option. -/
def addFiles? (arguments : Arguments) : List String → Option Arguments
  | [] => some arguments
  | word :: rest => do
      let extended ← arguments.addFile? word
      extended.addFiles? rest

/-- Add the words of a command line. -/
def addWords? (grammar : Grammar) (arguments : Arguments) : List String → Option Arguments
  | [] => some arguments
  | word :: rest =>
      if word = "--" then
        arguments.addFiles? rest
      else if word = "--dual" then do
        let extended ← arguments.addDual? grammar
        extended.addWords? grammar rest
      else if isOption word then
        match rest with
        | [] => none
        | value :: behind =>
            if isOption value then
              none
            else do
              let setting ← Setting.ofSpelling? word
              let extended ← arguments.addSetting? grammar setting value
              extended.addWords? grammar behind
      else do
        let extended ← arguments.addFile? word
        extended.addWords? grammar rest

/-- Sort out the words of a command line. -/
def ofWords? (grammar : Grammar) (words : List String) : Option Arguments :=
  Arguments.empty.addWords? grammar words

/-- Where the arguments say that the problem is stated; lines end at line feeds by default. -/
def source (arguments : Arguments) : Source :=
  ⟨arguments.file, arguments.value? .text, (arguments.value? .delimiter).getD "\n"⟩

/-- The format that the arguments ask for. -/
def format (arguments : Arguments) : Format :=
  if arguments.value? .format = some "json" then .json else .dump

/-- The line that the arguments ask for, if it is a number. -/
def line? (arguments : Arguments) : Option (Option Nat) :=
  match arguments.value? .line with
  | none => some none
  | some word => (Numeral.index? word.toList).map some

/-- The file that the arguments want written, which has to be named. -/
def output? (arguments : Arguments) : Option String :=
  (arguments.value? .output).filter (· != "")

end Arguments

/-- The command that the words of a command line stand for, if they are spelled out. -/
def parse? : List String → Option Command
  | [] => none
  | name :: words =>
      match name with
      | "check" => do
          let arguments ← Arguments.ofWords? ⟨[.text, .delimiter], false⟩ words
          return .check arguments.source
      | "vars" => do
          let arguments ← Arguments.ofWords? ⟨[.text, .delimiter, .line], false⟩ words
          let line ← arguments.line?
          return .listVariables arguments.source line
      | "matrices" => do
          let arguments ← Arguments.ofWords? ⟨[.text, .delimiter, .format], true⟩ words
          return .matrices arguments.source arguments.dual arguments.format
      | "dump" => do
          let arguments ← Arguments.ofWords? ⟨[.text, .delimiter, .output], true⟩ words
          let output ← arguments.output?
          return .dump arguments.source output arguments.dual
      | "read" => do
          let arguments ← Arguments.ofWords? ⟨[.format], true⟩ words
          let file ← arguments.file
          return .read file arguments.dual arguments.format
      | _ => none

end Command

end LinearProgram
