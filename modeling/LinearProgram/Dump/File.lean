import LinearProgram.Dump.Parser
import LinearProgram.Failure

namespace LinearProgram

/-!
# Dumps in files
-/

/-- The matrices that the text of a file holds, if it can be read. -/
def Dump.ofFile (contents : Except FileError String) (dual : Bool) : Except Failure Matrices :=
  match contents with
  | .error error => .error (.file error)
  | .ok text => (Dump.read text dual).mapError .dump

/-- Read a dump from a file of a folder. -/
def Folder.readMatrices (folder : Folder) (file : String) (dual : Bool) :
    Except Failure Matrices :=
  Dump.ofFile (folder.read file) dual

end LinearProgram
