namespace LinearProgram

/-!
# A folder of files

A folder holds files under plain names and no folders of its own, so a name
with a slash leads nowhere. A file is read as text, which fails when its bytes
are not UTF-8.

The folder is an ideal one. It is never full, it asks for no permissions, and
every nonempty name without a slash is plain, among them the names that a system
keeps for its folders (`.` and `..`) or cannot express (those with a zero
character). So a folder never refuses a file for a reason of its own:
`FileError.refused` comes from the files of a system alone.
-/

/-- Why a file cannot be read or written. -/
inductive FileError where
  /-- There is no such file, or no folder for it. -/
  | notFound
  /-- The bytes of the file are not UTF-8. -/
  | notText
  /-- The system refuses for a reason of its own, which a `Folder` never does. -/
  | refused (reason : String)
  deriving Repr, DecidableEq

/-- What a file error says to a user. -/
def FileError.message : FileError → String
  | .notFound => "No such file or directory (os error 2)"
  | .notText => "stream did not contain valid UTF-8"
  | .refused reason => reason

/-- What a file holds. -/
inductive Contents where
  | text (content : String)
  /-- Bytes that are not UTF-8. -/
  | binary
  deriving Repr, DecidableEq

namespace Contents

/-- What a file with the given bytes holds. -/
def ofBytes (bytes : ByteArray) : Contents :=
  match String.fromUTF8? bytes with
  | some decoded => .text decoded
  | none => .binary

/-- The text of a file. -/
def read : Contents → Except FileError String
  | .text content => .ok content
  | .binary => .error .notText

end Contents

/-- The files of a folder by name; of two entries with one name the first counts. -/
structure Folder where
  files : List (String × Contents)
  deriving Repr, DecidableEq

namespace Folder

/-- The folder without files. -/
def empty : Folder :=
  ⟨[]⟩

/-- Whether a file may have the given name; those that a system keeps for itself are plain. -/
def isPlainName (name : String) : Bool :=
  !name.isEmpty && !name.toList.contains '/'

/-- What the file with the given name holds. -/
def find? (folder : Folder) (name : String) : Option Contents :=
  folder.files.lookup name

/-- Read a file as text. -/
def read (folder : Folder) (name : String) : Except FileError String :=
  match folder.find? name with
  | some contents => contents.read
  | none => .error .notFound

/-- Write a file, in place of one with the same name. There is always room for it. -/
def write (folder : Folder) (name text : String) : Except FileError Folder :=
  if isPlainName name then
    .ok ⟨(name, .text text) :: folder.files.filter fun file => file.1 != name⟩
  else
    .error .notFound

/-- The text files of a folder that an earlier folder did not have. -/
def createdSince (folder earlier : Folder) : List (String × String) :=
  folder.files.filterMap fun file =>
    match file.2, earlier.find? file.1 with
    | .text content, none => some (file.1, content)
    | _, _ => none

/-- A file that has just been written holds the text written to it. -/
theorem find?_write_self
    {folder written : Folder}
    {name text : String}
    (success : folder.write name text = .ok written) :
    written.find? name = some (.text text) := by
  unfold write at success
  split at success
  · cases success
    simp [find?]
  · cases success

/-- So this text is what reading it gives. -/
theorem read_write_self
    {folder written : Folder}
    {name text : String}
    (success : folder.write name text = .ok written) :
    written.read name = .ok text := by
  rw [read, find?_write_self success]
  rfl

/-- Writing a file leaves all others as they are. -/
theorem find?_write_of_ne
    {folder written : Folder}
    {name other text : String}
    (success : folder.write name text = .ok written)
    (different : other ≠ name) :
    written.find? other = folder.find? other := by
  unfold write at success
  split at success
  · cases success
    have unlike : (other == name) = false := by
      simpa using different
    have lookupFilter :
        ∀ files : List (String × Contents),
          (files.filter fun file => file.1 != name).lookup other = files.lookup other := by
      intro files
      induction files with
      | nil =>
          rfl
      | cons file rest inductionHypothesis =>
          obtain ⟨fileName, contents⟩ := file
          by_cases same : fileName = name
          · subst same
            simp [List.lookup_cons, unlike, inductionHypothesis]
          · simp [same, List.lookup_cons, inductionHypothesis]
    simp [find?, List.lookup_cons, unlike, lookupFilter]
  · cases success

end Folder

end LinearProgram
