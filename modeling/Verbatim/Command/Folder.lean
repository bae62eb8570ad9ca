import Verbatim.Text.Quoted

/-!
# Files by their paths

A path leads from the working folder to a file, one name after another.  An empty
name and a dot stay where they are, and two dots go up.  A folder knows the files
in it and below it.  Above it there are folders of which nothing else is known.

`Folder.read` follows a path to the content of a file, or says why there is
nothing to read.
-/

namespace Verbatim.Command

/-- Why there is nothing to read at a path. -/
inductive FileFault where
  | missing
  | isFolder
  /-- The path goes on behind the name of a file. -/
  | notFolder
  /-- The path, or a name in it, is longer than any may be. -/
  | tooLong
  | nullCharacter
  deriving DecidableEq, Repr

def FileFault.message (path : Text) : FileFault → Text
  | .missing => "[Errno 2] No such file or directory: ".toList ++ quoted path
  | .isFolder => "[Errno 21] Is a directory: ".toList ++ quoted path
  | .notFolder => "[Errno 20] Not a directory: ".toList ++ quoted path
  | .tooLong => "[Errno 36] File name too long: ".toList ++ quoted path
  | .nullCharacter => "embedded null byte".toList

namespace Path

/-- The names in a path, which slashes separate. -/
def names : Text → List Text
  | [] => [[]]
  | char :: rest =>
      if char = '/' then [] :: names rest
      else
        match names rest with
        | [] => [[char]]
        | name :: later => (char :: name) :: later

/-- The size of a name or a path when it is stored. -/
def size (text : Text) : Nat :=
  text.foldr (fun char rest => char.utf8Size + rest) 0

def longestName : Nat := 255

def longestPath : Nat := 4095

end Path

/-- Where a path has led so far: to a folder that the names lead to from the working
folder, or out of the working folder. -/
inductive Place where
  | within (names : List Text)
  | outside
  deriving DecidableEq, Repr

def Place.parent : Place → Place
  | .within [] | .outside => .outside
  | .within names => .within names.dropLast

/-- What a name stands for. -/
inductive Entry where
  | file (content : Text)
  | folder (place : Place)
  deriving DecidableEq, Repr

/-- A folder: the files in it and below it, each with the names that lead there. -/
structure Folder where
  files : List (List Text × Text)
  deriving DecidableEq, Repr

namespace Folder

def entry? (folder : Folder) (name : Text) : Place → Option Entry
  | .outside => none
  | .within names =>
      match folder.files.lookup (names ++ [name]) with
      | some content => some (.file content)
      | none =>
          if folder.files.any fun file => (names ++ [name]).isPrefixOf file.1 then
            some (.folder (.within (names ++ [name])))
          else none

/-- Follow names from a place on to the content of a file. -/
def follow (folder : Folder) (place : Place) : List Text → Except FileFault Text
  | [] => .error .isFolder
  | name :: later =>
      if name = [] ∨ name = ['.'] then folder.follow place later
      else if name = ['.', '.'] then folder.follow place.parent later
      else if Path.longestName < Path.size name then .error .tooLong
      else
        match folder.entry? name place with
        | none => .error .missing
        | some (.folder inner) => folder.follow inner later
        | some (.file content) => if later = [] then .ok content else .error .notFolder

def read (folder : Folder) (path : Text) : Except FileFault Text :=
  if '\x00' ∈ path then .error .nullCharacter
  else if path = [] then .error .missing
  else if Path.longestPath < Path.size path then .error .tooLong
  else
    folder.follow (if path.head? = some '/' then .outside else .within [])
      (Path.names path)

end Folder

end Verbatim.Command
