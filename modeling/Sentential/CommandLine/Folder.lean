/-
# Sentential.CommandLine.Folder -- a directory in memory

A folder holds files and directories by their paths from it. Looking a path up goes through the
components one after another, as the system would: every component but the last has to lead to a
directory. What lies outside the folder cannot be seen and counts as missing, apart from the
directories that contain it.
-/
import Sentential.CommandLine.FormulaFile

namespace Sentential.CommandLine

/-- The paths of the files with their content, and the paths of further directories. -/
structure Folder where
  files : List (Path × List UInt8)
  directories : List Path
  deriving Repr

namespace Folder

/-- The folder has a directory there: one that it lists, or one that something it lists is in. -/
def hasDirectory (folder : Folder) (place : List String) : Bool :=
  folder.directories.any (fun path => place.isPrefixOf path.components) ||
    folder.files.any fun (path, _) =>
      place.isPrefixOf path.components && place.length < path.components.length

/-- The content of the file there. -/
def content? (folder : Folder) (place : List String) : Option (List UInt8) :=
  (folder.files.find? fun (path, _) => path.components = place).map Prod.snd

/-- The greatest number of octets in a component. -/
def maxNameSize : Nat := 255

/-- The greatest number of octets in a whole path. -/
def maxPathSize : Nat := 4095

/-- What a path leads to from the directory `place`. -/
def follow (folder : Folder) (place : List String) : List String → FileState
  | [] => .refused .isDirectory
  | ".." :: rest =>
    match place, rest with
    | [], [] => .refused .isDirectory
    | [], ".." :: _ => folder.follow [] rest
    | [], _ => .missing
    | _, _ => folder.follow place.dropLast rest
  | name :: rest =>
    let next := place ++ [name]
    if maxNameSize < name.utf8ByteSize then .refused .nameTooLong
    else if folder.hasDirectory next then folder.follow next rest
    else
      match folder.content? next with
      | none => .missing
      | some content => if rest.isEmpty then .octets content else .refused .notDirectory

/-- What a path leads to. -/
def look (folder : Folder) (path : Path) : FileState :=
  if path.text.toList.contains '\x00' then .unnamable
  else if maxPathSize < path.text.utf8ByteSize then .refused .nameTooLong
  else if path.root = "" then folder.follow [] path.components
  else if path.components = [] then .refused .isDirectory
  else .missing

end Folder

end Sentential.CommandLine
