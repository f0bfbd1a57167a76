/-
# Sentential.CommandLine.Path -- names of files

A path is made of components between slashes. Empty components and single dots mean nothing and
are left out of the written form; two dots stay, as what they lead to depends on the directories.
Exactly two slashes in front are kept as they are, any other number counts as one.
-/

namespace Sentential.CommandLine

/-- A path: what it starts from, which is empty for a path from here, and its components. -/
structure Path where
  root : String
  components : List String
  deriving DecidableEq, Repr

namespace Path

/-- A character list cut at every slash. -/
def cut : List Char → List (List Char)
  | [] => [[]]
  | c :: rest =>
    if c = '/' then [] :: cut rest
    else
      match cut rest with
      | first :: more => (c :: first) :: more
      | [] => [[c]]

/-- What a path starts from. -/
def rootOf : List Char → String
  | '/' :: '/' :: '/' :: _ => "/"
  | '/' :: '/' :: _ => "//"
  | '/' :: _ => "/"
  | _ => ""

/-- The path that a text spells. -/
def ofText (text : String) : Path :=
  ⟨rootOf text.toList,
    ((cut text.toList).filter fun part => part != [] && part != ['.']).map .ofList⟩

/-- The written form of a path; the path to here is a dot. -/
def text (path : Path) : String :=
  let text := path.root ++ String.intercalate "/" path.components
  if text = "" then "." else text

end Path

end Sentential.CommandLine
