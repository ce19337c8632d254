import Gamebook.Cli.Console
import Gamebook.Table
import Gamebook.Text.Lines

/-!
# A desk

Surroundings that are an ordinary value: a folder of files, the lines of input that have not been
read, and what has been written.  A program on a desk is a function from desks to desks.

- `Folder.read` and `Folder.write` find a file by its path.
- `Desk` is the state in which a program runs.
-/

namespace Gamebook

namespace Cli

/-! ## Folders -/

/-- Files by their paths from the folder, written without needless dots and slashes.  A folder
within it is there while there are files in it.  A path that starts with `..` or with a slash is
that of a file in the folders around; nothing is in those before a program puts it there. -/
structure Folder where
  files : Table String String := Table.empty

namespace Folder

/-- What is at the end of a path. -/
inductive Place where
  | file (key : String)
  | folder
  /-- Nothing, but a file could be put there. -/
  | free (key : String)

/-- There are files in the folder with this path. -/
def holdsFolder (f : Folder) (key : String) : Bool :=
  f.files.keys.any fun k => (key ++ "/").isPrefixOf k

/-- How many bytes a part of a path may have. -/
def longestName : Nat := 255

/-- How many bytes a path may have. -/
def longestPath : Nat := 4095

/-- A part of a path that stays where it is. -/
def staysPut (name : String) : Bool :=
  name = "" || name = "."

/-- Where a path starts: at the root if a slash comes first, else in the folder itself. -/
def origin (path : String) : List String :=
  if "/".isPrefixOf path then [""] else []

/-- The folder around a folder.  The root is the folder around itself. -/
def around (here : List String) : List String :=
  match here.getLast? with
  | none | some ".." => here ++ [".."]
  | some "" => here
  | some _ => here.dropLast

/-- Follows the parts of a path from a folder. -/
def follow (f : Folder) (here : List String) : List String → Except FileFault Place
  | [] => .ok .folder
  | name :: rest =>
    let next := here ++ [name]
    let key := "/".intercalate next
    if staysPut name then f.follow here rest
    else if name = ".." then f.follow (around here) rest
    else if name.utf8ByteSize > longestName then .error .nameTooLong
    else if f.files.contains key then
      if rest = [] then .ok (.file key) else .error .notFolder
    else if f.holdsFolder key then f.follow next rest
    else if rest = [] then .ok (.free key)
    else .error .missing

/-- Finds what is at the end of a path that has these parts. -/
def locate (f : Folder) (path : String) (parts : List String) : Except FileFault Place :=
  if path.utf8ByteSize > longestPath then .error .nameTooLong else f.follow (origin path) parts

/-- The text of the file at a path. -/
def read (f : Folder) (path : String) : Except FileFault String := do
  match ← f.locate path (path.splitOn "/") with
  | .file key => .ok ((f.files.find? key).getD "")
  | .folder => .error .isFolder
  | .free _ => .error .missing

/-- The path without the slashes at its end, which say that a folder is meant. -/
def withoutSlash (path : String) : String :=
  String.ofList (path.toList.reverse.dropWhile (· = '/')).reverse

/-- Finds the place for a file at a path.  Where a folder is meant, its own name is not looked up.
-/
def place (f : Folder) (path : String) : Except FileFault Place :=
  let bare := withoutSlash path
  let parts := bare.splitOn "/"
  f.locate path (if bare = path then parts else parts.dropLast ++ ["."])

/-- The folder with a text in the file at a path, which is made where it does not exist. -/
def write (f : Folder) (path text : String) : Except FileFault Folder := do
  match ← f.place path with
  | .file key | .free key => .ok { f with files := f.files.insert key text }
  | .folder => .error .isFolder

/-- The path is that of a file in the folder or in a folder within. -/
def isInside (key : String) : Bool :=
  !("../".isPrefixOf key || "/".isPrefixOf key)

/-- The files in the folder and in the folders within, by their paths. -/
def contents (f : Folder) : List (String × String) :=
  f.files.entries.filter fun e => isInside e.1

end Folder

/-! ## Desks -/

/-- The lines of an input with their line breaks; a last line may have none. -/
def inputLines (text : String) : List String :=
  let pieces := Text.lines text
  pieces.dropLast.map (· ++ "\n") ++ (pieces.getLast?.toList.filter fun last => !last.isEmpty)

/-- The surroundings of a program as a value. -/
structure Desk where
  folder : Folder := {}
  /-- The lines that have not been read. -/
  input : List String := []
  output : String := ""
  errors : String := ""

namespace Desk

/-- Takes the next line of input. -/
def takeLine (d : Desk) : Option String × Desk :=
  (d.input.head?, { d with input := d.input.tail })

/-- Writes a file; where that fails nothing changes. -/
def store (d : Desk) (path text : String) : Except FileFault Unit × Desk :=
  match d.folder.write path text with
  | .ok folder => (.ok (), { d with folder })
  | .error fault => (.error fault, d)

end Desk

instance : Console (StateM Desk) where
  print text := modify fun d => { d with output := d.output ++ text }
  complain text := modify fun d => { d with errors := d.errors ++ text }
  nextLine := modifyGet Desk.takeLine
  readFile path := return (← get).folder.read path
  writeFile path text := modifyGet fun d => d.store path text

end Cli

end Gamebook
