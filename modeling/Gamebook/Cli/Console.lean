/-!
# The surroundings of a program

What the program reads from and writes to: a reader who types lines, two places for output, and
files. The program is written for any surroundings, so that it runs in a terminal as well as on a
`Desk` that is an ordinary value.
-/

namespace Gamebook

namespace Cli

/-- Why a file cannot be used. -/
inductive FileFault where
  /-- The system refuses, for a reason that it gives in words and as a number. -/
  | refused (reason : String) (code : Nat)
  /-- The bytes of the file are not text. -/
  | notText
  deriving Repr, DecidableEq

namespace FileFault

/-- There is no such file, or no such folder on the way to it. -/
def missing : FileFault := refused "No such file or directory" 2

/-- Something on the way to the file is not a folder. -/
def notFolder : FileFault := refused "Not a directory" 20

/-- There is a folder where a file is wanted. -/
def isFolder : FileFault := refused "Is a directory" 21

/-- The path or a part of it is too long. -/
def nameTooLong : FileFault := refused "File name too long" 36

/-- The text of a fault. -/
def message : FileFault → String
  | refused reason code => s!"{reason} (os error {code})"
  | notText => "stream did not contain valid UTF-8"

end FileFault

/-- The text of the bytes of a file. -/
def decodeText (bytes : ByteArray) : Except FileFault String :=
  match String.fromUTF8? bytes with
  | some text => .ok text
  | none => .error .notText

/-- What a program can do with its surroundings. -/
class Console (m : Type → Type) where
  /-- Writes to the output. -/
  print : String → m Unit
  /-- Writes to the place for errors. -/
  complain : String → m Unit
  /-- The next line of input with its line break; nothing where the input has ended. -/
  nextLine : m (Option String)
  readFile : String → m (Except FileFault String)
  writeFile : String → String → m (Except FileFault Unit)

section

variable {m : Type → Type} [Monad m] [Console m]

/-- A program that may fail has the same surroundings. -/
instance {ε : Type} : Console (ExceptT ε m) where
  print text := ExceptT.lift (Console.print text)
  complain text := ExceptT.lift (Console.complain text)
  nextLine := ExceptT.lift Console.nextLine
  readFile path := ExceptT.lift (Console.readFile path)
  writeFile path text := ExceptT.lift (Console.writeFile path text)

/-- Writes lines to the output. -/
def printLines (lines : List String) : m Unit :=
  Console.print (String.join (lines.map (· ++ "\n")))

/-- Writes lines to the place for errors. -/
def complainLines (lines : List String) : m Unit :=
  Console.complain (String.join (lines.map (· ++ "\n")))

/-- A character that ends a line. -/
def isLineEnd (c : Char) : Bool :=
  c = '\r' || c = '\n'

/-- A line without what ends it. -/
def withoutLineEnd (line : String) : String :=
  String.ofList (line.toList.reverse.dropWhile isLineEnd).reverse

/-- The next line of input without its end. -/
def askLine : m (Option String) := do
  return (← Console.nextLine).map withoutLineEnd

end

end Cli

end Gamebook
