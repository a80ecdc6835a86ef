import ValueBuilder.Text.Quoted

/-!
# Files

Paths, and what goes wrong when a file is read. A path is kept in its plain form: without empty
components and without components of a single dot, but with those of two dots, which only the file
system can follow.

`Folder` is a working folder with some files in it, as a value. `Folder.read` follows a path the way
a file system does: from one component to the next, each in the folder that the ones before it lead
to.
-/

namespace ValueBuilder.Command

/-- A path in plain form. -/
structure Path where
  /-- The slashes that it starts with. -/
  root : String := ""
  /-- Its components. -/
  components : List String
  deriving DecidableEq, Repr

namespace Path

/-- The texts between the slashes of a text. -/
def splitSlashes : List Char → List (List Char)
  | [] => [[]]
  | c :: cs =>
    if c = '/' then [] :: splitSlashes cs
    else
      match splitSlashes cs with
      | [] => [[c]]
      | s :: ss => (c :: s) :: ss

/-- The slashes that the plain form of a path starts with: two stay two, more become one. -/
def rootOf (s : List Char) : String :=
  match (s.takeWhile (· == '/')).length with
  | 0 => ""
  | 2 => "//"
  | _ => "/"

/-- The path that a text means. -/
def ofString (text : String) : Path where
  root := rootOf text.toList
  components :=
    ((splitSlashes text.toList).filter fun s => s != [] && s != ['.']).map String.ofList

/-- A path as text; the working folder itself is a dot. -/
def toString (p : Path) : String :=
  if p.root = "" ∧ p.components = [] then "." else p.root ++ "/".intercalate p.components

end Path

/-- Why a file is not read. -/
inductive FileFault where
  /-- There is none of that name. -/
  | notFound
  /-- It is a folder. -/
  | isFolder
  /-- A file is used as a folder. -/
  | notFolder
  /-- A name is too long. -/
  | nameTooLong
  /-- The path holds a character that ends it. -/
  | nullCharacter
  /-- The system refuses for another reason, which it gives by number and in words. -/
  | refused (code : Nat) (words : String)
  deriving DecidableEq, Repr

/-- The message for a file that is not read. -/
def FileFault.message (f : FileFault) (p : Path) : String :=
  let place := ": " ++ Text.quoted p.toString
  match f with
  | .notFound => "[Errno 2] No such file or directory" ++ place
  | .isFolder => "[Errno 21] Is a directory" ++ place
  | .notFolder => "[Errno 20] Not a directory" ++ place
  | .nameTooLong => "[Errno 36] File name too long" ++ place
  | .nullCharacter => "embedded null byte"
  | .refused code words => "[Errno " ++ Nat.repr code ++ "] " ++ words ++ place

/-- A way to read files. -/
abbrev Reader := Path → Except FileFault (List UInt8)

/-- A working folder with files in it. -/
structure Folder where
  /-- The files, each by the components of its path. Of several with one path the first counts. -/
  files : List (List String × List UInt8)

namespace Folder

/-- The folder after a file was written. A file of the same name is written over. -/
def write (f : Folder) (p : Path) (bytes : List UInt8) : Folder :=
  ⟨(p.components, bytes) :: f.files⟩

/-- The bytes that a name may have. -/
def greatestName : Nat := 255

/-- The bytes that a path may have. -/
def greatestPath : Nat := 4095

/-- A Boolean test that a file lies inside of a folder. -/
def isFolder (f : Folder) (place : List String) : Bool :=
  f.files.any fun file => place.isPrefixOf file.1 && place.length < file.1.length

/-- Follows the components of a path from a place inside of the folder. A way out of the folder
leads to folders whose files are not known. -/
def follow (f : Folder) : Option (List String) → List String → Except FileFault (List UInt8)
  | _, [] => .error .isFolder
  | none, ".." :: names => f.follow none names
  | none, name :: _ =>
    if greatestName < name.utf8ByteSize then .error .nameTooLong else .error .notFound
  | some place, ".." :: names =>
    f.follow (if place = [] then none else some place.dropLast) names
  | some place, name :: names =>
    if greatestName < name.utf8ByteSize then .error .nameTooLong
    else
      let place := place ++ [name]
      match f.files.lookup place with
      | some bytes => if names = [] then .ok bytes else .error .notFolder
      | none => if f.isFolder place then f.follow (some place) names else .error .notFound

/-- Reads a file of the folder. -/
def read (f : Folder) : Reader := fun p =>
  if p.toString.toList.contains '\x00' then .error .nullCharacter
  else if greatestPath < p.toString.utf8ByteSize then .error .nameTooLong
  else f.follow (if p.root = "" then some [] else none) p.components

end Folder

end ValueBuilder.Command
