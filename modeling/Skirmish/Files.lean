namespace Skirmish

inductive FileFault
  | notFound
  | isDirectory
  | notDirectory
  | notText
  deriving DecidableEq, Repr

def FileFault.message : FileFault → String
  | notFound => "No such file or directory (os error 2)"
  | isDirectory => "Is a directory (os error 21)"
  | notDirectory => "Not a directory (os error 20)"
  | notText => "stream did not contain valid UTF-8"

structure Files where
  files : List (List String × ByteArray)

namespace Files

def parts (path : String) : List String := path.splitOn "/"

def ofList (l : List (String × ByteArray)) : Files :=
  ⟨l.map fun (path, bytes) => (parts path, bytes)⟩

def file? (f : Files) (path : List String) : Option ByteArray := f.files.lookup path

def isDirectory (f : Files) (path : List String) : Bool :=
  path.isEmpty || f.files.any fun (p, _) => path.length < p.length && path.isPrefixOf p

def walk (f : Files) : List String → List String → Except FileFault ByteArray
  | _, [] => .error .isDirectory
  | here, part :: rest =>
    if part = "" ∨ part = "." then f.walk here rest
    else if part = ".." then
      if here.isEmpty then .error .notFound else f.walk here.dropLast rest
    else
      let next := here ++ [part]
      if f.isDirectory next then f.walk next rest
      else
        match f.file? next with
        | some bytes => if rest.isEmpty then .ok bytes else .error .notDirectory
        | none => .error .notFound

def read (f : Files) (path : String) : Except FileFault ByteArray :=
  if path.startsWith "/" then .error .notFound else f.walk [] (parts path)

def readText (f : Files) (path : String) : Except FileFault String := do
  let bytes ← f.read path
  match String.fromUTF8? bytes with
  | some text => return text
  | none => .error .notText

end Files

def parentPath (path : String) : String :=
  let directory := (Files.parts path).dropLast.reverse.dropWhile fun part => part = "" ∨ part = "."
  match directory.reverse with
  | [] => if path.startsWith "/" then "/" else ""
  | parts => "/".intercalate parts

def joinPath (directory path : String) : String :=
  if path.startsWith "/" ∨ directory.isEmpty then path
  else if directory.endsWith "/" then directory ++ path
  else directory ++ "/" ++ path

end Skirmish
