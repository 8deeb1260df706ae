namespace ComputedColumns.CommandLine

inductive FileError where
  | notFound
  | isDirectory
  | notDirectory
  | other (message : String)
  deriving DecidableEq

def FileError.message : FileError → String
  | notFound => "No such file or directory (os error 2)"
  | isDirectory => "Is a directory (os error 21)"
  | notDirectory => "Not a directory (os error 20)"
  | other message => message

/-- What can be read of a file: a text, and the problem behind it where the file breaks off. -/
structure Content where
  text : String
  problem : Option String

namespace Content

def ofBytesFrom (bytes : ByteArray) (place : Nat) (before : List Char) : Content :=
  if place < bytes.size then
    match bytes.utf8DecodeChar? place with
    | some c => ofBytesFrom bytes (place + c.utf8Size) (c :: before)
    | none => ⟨String.ofList before.reverse, some ("invalid UTF-8 near byte " ++ Nat.repr place)⟩
  else ⟨String.ofList before.reverse, none⟩
termination_by bytes.size - place
decreasing_by
  have positive := c.utf8Size_pos
  omega

def ofBytes (bytes : ByteArray) : Content := ofBytesFrom bytes 0 []

end Content

/-- What files have by their paths unless they cannot be opened, and what stands in the way of writing
one. -/
structure Files where
  read : String → Except FileError Content
  obstacle : String → Option FileError

structure Folder where
  files : List (String × String)

namespace Folder

def names (path : String) : List String :=
  ((path.toList.splitOn '/').filter fun name => !name.isEmpty && name ≠ ['.']).map String.ofList

def steps (path : List Char) : List String :=
  (path.splitOn '/').map fun name => if name.isEmpty then "." else String.ofList name

def find? (folder : Folder) (place : List String) : Option String :=
  (folder.files.find? fun (path, _) => names path = place).map (·.2)

def hasFolder (folder : Folder) (place : List String) : Bool :=
  place.isEmpty || folder.files.any fun (path, _) =>
    place.isPrefixOf (names path) && place.length < (names path).length

inductive Target where
  | folder
  | file (place : List String) (text : String)
  | free (place : List String)
  | outside
  deriving DecidableEq

/-- Of the folders around nothing is known, so every name in them is taken for free. -/
def followOutside : List String → Except FileError Target
  | [] => .ok .folder
  | step :: rest =>
    if step = "." || step = ".." then followOutside rest
    else if rest.isEmpty then .ok .outside
    else .error .notFound

def follow (folder : Folder) (place : List String) : List String → Except FileError Target
  | [] => .ok .folder
  | step :: rest =>
    if step = "." then folder.follow place rest
    else if step = ".." then
      if place.isEmpty then followOutside rest else folder.follow place.dropLast rest
    else
      let next := place ++ [step]
      if folder.hasFolder next then folder.follow next rest
      else
        match folder.find? next, rest with
        | some text, [] => .ok (.file next text)
        | some _, _ :: _ => .error .notDirectory
        | none, [] => .ok (.free next)
        | none, _ :: _ => .error .notFound

def target (folder : Folder) (path : List Char) : Except FileError Target :=
  if path.head? = some '/' then followOutside (steps path) else folder.follow [] (steps path)

def read (folder : Folder) (path : String) : Except FileError Content :=
  match folder.target path.toList with
  | .ok (.file _ text) => .ok ⟨text, none⟩
  | .ok .folder => .ok ⟨"", some FileError.isDirectory.message⟩
  | .ok (.free _) | .ok .outside => .error .notFound
  | .error e => .error e

/-- A path that ends with a slash names a folder, even where there is none yet. -/
def obstacle (folder : Folder) (path : String) : Option FileError :=
  let slashes := path.toList.reverse.takeWhile (· = '/')
  match folder.target (path.toList.take (path.length - slashes.length)) with
  | .ok .folder => some .isDirectory
  | .ok _ => if slashes.isEmpty then none else some .isDirectory
  | .error e => some e

def toFiles (folder : Folder) : Files := ⟨folder.read, folder.obstacle⟩

def put (folder : Folder) (place : List String) (text : String) : Folder :=
  ⟨folder.files.filter (fun (path, _) => names path ≠ place) ++ [(String.intercalate "/" place, text)]⟩

def write (folder : Folder) (path text : String) : Folder :=
  match folder.target path.toList with
  | .ok (.file place _) | .ok (.free place) => folder.put place text
  | _ => folder

def text? (folder : Folder) (path : String) : Option String :=
  match folder.read path with
  | .ok ⟨text, none⟩ => some text
  | _ => none

end Folder

end ComputedColumns.CommandLine
