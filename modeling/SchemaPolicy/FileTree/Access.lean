import SchemaPolicy.FileTree.Basic
import SchemaPolicy.Text.Bytes

/-! Access to a tree of files by path: where a path leads, what reading finds there, and what
writing changes. To learn that something is there, only the directories on the way have to be open;
to read it or to write it, it has to be open itself. -/

namespace SchemaPolicy

/-- Why a file cannot be used. -/
inductive FileFault where
  | notFound
  | notDirectory
  | isDirectory
  | notText
  | nulInPath
  | nameTooLong
  /-- Something along the path may not be touched. -/
  | other (reason : String)
deriving DecidableEq, Repr

/-- A fault in words. -/
def FileFault.message : FileFault → String
  | notFound => "No such file or directory (os error 2)"
  | notDirectory => "Not a directory (os error 20)"
  | isDirectory => "Is a directory (os error 21)"
  | notText => "stream did not contain valid UTF-8"
  | nulInPath => "file name contained an unexpected NUL byte"
  | nameTooLong => "File name too long (os error 36)"
  | other reason => reason

namespace FileTree

/-- The directory in which a path starts. -/
def start (tree : FileTree) (path : Path) : Location :=
  if path.isAbsolute then [] else tree.workingDir

/-- The most bytes that a path may take. -/
def pathLimit : Nat := 4095

/-- The most bytes that one name in a path may take. -/
def nameLimit : Nat := 255

/-- What is asked of a path before it is followed at all. -/
def check (path : Path) : Except FileFault Unit :=
  if path.text.toList = [] then .error .notFound
  else if '\x00' ∈ path.text.toList then .error .nulInPath
  else if Text.byteSize path.text.toList > pathLimit then .error .nameTooLong
  else .ok ()

/-- Lets everyone through who may touch a location. -/
def pass (tree : FileTree) (location : Location) : Except FileFault Unit :=
  match tree.bar? location with
  | none => .ok ()
  | some reason => .error (.other reason)

/-- Where a piece leads that is looked up in a directory. -/
def enter (tree : FileTree) (location : Location) (piece : List Char) :
    Except FileFault Location :=
  if Path.isIdle piece then .ok location
  else if piece = ['.', '.'] then .ok location.dropLast
  else if Text.byteSize piece > nameLimit then .error .nameTooLong
  else if (tree.lookup? (location ++ [piece])).isSome then .ok (location ++ [piece])
  else .error .notFound

/-- Follows one piece of a path. Even a piece that names nothing can only follow a directory, and
all but an empty one are looked up in it. -/
def follow (tree : FileTree) (location : Location) (piece : List Char) :
    Except FileFault Location :=
  match tree.lookup? location with
  | some .directory =>
    if piece = [] then .ok location
    else do
      tree.pass location
      tree.enter location piece
  | _ => .error .notDirectory

/-- Where a path leads. -/
def locate (tree : FileTree) (path : Path) : Except FileFault Location := do
  check path
  (Path.pieces path.text.toList).foldlM tree.follow (tree.start path)

/-- What stands where a path leads. It may be barred itself. -/
def entryAt (tree : FileTree) (path : Path) : Except FileFault Entry := do
  match tree.lookup? (← tree.locate path) with
  | some entry => return entry
  | none => throw .notFound

/-- What is found by one who opens a path. -/
def find (tree : FileTree) (path : Path) : Except FileFault Entry := do
  let entry ← tree.entryAt path
  tree.pass (← tree.locate path)
  return entry

/-- Whether a path leads to a file. A path that cannot be followed, for whatever reason, leads to
none. -/
def isFile (tree : FileTree) (path : Path) : Bool :=
  match tree.entryAt path with
  | .ok (.file _) => true
  | _ => false

/-- Whether a path leads to anything. -/
def isPresent (tree : FileTree) (path : Path) : Bool :=
  match tree.entryAt path with
  | .ok _ => true
  | .error _ => false

/-- The text of the file to which a path leads. -/
def read (tree : FileTree) (path : Path) : Except FileFault String := do
  match ← tree.find path with
  | .file (.text text) => return text
  | .file (.binary _) => throw .notText
  | .directory => throw .isDirectory

/-- The place of a file under a name in a directory. A file that is there already has to be open. -/
def slot (tree : FileTree) (parent : Location) (name : List Char) : Except FileFault Location :=
  if Text.byteSize name > nameLimit then .error .nameTooLong
  else
    match tree.lookup? (parent ++ [name]) with
    | some .directory => .error .isDirectory
    | some (.file _) => do
      tree.pass (parent ++ [name])
      return parent ++ [name]
    | none => .ok (parent ++ [name])

/-- Where a file is put that is written to a path. Its directory has to be there and open; a path
that ends in a slash or a dot can only be that of a directory. -/
def destination (tree : FileTree) (path : Path) : Except FileFault Location := do
  check path
  match (Path.pieces path.text.toList).reverse.dropWhile (· = []) with
  | [] => throw .isDirectory
  | last :: others =>
    let parent ← others.reverse.foldlM tree.follow (tree.start path)
    unless tree.lookup? parent = some .directory do throw .notDirectory
    tree.pass parent
    if path.text.toList.getLast? = some '/' ∨ last = ['.'] ∨ last = ['.', '.'] then
      throw .isDirectory
    tree.slot parent last

/-- The tree with a text in a file, in place of what the file held. -/
def write (tree : FileTree) (path : Path) (text : String) : Except FileFault FileTree := do
  return tree.put (← tree.destination path) (.file (.text text))

/-- Where the pieces of a path lead from a location if every name is a directory's, and the
directories on the way, the last first. -/
def trail : List Location → Location → List (List Char) → List Location
  | passed, _, [] => passed
  | passed, location, piece :: pieces =>
    if Path.isIdle piece then trail passed location pieces
    else if piece = ['.', '.'] then trail passed location.dropLast pieces
    else trail ((location ++ [piece]) :: passed) (location ++ [piece]) pieces

/-- The tree with a directory wherever a path needs one that is not there. -/
def makeDirectories (tree : FileTree) (path : Path) : FileTree :=
  (trail [] (tree.start path) (Path.pieces path.text.toList)).foldr
    (fun location tree =>
      if (tree.lookup? location).isSome then tree else tree.put location .directory) tree

/-- The tree with a file put at a path, and all directories that it needs. -/
def place (tree : FileTree) (path : Path) (content : Content) : Except FileFault FileTree := do
  let tree := path.parent?.elim tree tree.makeDirectories
  return tree.put (← tree.destination path) (.file content)

/-- The tree without what stands where a path leads. -/
def remove (tree : FileTree) (path : Path) : Except FileFault FileTree := do
  return tree.erase (← tree.locate path)

/-- Everything below the working directory, with the names that lead there from it. -/
def listing (tree : FileTree) : List (Location × Entry) :=
  tree.entries.filterMap fun (location, entry) =>
    match tree.workingDir.isPrefixOf? location with
    | none | some [] => none
    | some names => some (names, entry)

end FileTree

end SchemaPolicy
