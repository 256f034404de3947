import SchemaPolicy.Path.Basic

/-! A tree of files, and the working directory in it. `FileTree.lookup?` is its view: what stands at
a location. -/

namespace SchemaPolicy

/-- Where something stands: the names that lead to it from the root directory. -/
abbrev Location := List (List Char)

/-- What a file holds: a text, or bytes that are no text. -/
inductive Content where
  | text (text : String)
  | binary (bytes : List UInt8)
deriving DecidableEq, Repr

/-- The content of a file by its bytes, which are a text if they are well-formed UTF-8. -/
def Content.ofBytes (bytes : List UInt8) : Content :=
  match String.fromUTF8? ⟨bytes.toArray⟩ with
  | some decoded => .text decoded
  | none => .binary bytes

/-- What stands at a location. The content of a directory is given by the locations below it. -/
inductive Entry where
  | directory
  | file (content : Content)
deriving DecidableEq, Repr

/-- Files and directories by location. The working directory and all above it are there without an
entry. -/
structure FileTree where
  entries : List (Location × Entry) := []
  workingDir : Location := []
  /-- The locations that may not be touched, each with what is said to one who tries: a file there
  is neither read nor written, and nothing is looked up or made in a directory there. -/
  barred : List (Location × String) := []
deriving DecidableEq, Repr

namespace FileTree

/-- The first entry at a location, of a list of entries. -/
def entryIn (location : Location) : List (Location × Entry) → Option Entry
  | [] => none
  | head :: others => if head.1 = location then some head.2 else entryIn location others

/-- What stands at a location, whether it may be touched or not. -/
def lookup? (tree : FileTree) (location : Location) : Option Entry :=
  if location.isPrefixOf tree.workingDir then some .directory else entryIn location tree.entries

/-- What is said of a location that may not be touched. -/
def bar? (tree : FileTree) (location : Location) : Option String :=
  tree.barred.lookup location

/-- Bars without those on a location. -/
def unbarred (location : Location) (bars : List (Location × String)) : List (Location × String) :=
  bars.filter (·.1 ≠ location)

/-- Entries with another one at a location, in place of the one that was there. -/
def replaceIn (location : Location) (entry : Entry) :
    List (Location × Entry) → List (Location × Entry)
  | [] => [(location, entry)]
  | head :: others =>
    if head.1 = location then (location, entry) :: others
    else head :: replaceIn location entry others

/-- The tree with an entry at a location, which may be touched from then on. -/
def put (tree : FileTree) (location : Location) (entry : Entry) : FileTree :=
  { tree with
    entries := replaceIn location entry tree.entries
    barred := unbarred location tree.barred }

/-- The tree without what stands at a location. -/
def erase (tree : FileTree) (location : Location) : FileTree :=
  { tree with
    entries := tree.entries.filter (·.1 ≠ location)
    barred := unbarred location tree.barred }

theorem entryIn_replaceIn (location other : Location) (entry : Entry)
    (entries : List (Location × Entry)) :
    entryIn other (replaceIn location entry entries) =
      if other = location then some entry else entryIn other entries := by
  induction entries with
  | nil => simp [replaceIn, entryIn, eq_comm]
  | cons head others ih => grind [replaceIn, entryIn]

theorem replaceIn_replaceIn (location : Location) (first second : Entry)
    (entries : List (Location × Entry)) :
    replaceIn location second (replaceIn location first entries) =
      replaceIn location second entries := by
  induction entries with
  | nil => simp [replaceIn]
  | cons head others ih => by_cases h : head.1 = location <;> simp [replaceIn, h, ih]

theorem lookup_unbarred (location other : Location) (bars : List (Location × String)) :
    (unbarred location bars).lookup other =
      if other = location then none else bars.lookup other := by
  induction bars with
  | nil => simp [unbarred]
  | cons head others ih => grind [unbarred]

@[simp] theorem workingDir_put (tree : FileTree) (location : Location) (entry : Entry) :
    (tree.put location entry).workingDir = tree.workingDir := rfl

/-- A new entry shows at its location, unless that is above the working directory, and nowhere
else. -/
theorem lookup?_put (tree : FileTree) (location other : Location) (entry : Entry) :
    (tree.put location entry).lookup? other =
      if other.isPrefixOf tree.workingDir then some .directory
      else if other = location then some entry else tree.lookup? other := by
  by_cases h : other.isPrefixOf tree.workingDir <;> simp [lookup?, put, h, entryIn_replaceIn]

/-- A new entry may be touched, and no other bar goes or comes. -/
theorem bar?_put (tree : FileTree) (location other : Location) (entry : Entry) :
    (tree.put location entry).bar? other =
      if other = location then none else tree.bar? other :=
  lookup_unbarred location other tree.barred

@[simp] theorem put_put (tree : FileTree) (location : Location) (first second : Entry) :
    (tree.put location first).put location second = tree.put location second := by
  simp [put, unbarred, replaceIn_replaceIn]

end FileTree

end SchemaPolicy
