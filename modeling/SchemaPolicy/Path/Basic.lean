/-! Paths, as texts. Joining and taking the parent are done on the text alone: nothing is looked up
and nothing is normalised. -/

namespace SchemaPolicy

/-- A path as it is written. -/
structure Path where
  text : String
deriving DecidableEq, Repr, Inhabited

namespace Path

/-- Whether a path starts at the root directory. -/
def isAbsolute (path : Path) : Bool := path.text.toList.head? == some '/'

/-- The path of `other` as seen from `path`. A slash goes between them unless `path` ends in one
or is empty; an absolute path is seen alike from everywhere. -/
def join (path other : Path) : Path :=
  if other.isAbsolute then other
  else
    match path.text.toList.getLast? with
    | none | some '/' => ⟨path.text ++ other.text⟩
    | some _ => ⟨path.text ++ "/" ++ other.text⟩

/-- The pieces of a text between its slashes; there is one more than slashes. -/
def pieces : List Char → List (List Char)
  | [] => [[]]
  | '/' :: rest => [] :: pieces rest
  | c :: rest =>
    match pieces rest with
    | [] => [[c]]
    | piece :: others => (c :: piece) :: others

/-- The text of which these are the pieces. -/
def ofPieces : List (List Char) → List Char
  | [] => []
  | [piece] => piece
  | piece :: others => piece ++ '/' :: ofPieces others

/-- A piece that names nothing: it is empty or a single dot. -/
def isIdle (piece : List Char) : Bool := piece == [] || piece == ['.']

/-- A step of a path, or what stands in front of its steps. -/
inductive Component where
  | root
  /-- The directory where the path starts, written as a dot in front. -/
  | here
  | up
  | name (name : List Char)
deriving DecidableEq, Repr

/-- Splits off what stands before the steps by name: the slash of an absolute path, or the dot of
a path that is a dot or starts with a dot and a slash. -/
def splitLead : List Char → Option Component × List Char
  | '/' :: rest => (some .root, rest)
  | ['.'] => (some .here, [])
  | '.' :: '/' :: rest => (some .here, '/' :: rest)
  | body => (none, body)

/-- The step that a piece stands for. -/
def step (piece : List Char) : Component := if piece = ['.', '.'] then .up else .name piece

/-- The steps of a path. Doubled slashes, and dots other than one in front, are no steps. -/
def components (path : Path) : List Component :=
  let (lead, body) := splitLead path.text.toList
  lead.toList ++ ((pieces body).filter (!isIdle ·)).map step

/-- The spelling of what stands in front of the steps by name. -/
def leadText : Option Component → List Char
  | some .root => ['/']
  | some .here => ['.']
  | _ => []

/-- The path without its last step, if that is not the root directory. -/
def parent? (path : Path) : Option Path :=
  let (lead, body) := splitLead path.text.toList
  match (pieces body).reverse.dropWhile isIdle with
  | _ :: others =>
    some ⟨String.ofList (leadText lead ++ ofPieces (others.dropWhile isIdle).reverse)⟩
  | [] => if lead = some .here then some ⟨""⟩ else none

end Path

end SchemaPolicy
