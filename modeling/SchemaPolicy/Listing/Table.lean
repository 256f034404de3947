import SchemaPolicy.Collection.Basic
import SchemaPolicy.Text.Lines

/-! The listing of collections as a table: a heading, a row for each collection, and their
number. -/

namespace SchemaPolicy.Listing

/-- A text filled up with spaces to a width; a longer text stays as it is. -/
def padded (width : Nat) (text : String) : List Char :=
  text.toList ++ List.replicate (width - text.length) ' '

/-- Who may use a collection: the permission for each operation, `public` for a read that is open
to all, and a dash for an operation that is switched off. -/
def summary : Protection → String
  | .docPerUser => "owner"
  | .docPerTenant read write => s!"read={read} write={write}"
  | .indexedByTenant permissions switches =>
    let read := if switches.publicRead then "public" else permissions.read
    let update := if switches.update then permissions.update else "-"
    let delete := if switches.delete then permissions.delete else "-"
    s!"read={read} create={permissions.write} update={update} delete={delete}"

/-- The heading of the table: the names of its columns above a line of dashes. -/
def heading : List Char :=
  padded 24 "Collection" ++ ' ' :: padded 20 "Pattern" ++ ' ' :: padded 20 "Type" ++
    " Permissions\n".toList ++ List.replicate 90 '-' ++ ['\n']

/-- The row of a collection. The pattern is not filled up. -/
def row (descriptor : Descriptor) : List Char :=
  padded 24 descriptor.name ++ ' ' :: descriptor.protection.pattern.spelling.toList ++
    ' ' :: padded 20 descriptor.typeName ++ ' ' :: (summary descriptor.protection).toList ++ ['\n']

/-- The listing of collections as a table. -/
def table (descriptors : List Descriptor) : String :=
  String.ofList (heading ++ descriptors.flatMap row ++
    s!"\n{descriptors.length} collection(s)\n".toList)

end SchemaPolicy.Listing
