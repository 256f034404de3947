import SchemaPolicy.Listing.Json
import SchemaPolicy.Proofs.Json
import SchemaPolicy.Proofs.Text.Lines

/-! The listing of collections as a JSON array is a JSON text, and the collections can be read from
it again, by the names of the fields. -/

namespace SchemaPolicy.Listing

open Json (Spells Quotes Writes WritesItems WritesFields isSpace isSpace_newline)

/-! ### Reading a listing -/

/-- The text in a field of an object. -/
def text? (fields : List (String × Json)) (name : String) : Option String :=
  match fields.lookup name with
  | some (.string text) => some text
  | _ => none

/-- The truth value in a field of an object. -/
def flag? (fields : List (String × Json)) (name : String) : Option Bool :=
  match fields.lookup name with
  | some (.boolean flag) => some flag
  | _ => none

/-- The protection that the fields of an object tell, with the settings that its pattern uses. -/
def protection? (fields : List (String × Json)) : Option Protection := do
  match ← AccessPattern.ofSpelling? (← text? fields "type") with
  | .indexedByTenant =>
    return .indexedByTenant
      { read := ← text? fields Permission.read.argument
        write := ← text? fields Permission.write.argument
        update := ← text? fields Permission.update.argument
        delete := ← text? fields Permission.delete.argument }
      { publicRead := ← flag? fields Switch.publicRead.argument
        update := ← flag? fields Switch.update.argument
        delete := ← flag? fields Switch.delete.argument }
  | .docPerTenant =>
    return .docPerTenant (← text? fields Permission.read.argument)
      (← text? fields Permission.write.argument)
  | .docPerUser => return .docPerUser

/-- The collection that a JSON object lists. -/
def descriptor? : Json → Option Descriptor
  | .object fields => do
    return {
      typeName := ← text? fields "typeName"
      name := ← text? fields "name"
      protection := ← protection? fields }
  | _ => none

/-- The collections that a JSON array of objects lists. -/
def descriptors? (text : String) : Option (List Descriptor) :=
  match Json.ofText? text with
  | some (.array items) => items.mapM descriptor?
  | _ => none

/-! ### What is listed -/

/-- The JSON value of a field. -/
def FieldValue.toJson : FieldValue → Json
  | text content => .string content
  | flag value => .boolean value

/-- The JSON object for a collection. -/
def toJson (descriptor : Descriptor) : Json :=
  .object ((fields descriptor).map fun field => (field.1, field.2.toJson))

theorem descriptor?_toJson (descriptor : Descriptor) :
    descriptor? (toJson descriptor) = some descriptor := by
  obtain ⟨⟨name, protection⟩, typeName⟩ := descriptor
  cases protection <;> rfl

theorem mapM_descriptor?_toJson (descriptors : List Descriptor) :
    (descriptors.map toJson).mapM descriptor? = some descriptors := by
  induction descriptors with
  | nil => rfl
  | cons descriptor descriptors ih =>
    rw [List.map_cons, List.mapM_cons, descriptor?_toJson, ih]
    rfl

/-! ### How it is written -/

theorem charOfDigits?_escaped : ∀ n < 0x20, Text.charOfDigits?
    ['0', '0', Nat.digitChar (n / 16), Nat.digitChar (n % 16)] = some (Char.ofNat n) := by
  decide

theorem spells_escapedChar (c : Char) : Spells c (escapedChar c) := by
  unfold escapedChar
  split
  case h_8 hquote hslash _ _ _ _ _ =>
    split
    · next hcontrol =>
      have hcode := charOfDigits?_escaped c.toNat hcontrol
      rw [Char.ofNat_toNat] at hcode
      exact .code hcode
    · next hvisible =>
      have hcode : 0x20 ≤ c.toNat := Nat.le_of_not_lt hvisible
      have hother : c ≠ '"' ∧ c ≠ '\\' := ⟨hquote, hslash⟩
      exact .plain (by simp [Json.isPlain, hcode, hother])
  all_goals exact .letter rfl

theorem writes_quoted (text : String) : Writes (.string text) (quoted text) := by
  have hquotes : Quotes text.toList (text.toList.flatMap escapedChar ++ ['"']) := by
    induction text.toList with
    | nil => exact .done
    | cons c text ih =>
      rw [List.flatMap_cons, List.append_assoc]
      exact .char (spells_escapedChar c) ih
  have hwrites := Writes.string hquotes
  rwa [String.ofList_toList] at hwrites

theorem writes_render (value : FieldValue) : Writes value.toJson value.render := by
  cases value with
  | text content => exact writes_quoted content
  | flag flag =>
    cases flag with
    | true => exact .yes
    | false => exact .no

/-- Fields with commas and line breaks between them, and white space behind the last. -/
theorem writesFields_joinWith {fields : List (String × FieldValue)} (h : fields ≠ [])
    {space : List Char} (hspace : ∀ c ∈ space, isSpace c = true) :
    WritesFields (fields.map fun field => (field.1, field.2.toJson))
      (Text.joinWith ",\n".toList (fields.map fieldLine) ++ space) := by
  induction fields with
  | nil => contradiction
  | cons field fields ih =>
    -- A line is cut at its colon, and the break behind its comma goes to the next line.
    have hname : Writes (.string field.1) ("    ".toList ++ quoted field.1) :=
      (writes_quoted field.1).space_append (by simp [isSpace])
    have hvalue : Writes field.2.toJson (' ' :: field.2.render) :=
      .before rfl (writes_render field.2)
    have hline : fieldLine field =
        ("    ".toList ++ quoted field.1) ++ ':' :: (' ' :: field.2.render) :=
      List.append_assoc ("    ".toList ++ quoted field.1) ": ".toList field.2.render
    by_cases hfields : fields = []
    · subst hfields
      have hwrites := WritesFields.last hname (hvalue.append_space hspace)
      simpa [Text.joinWith, hline] using hwrites
    · have hwrites := WritesFields.more hname hvalue ((ih hfields).before isSpace_newline)
      rw [List.map_cons, List.map_cons, Text.joinWith_cons_of_ne_nil _ _ (by simpa using hfields),
        hline]
      simpa using hwrites

theorem writes_object (descriptor : Descriptor) :
    Writes (toJson descriptor) (object descriptor) := by
  have hfields : WritesFields ((fields descriptor).map fun field => (field.1, field.2.toJson))
      (Text.joinWith ",\n".toList ((fields descriptor).map fieldLine) ++ "\n  ".toList) :=
    writesFields_joinWith (by simp [fields]) (by simp [isSpace])
  have hwrites := Writes.object (hfields.before isSpace_newline)
  have hmargin : ∀ c ∈ "  ".toList, isSpace c = true := by simp [isSpace]
  simpa [object, toJson] using hwrites.space_append hmargin

/-- Objects with commas and line breaks between them, and white space behind the last. -/
theorem writesItems_joinWith {descriptors : List Descriptor} (h : descriptors ≠ [])
    {space : List Char} (hspace : ∀ c ∈ space, isSpace c = true) :
    WritesItems (descriptors.map toJson)
      (Text.joinWith ",\n".toList (descriptors.map object) ++ space) := by
  induction descriptors with
  | nil => contradiction
  | cons descriptor descriptors ih =>
    by_cases hdescriptors : descriptors = []
    · subst hdescriptors
      exact .last ((writes_object descriptor).append_space hspace)
    · have hwrites := WritesItems.more (writes_object descriptor)
        ((ih hdescriptors).before isSpace_newline)
      rw [List.map_cons, List.map_cons,
        Text.joinWith_cons_of_ne_nil _ _ (by simpa using hdescriptors)]
      simpa using hwrites

theorem writes_json (descriptors : List Descriptor) :
    Writes (.array (descriptors.map toJson)) (json descriptors).toList := by
  by_cases h : descriptors = []
  · subst h
    have hempty : Writes (.array []) ['[', ']'] :=
      .emptyArray fun _ hc => absurd hc List.not_mem_nil
    exact hempty.after rfl
  · have hitems : WritesItems (descriptors.map toJson)
        (Text.joinWith ",\n".toList (descriptors.map object) ++ ['\n']) :=
      writesItems_joinWith h (by simp [isSpace])
    have hwrites := (Writes.array (hitems.before isSpace_newline)).after isSpace_newline
    simpa [json, h] using hwrites

/-- Whatever is listed can be read from the listing again. -/
theorem descriptors?_json (descriptors : List Descriptor) :
    descriptors? (json descriptors) = some descriptors := by
  rw [descriptors?, Json.ofText?_of_writes (writes_json descriptors)]
  exact mapM_descriptor?_toJson descriptors

end SchemaPolicy.Listing
