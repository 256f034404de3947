import SchemaPolicy.Config.Basic
import SchemaPolicy.Proofs.Toml.Settings

/-! What a configuration says: under each key that a reader knows, the value of this key, or else
the default. Nothing else in the document has a part in it. -/

namespace SchemaPolicy

open Outcome Toml

/-! ### The settings of the rules document -/

namespace OutputSettings

/-- What stands under a key, as a text. -/
def get (settings : OutputSettings) : String → Option String
  | "service" => some settings.envelope.service
  | "rules-version" => settings.envelope.version?
  | "root" => some settings.envelope.root
  | "file" => settings.file?.map Path.text
  | _ => none

theorem knows : Knows keys set (readText keys) get where
  known := by
    intro key hkey settings value
    rw [readText, if_pos hkey]
    simp only [keys, List.mem_cons, List.not_mem_nil, or_false] at hkey
    rcases hkey with rfl | rfl | rfl | rfl
    all_goals
      refine (value.agree_asText _ _).bind fun text _ htext => .ok ⟨congrArg some htext, ?_⟩
      intro other hother
      unfold get
      split <;> first | rfl | contradiction
  set_unknown := by
    intro key hkey settings value
    unfold set
    split
    case h_5 => rfl
    all_goals
      next heq =>
        obtain ⟨rfl, -⟩ := Prod.mk.inj heq
        exact absurd (by decide) hkey
  read_unknown := fun hkey _ => if_neg hkey
  get_unknown := by
    intro key hkey settings
    unfold get
    split
    case h_5 => rfl
    all_goals exact absurd (by decide) hkey
  ext := by
    intro settings other h
    have hservice := Option.some.inj (h "service")
    have hversion : settings.envelope.version? = other.envelope.version? :=
      h "rules-version"
    have hroot := Option.some.inj (h "root")
    have hfile : settings.file? = other.file? :=
      Option.map_injective (fun ⟨_⟩ ⟨_⟩ htext => congrArg Path.mk htext) (h "file")
    obtain ⟨⟨service, version?, root⟩, file?⟩ := settings
    simp_all

/-- The settings that a table states. -/
def stated (entries : List (String × Value)) : OutputSettings where
  envelope := {
    service := (text? entries "service").getD "cloud.firestore"
    version? := some ((text? entries "rules-version").getD "2")
    root := (text? entries "root").getD "/databases/\x7bdatabase\x7d/documents" }
  file? := (text? entries "file").map Path.mk

theorem ofToml_table {entries : List (String × Value)} (nodup : (entries.map Prod.fst).Nodup)
    (hstring : ∀ key ∈ keys, ∀ value, entries.lookup key = some value →
      ∃ text, value = .string text) :
    ofToml (.table entries) = .ok (stated entries) := by
  refine knows.foldlM_texts nodup hstring fun key hkey => ?_
  simp only [keys, List.mem_cons, List.not_mem_nil, or_false] at hkey
  rcases hkey with rfl | rfl | rfl | rfl
  all_goals simp [get, stated, Function.comp_def]

end OutputSettings

/-! ### The settings of the schema -/

namespace SchemaSettings

/-- What stands under a key, as a text. -/
def get (settings : SchemaSettings) : String → Option String
  | "directive" => some settings.directive
  | "path" => some settings.path.text
  | _ => none

theorem knows : Knows keys set (readText keys) get where
  known := by
    intro key hkey settings value
    rw [readText, if_pos hkey]
    simp only [keys, List.mem_cons, List.not_mem_nil, or_false] at hkey
    rcases hkey with rfl | rfl
    all_goals
      refine (value.agree_asText _ _).bind fun text _ htext => .ok ⟨congrArg some htext, ?_⟩
      intro other hother
      unfold get
      split <;> first | rfl | contradiction
  set_unknown := by
    intro key hkey settings value
    unfold set
    split
    case h_3 => rfl
    all_goals
      next heq =>
        obtain ⟨rfl, -⟩ := Prod.mk.inj heq
        exact absurd (by decide) hkey
  read_unknown := fun hkey _ => if_neg hkey
  get_unknown := by
    intro key hkey settings
    unfold get
    split
    case h_3 => rfl
    all_goals exact absurd (by decide) hkey
  ext := by
    intro settings other h
    have hdirective := Option.some.inj (h "directive")
    have hpath := Option.some.inj (h "path")
    obtain ⟨directive, ⟨path⟩⟩ := settings
    obtain ⟨directive', ⟨path'⟩⟩ := other
    simp_all

/-- The settings that a table states. -/
def stated (entries : List (String × Value)) : SchemaSettings where
  directive := (text? entries "directive").getD "collection"
  path := ⟨(text? entries "path").getD "schema.graphql"⟩

theorem ofToml_table {entries : List (String × Value)} (nodup : (entries.map Prod.fst).Nodup)
    (hstring : ∀ key ∈ keys, ∀ value, entries.lookup key = some value →
      ∃ text, value = .string text) :
    ofToml (.table entries) = .ok (stated entries) := by
  refine knows.foldlM_texts nodup hstring fun key hkey => ?_
  simp only [keys, List.mem_cons, List.not_mem_nil, or_false] at hkey
  rcases hkey with rfl | rfl
  all_goals simp [get, stated]

end SchemaSettings

/-! ### The whole configuration -/

namespace Config

/-- What stands under a key. -/
def get (config : Config) : String → Option (OutputSettings ⊕ SchemaSettings)
  | "output" => some (.inl config.output)
  | "schema" => some (.inr config.schema)
  | _ => none

/-- What the value of a key tells, if the key is known. -/
def read : String → Value → Except Mismatch (Option (OutputSettings ⊕ SchemaSettings))
  | "output", value => do return some (.inl (← OutputSettings.ofToml value))
  | "schema", value => do return some (.inr (← SchemaSettings.ofToml value))
  | _, _ => .ok none

/-- The keys of the tables that make up a configuration. -/
def keys : List String := ["output", "schema"]

theorem knows : Knows keys set read get where
  known := by
    intro key hkey config value
    simp only [keys, List.mem_cons, List.not_mem_nil, or_false] at hkey
    rcases hkey with rfl | rfl
    · refine (agree_refl (OutputSettings.ofToml value)).bind ?_
      rintro settings _ rfl
      refine .ok ⟨rfl, fun other hother => ?_⟩
      unfold get
      split <;> first | rfl | contradiction
    · refine (agree_refl (SchemaSettings.ofToml value)).bind ?_
      rintro settings _ rfl
      refine .ok ⟨rfl, fun other hother => ?_⟩
      unfold get
      split <;> first | rfl | contradiction
  set_unknown := by
    intro key hkey config value
    unfold set
    split
    case h_3 => rfl
    all_goals
      next heq =>
        obtain ⟨rfl, -⟩ := Prod.mk.inj heq
        exact absurd (by decide) hkey
  read_unknown := by
    intro key hkey value
    unfold read
    split
    case h_3 => rfl
    all_goals exact absurd (by decide) hkey
  get_unknown := by
    intro key hkey config
    unfold get
    split
    case h_3 => rfl
    all_goals exact absurd (by decide) hkey
  ext := by
    intro config other h
    have houtput := Sum.inl.inj (Option.some.inj (h "output"))
    have hschema := Sum.inr.inj (Option.some.inj (h "schema"))
    obtain ⟨output, schema⟩ := config
    simp_all

end Config

/-- The entries of the table with some name in a document; of none, if there is no such table. -/
def Toml.tableAt (entries : List (String × Value)) (name : String) : List (String × Value) :=
  match entries.lookup name with
  | some (.table inner) => inner
  | _ => []

/-- Entries with nothing but texts. -/
def Toml.texts? : List (String × Value) → Option (List (String × String))
  | [] => some []
  | (key, .string text) :: entries => (texts? entries).map ((key, text) :: ·)
  | _ => none

theorem Toml.eq_map_of_texts? {entries : List (String × Value)} {texts : List (String × String)}
    (h : texts? entries = some texts) :
    entries = texts.map fun (key, text) => (key, .string text) := by
  fun_induction texts? entries generalizing texts with
  | case1 =>
    obtain rfl := Option.some.inj h
    rfl
  | case2 key text entries ih =>
    obtain ⟨others, hothers, rfl⟩ := Option.map_eq_some_iff.mp h
    rw [List.map_cons, ← ih hothers]
  | case3 => contradiction

/-- The texts of the table under a name, if it has nothing but texts. -/
def Toml.textsAt? (entries : List (String × Value)) (name : String) :
    Option (List (String × String)) :=
  match entries.lookup name with
  | some (.table inner) => texts? inner
  | _ => none

theorem Toml.lookup_of_textsAt? {entries : List (String × Value)} {name : String}
    {texts : List (String × String)} (h : textsAt? entries name = some texts) :
    entries.lookup name = some (.table (texts.map fun (key, text) => (key, .string text))) := by
  unfold textsAt? at h
  split at h
  · next inner hinner => rw [hinner, eq_map_of_texts? h]
  · contradiction

/-- What stands under a name in a document, if anything does, is a table with texts under some
keys. -/
def Toml.Tabular (keys : List String) (entries : List (String × Value)) (name : String) : Prop :=
  ∀ value, entries.lookup name = some value → ∃ inner, value = .table inner ∧
    ∀ key ∈ keys, ∀ found, inner.lookup key = some found → ∃ text, found = .string text

theorem Toml.tabular_of_lookup_eq_none {keys : List String} {entries : List (String × Value)}
    {name : String} (h : entries.lookup name = none) : Tabular keys entries name := by
  intro value hvalue
  rw [h] at hvalue
  contradiction

theorem Toml.tabular_of_textsAt? {keys : List String} {entries : List (String × Value)}
    {name : String} {texts : List (String × String)} (h : textsAt? entries name = some texts) :
    Tabular keys entries name := by
  intro value hvalue
  obtain rfl := Option.some.inj ((lookup_of_textsAt? h).symm.trans hvalue)
  refine ⟨_, rfl, fun key _ found hfound => ?_⟩
  obtain ⟨⟨_, text⟩, -, heq⟩ := List.mem_map.mp (mem_of_lookup_eq_some hfound)
  exact ⟨text, (Prod.mk.inj heq).2.symm⟩

theorem Toml.tableAt_of_textsAt? {entries : List (String × Value)} {name : String}
    {texts : List (String × String)} (h : textsAt? entries name = some texts) :
    tableAt entries name = texts.map fun (key, text) => (key, .string text) := by
  rw [tableAt, lookup_of_textsAt? h]

namespace Config

variable {entries entries' : List (String × Value)}

/-- The configuration is what its two tables state. -/
theorem ofEntries_eq_ok (h : Keyed Value.Distinct entries)
    (houtput : Tabular OutputSettings.keys entries "output")
    (hschema : Tabular SchemaSettings.keys entries "schema") :
    ofEntries entries = .ok ⟨OutputSettings.stated (tableAt entries "output"),
      SchemaSettings.stated (tableAt entries "schema")⟩ := by
  refine knows.foldlM_eq_ok h.nodup fun key hkey => ?_
  simp only [keys, List.mem_cons, List.not_mem_nil, or_false] at hkey
  unfold tableAt
  rcases hkey with rfl | rfl
  · cases hvalue : entries.lookup "output" with
    | none => rfl
    | some value =>
      obtain ⟨inner, rfl, hstring⟩ := houtput value hvalue
      have hread := OutputSettings.ofToml_table (h.distinct_of_lookup hvalue).nodup hstring
      rw [Option.elim_some, read, hread]
      rfl
  · cases hvalue : entries.lookup "schema" with
    | none => rfl
    | some value =>
      obtain ⟨inner, rfl, hstring⟩ := hschema value hvalue
      have hread := SchemaSettings.ofToml_table (h.distinct_of_lookup hvalue).nodup hstring
      rw [Option.elim_some, read, hread]
      rfl

theorem agree_ofEntries (h : Keyed Value.Distinct entries) (h' : Keyed Value.Distinct entries')
    (houtput : Option.Rel Value.Same (entries.lookup "output") (entries'.lookup "output"))
    (hschema : Option.Rel Value.Same (entries.lookup "schema") (entries'.lookup "schema")) :
    Agree Eq (ofEntries entries) (ofEntries entries') := by
  refine knows.agree_foldlM h.nodup h'.nodup fun key hkey => ?_
  simp only [keys, List.mem_cons, List.not_mem_nil, or_false] at hkey
  rcases hkey with rfl | rfl
  · refine agree_elim houtput fun value value' hvalue hvalue' hsame => ?_
    have hread : Agree Eq (OutputSettings.ofToml value) (OutputSettings.ofToml value') :=
      OutputSettings.knows.agree_texts (by decide) (h.distinct_of_lookup hvalue)
        (h'.distinct_of_lookup hvalue') hsame
    exact hread.bind fun settings _ hsettings => .ok (hsettings ▸ rfl)
  · refine agree_elim hschema fun value value' hvalue hvalue' hsame => ?_
    have hread : Agree Eq (SchemaSettings.ofToml value) (SchemaSettings.ofToml value') :=
      SchemaSettings.knows.agree_texts (by decide) (h.distinct_of_lookup hvalue)
        (h'.distinct_of_lookup hvalue') hsame
    exact hread.bind fun settings _ hsettings => .ok (hsettings ▸ rfl)

end Config

end SchemaPolicy
