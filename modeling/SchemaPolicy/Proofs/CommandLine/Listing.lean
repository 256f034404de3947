import SchemaPolicy.Proofs.CommandLine.Effect
import SchemaPolicy.Proofs.Listing.Json

/-! What a listing says about what is generated: the collections can be read from the JSON listing
of a project, and its document follows from them and from the configuration. -/

namespace SchemaPolicy.CommandLine

variable {environment : Environment} {arguments : List String} {invocation : Invocation}
  {schema? : Option Path} {tree : FileTree}

/-- A run of `list` that succeeds has loaded a project, and has printed its collections. -/
theorem list_succeeded {format : ListingFormat}
    (hcommand : invocation.command = .list schema? format)
    (hexit : ((invocation.run environment).run tree).value.exitCode = 0) :
    ∃ project ds,
      Project.loaded environment invocation.dir invocation.config? tree = .ok project ∧
      project.extracted schema? tree = .ok ds ∧
      ((invocation.run environment).run tree).value = .success (format.render ds) := by
  rw [value_list hcommand, listed] at hexit ⊢
  split at hexit
  · next project hload =>
    split at hexit
    · next ds hextracted => exact ⟨project, ds, hload, hextracted, rfl⟩
    · next error hextracted =>
      rw [exitCode_ofError] at hexit
      contradiction
  · contradiction

/-- A JSON listing that succeeds is a JSON array, from which the collections of the project can be
read, and what is generated for the same schema is the document for what is read. -/
theorem listed_generated (hread : Invocation.ofArguments arguments = .ok invocation)
    (hcommand : invocation.command = .list schema? .json)
    (hexit : ((run environment arguments).run tree).value.exitCode = 0) :
    ∃ project ds items,
      ((Project.load environment invocation.dir invocation.config?).run.run tree).value =
        .ok project ∧
      ((project.descriptors schema?).run.run tree).value = .ok ds ∧
      Json.Writes (.array items) ((run environment arguments).run tree).value.stdout.toList ∧
      Listing.descriptors? ((run environment arguments).run tree).value.stdout = some ds ∧
      ∀ others, Invocation.ofArguments others =
          .ok { invocation with command := .generate schema? none true } →
        ((run environment others).run tree).value = .success (String.ofList
          (Ruleset.render project.config.output.envelope (ds.map Descriptor.toCollection)
            project.extraRules)) := by
  have hfilter : (LogFilter.choose? environment invocation.verbose).isSome := by
    rw [Option.isSome_iff_ne_none]
    intro hnone
    rw [run, hread] at hexit
    simp only [hnone] at hexit
    contradiction
  rw [run_of_choose? hread hfilter] at hexit ⊢
  obtain ⟨project, ds, hload, hextracted, hvalue⟩ := list_succeeded hcommand hexit
  have hgenerated : project.generated schema? tree = .ok (project.render ds) := by
    rw [Project.generated, hextracted]
    rfl
  rw [hvalue]
  refine ⟨project, ds, ds.map Listing.toJson, ?_, ?_, Listing.writes_json ds,
    Listing.descriptors?_json ds, fun others hothers => ?_⟩
  · rw [Project.run_load, hload]
  · obtain ⟨_, hdescriptors⟩ := project.run_descriptors schema? tree
    rw [hdescriptors, hextracted]
  · rw [run_of_choose? hothers hfilter]
    exact (generates_run _ rfl).eq_success hload hgenerated

theorem listed_generated_quoted :
    ∃ tree : FileTree,
      ((run {} ["list", "--format", "json"]).run tree).value.exitCode = 0 ∧
      Listing.descriptors? ((run {} ["list", "--format", "json"]).run tree).value.stdout =
        some [⟨⟨"po\"sts", .docPerUser⟩, "Post"⟩] ∧
      ((run {} ["generate", "--stdout"]).run tree).value =
        .success (String.ofList (Ruleset.render {} [⟨"po\"sts", .docPerUser⟩] [])) := by
  let tree : FileTree := { entries := [(["schema.graphql".toList], .file (.text
    "type Post @collection(name: \"po\\\"sts\", type: DOC_PER_USER)"))] }
  let project : Project := ⟨.defaults, ⟨"."⟩, {}, []⟩
  have hlist : Invocation.ofArguments ["list", "--format", "json"] =
      .ok ⟨false, none, ⟨"."⟩, .list none .json⟩ := by rfl
  have hgenerate : Invocation.ofArguments ["generate", "--stdout"] =
      .ok ⟨false, none, ⟨"."⟩, .generate none none true⟩ := by rfl
  have hload : Project.loaded {} ⟨"."⟩ none tree = .ok project := Project.ofText_defaults ⟨"."⟩
  have hextracted : project.extracted none tree =
      .ok [⟨⟨"po\"sts", .docPerUser⟩, "Post"⟩] := by
    have hpath : Project.schemaPath ⟨.defaults, ⟨"."⟩, {}, []⟩ none = ⟨"./schema.graphql"⟩ := rfl
    have hschema : tree.read ⟨"./schema.graphql"⟩ =
        .ok "type Post @collection(name: \"po\\\"sts\", type: DOC_PER_USER)" := by rfl
    have hextract : (extract "type Post @collection(name: \"po\\\"sts\", type: DOC_PER_USER)"
        "collection").result = .ok [⟨⟨"po\"sts", .docPerUser⟩, "Post"⟩] := by rfl
    rw [Project.extracted, hpath, hschema]
    exact congrArg (Except.mapError (.schema ⟨"./schema.graphql"⟩)) hextract
  have hexit : ((run {} ["list", "--format", "json"]).run tree).value.exitCode = 0 := by
    rw [run_of_choose? hlist rfl, value_list rfl, listed, hload]
    simp only [hextracted]
    rfl
  obtain ⟨loaded, ds, _, hloaded, hds, -, hlisted, hothers⟩ := listed_generated hlist rfl hexit
  rw [Project.run_load] at hloaded
  obtain rfl := Except.ok.inj (hload.symm.trans hloaded)
  obtain ⟨_, hdescriptors⟩ := project.run_descriptors none tree
  rw [hdescriptors] at hds
  obtain rfl := Except.ok.inj (hextracted.symm.trans hds)
  exact ⟨tree, hexit, hlisted, hothers _ hgenerate⟩

end SchemaPolicy.CommandLine
