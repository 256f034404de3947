import SchemaPolicy.Proofs.CommandLine.Initialization
import SchemaPolicy.Proofs.FileTree.Steps
import SchemaPolicy.Proofs.Project.Lookup

/-! The configuration to start with in place of none. It is seen from the parent of its path, which
has the steps of the project directory, so `generate` comes to the same before and after `init`. -/

namespace SchemaPolicy

open Outcome

namespace CommandLine

open FileTree (Replaced replaced_of_write)

/-- The project of a directory without any configuration. -/
def bareProject (dir : Path) : Project := ⟨.defaults, dir, {}, []⟩

/-- The schema file of a project without any configuration. -/
def defaultSchema : Path := ⟨"schema.graphql"⟩

variable {environment : Environment} {invocation : Invocation} {dir : Path} {force : Bool}
  {schema? output? : Option Path} {toStdout : Bool} {tree tree' after : FileTree}
  {project project' : Project}

theorem isName_defaultSchema : defaultSchema.IsName :=
  ⟨by decide, by decide, by decide, by decide, by decide⟩

theorem schemaPath_bareProject (dir : Path) :
    (bareProject dir).schemaPath none = dir.join defaultSchema :=
  Project.schemaPath_none _

theorem schemaPath_starterProject (dir : Path) :
    (starterProject dir).schemaPath none = (starterProject dir).baseDir.join defaultSchema :=
  Project.schemaPath_none _

/-! ### Where the schema is looked for -/

theorem locate_schemaPath_starterProject {location : Location}
    (h : FileTree.check (dir.join starterFileName) = .ok ()) :
    tree.locate ((starterProject dir).schemaPath none) = .ok location ↔
      tree.locate (dir.join defaultSchema) = .ok location := by
  obtain ⟨suffix, horigin, hnames, htext, hlast⟩ :=
    Source.exists_baseDir_join isName_starterFileName dir
  rw [schemaPath_starterProject]
  exact FileTree.locate_join_eq_ok_iff isName_defaultSchema horigin hnames
    (FileTree.check_join_parent isName_defaultSchema h htext hlast (by decide))
    (FileTree.check_join isName_starterFileName isName_defaultSchema (by decide) h)

theorem not_sameFile_defaultSchema (tree : FileTree) (dir : Path) :
    ¬tree.SameFile (dir.join starterFileName) (dir.join defaultSchema) :=
  FileTree.not_sameFile_join isName_starterFileName isName_defaultSchema (by decide)

/-- The schema is in the place where it would be without any configuration. -/
theorem locate_schemaPath_write {location : Location}
    (hwrite : tree.write (dir.join starterFileName) starterConfig = .ok after) :
    after.locate ((starterProject dir).schemaPath none) = .ok location ↔
      tree.locate ((bareProject dir).schemaPath none) = .ok location := by
  rw [locate_schemaPath_starterProject (FileTree.check_of_write hwrite), schemaPath_bareProject]
  exact FileTree.locate_write_eq_ok_iff hwrite (not_sameFile_defaultSchema after dir)

theorem find_schemaPath_write {entry : Entry}
    (hwrite : tree.write (dir.join starterFileName) starterConfig = .ok after) :
    after.find ((starterProject dir).schemaPath none) = .ok entry ↔
      tree.find ((bareProject dir).schemaPath none) = .ok entry := by
  rw [schemaPath_bareProject,
    ← FileTree.find_write_eq_ok_iff hwrite (not_sameFile_defaultSchema after dir),
    FileTree.find_eq_ok_iff, FileTree.find_eq_ok_iff]
  refine exists_congr fun location => and_congr_left fun _ => ?_
  exact locate_schemaPath_starterProject (FileTree.check_of_write hwrite)

theorem generated_write_starterConfig {document : String}
    (hwrite : tree.write (dir.join starterFileName) starterConfig = .ok after) :
    (starterProject dir).generated none after = .ok document ↔
      (bareProject dir).generated none tree = .ok document := by
  rw [Project.generated_eq_ok_iff, Project.generated_eq_ok_iff]
  refine exists_congr fun text => ?_
  rw [find_schemaPath_write hwrite]
  rfl

/-! ### Two runs of `generate` -/

/-- Two runs, each on its own files, that come to the same: with the same exit status and the same
text printed, and without a file written or with the same text put in the same place. -/
structure Alike (target? : Option Path) (tree tree' : FileTree)
    (effect effect' : Script.Effect Outcome) : Prop where
  exitCode : effect'.value.exitCode = effect.value.exitCode
  stdout : effect'.value.stdout = effect.value.stdout
  files : effect.tree = tree ∧ effect'.tree = tree' ∨
    ∃ path document location, target? = some path ∧
      tree.destination path = .ok location ∧ tree'.destination path = .ok location ∧
      Replaced tree path document effect.tree ∧ Replaced tree' path document effect'.tree

/-- Runs that fail, each in its way, come to the same. -/
theorem Alike.of_failed {target? : Option Path} {effect effect' : Script.Effect Outcome}
    (h : effect.value.exitCode = 1 ∧ effect.tree = tree)
    (h' : effect'.value.exitCode = 1 ∧ effect'.tree = tree') :
    Alike target? tree tree' effect effect' where
  exitCode := h'.1.trans h.1.symm
  stdout := by
    have hstdout := stdout_of_exitCode (by rw [h.1]; decide)
    have hstdout' := stdout_of_exitCode (by rw [h'.1]; decide)
    exact hstdout'.trans hstdout.symm
  files := .inl ⟨h.2, h'.2⟩

/-- Where the same path has the same place in two trees, a document can be put there in both, or in
neither. -/
theorem Alike.of_put {path : Path} {document : String} {effect effect' : Script.Effect Outcome}
    (hplace : ∀ location, tree'.destination path = .ok location ↔
      tree.destination path = .ok location)
    (h : (∃ fault, tree.write path document = .error fault ∧
        effect.value = .ofError (.inaccessible path fault) ∧ effect.tree = tree) ∨
      tree.write path document = .ok effect.tree ∧ effect.value = .success "")
    (h' : (∃ fault, tree'.write path document = .error fault ∧
        effect'.value = .ofError (.inaccessible path fault) ∧ effect'.tree = tree') ∨
      tree'.write path document = .ok effect'.tree ∧ effect'.value = .success "") :
    Alike (some path) tree tree' effect effect' := by
  rcases h with ⟨fault, hfault, hvalue, htree⟩ | ⟨hwrite, hvalue⟩
  · refine .of_failed ⟨by rw [hvalue, exitCode_ofError], htree⟩ ?_
    rcases h' with ⟨_, -, hvalue', htree'⟩ | ⟨hwrite', -⟩
    · exact ⟨by rw [hvalue', exitCode_ofError], htree'⟩
    · obtain ⟨location, hlocation', -⟩ := FileTree.write_eq_ok_iff.mp hwrite'
      rw [FileTree.write_of_destination ((hplace location).mp hlocation')] at hfault
      contradiction
  · obtain ⟨location, hlocation, -⟩ := FileTree.write_eq_ok_iff.mp hwrite
    have hlocation' := (hplace location).mpr hlocation
    rcases h' with ⟨_, hfault', -⟩ | ⟨hwrite', hvalue'⟩
    · rw [FileTree.write_of_destination hlocation'] at hfault'
      contradiction
    · refine ⟨by rw [hvalue, hvalue'], by rw [hvalue, hvalue'], .inr ?_⟩
      exact ⟨path, document, location, rfl, hlocation, hlocation', replaced_of_write hwrite,
        replaced_of_write hwrite'⟩

/-- Two runs that find the same document, and the same places for files, come to the same. -/
theorem Generates.alike {target? : Option Path} {effect effect' : Script.Effect Outcome}
    (h : Generates environment invocation schema? output? toStdout tree effect.value effect.tree)
    (h' : Generates environment invocation schema? output? toStdout tree' effect'.value
      effect'.tree)
    (hload : Project.loaded environment invocation.dir invocation.config? tree = .ok project)
    (hload' : Project.loaded environment invocation.dir invocation.config? tree' = .ok project')
    (hgenerated : ∀ document, project'.generated schema? tree' = .ok document ↔
      project.generated schema? tree = .ok document)
    (htarget : project.outputPath? output? = target?)
    (htarget' : project'.outputPath? output? = target?)
    (hplace : ∀ path location, tree'.destination path = .ok location ↔
      tree.destination path = .ok location) :
    Alike (if toStdout then none else target?) tree tree' effect effect' := by
  by_cases hdocument : ∃ document, project.generated schema? tree = .ok document
  · obtain ⟨document, hdocument⟩ := hdocument
    have hfirst := h.of_document hload hdocument
    have hsecond := h'.of_document hload' ((hgenerated document).mpr hdocument)
    rw [htarget] at hfirst
    rw [htarget'] at hsecond
    rcases hfirst with ⟨hprint, hvalue, htree⟩ | ⟨path, ⟨hfile, hpath⟩, hfirst⟩
    · obtain ⟨-, hvalue', htree'⟩ | ⟨path, ⟨hfile, hpath⟩, -⟩ := hsecond
      · exact ⟨by rw [hvalue, hvalue'], by rw [hvalue, hvalue'], .inl ⟨htree, htree'⟩⟩
      · rw [hfile, hpath] at hprint
        rcases hprint with hprint | hprint <;> contradiction
    · rw [hfile, hpath] at hsecond ⊢
      obtain ⟨hprint | hprint, -⟩ | ⟨_, ⟨-, hsame⟩, hsecond⟩ := hsecond
      · contradiction
      · contradiction
      obtain rfl := Option.some.inj hsame
      exact .of_put (hplace path) hfirst hsecond
  · have hrefused : ∀ document, project'.generated schema? tree' ≠ .ok document :=
      fun document h => hdocument ⟨document, (hgenerated document).mp h⟩
    exact .of_failed (h.of_refused hload fun document h => hdocument ⟨document, h⟩)
      (h'.of_refused hload' hrefused)

/-! ### A directory before and after -/

/-- What a project directory with the configuration to start with has in common with the same
directory without any. -/
structure ActsAsNone (environment : Environment) (dir : Path) (tree after : FileTree) : Prop where
  located : ((Source.locate dir none environment.userConfigDir?).run after).value =
    .project (dir.join starterFileName)
  text : after.read (dir.join starterFileName) = .ok starterConfig
  config : Config.ofText starterConfig = .ok {}
  extraRules : extraRulesOfText starterConfig = .ok []
  loaded_before : ((Project.load environment dir none).run.run tree).value =
    .ok (bareProject dir)
  loaded_after : ((Project.load environment dir none).run.run after).value =
    .ok (starterProject dir)
  schema_place : ∀ location, after.locate ((starterProject dir).schemaPath none) = .ok location ↔
    tree.locate ((bareProject dir).schemaPath none) = .ok location
  schema_entry : ∀ entry, after.find ((starterProject dir).schemaPath none) = .ok entry ↔
    tree.find ((bareProject dir).schemaPath none) = .ok entry
  document : ∀ document,
    (((starterProject dir).generate none).run.run after).value = .ok document ↔
      (((bareProject dir).generate none).run.run tree).value = .ok document
  generate : ∀ verbose output? toStdout,
    let invocation : Invocation := ⟨verbose, none, dir, .generate none output? toStdout⟩
    Alike (if toStdout then none else output?) tree after
      ((invocation.run environment).run tree) ((invocation.run environment).run after)
  run : ∀ arguments verbose output? toStdout, Invocation.ofArguments arguments =
    .ok ⟨verbose, none, dir, .generate none output? toStdout⟩ →
    Alike (if toStdout then none else output?) tree after
      ((run environment arguments).run tree) ((run environment arguments).run after)

theorem loaded_bareProject
    (h : Source.located tree dir none environment.userConfigDir? = .defaults) :
    Project.loaded environment dir none tree = .ok (bareProject dir) := by
  rw [Project.loaded_of_located h]
  exact Project.ofText_defaults dir

theorem alike_generate (verbose : Bool) (output? : Option Path) (toStdout : Bool)
    (hlocated : Source.located tree dir none environment.userConfigDir? = .defaults)
    (hwrite : tree.write (dir.join starterFileName) starterConfig = .ok after) :
    let invocation : Invocation := ⟨verbose, none, dir, .generate none output? toStdout⟩
    Alike (if toStdout then none else output?) tree after
      ((invocation.run environment).run tree) ((invocation.run environment).run after) := by
  have hload := loaded_bareProject hlocated
  have hload' : Project.loaded environment dir none after = .ok (starterProject dir) :=
    loaded_starterConfig (replaced_of_write hwrite).find_eq
  have htarget : (bareProject dir).outputPath? output? = output? := by cases output? <;> rfl
  have htarget' : (starterProject dir).outputPath? output? = output? := by cases output? <;> rfl
  exact (generates_run _ rfl).alike (generates_run _ rfl) hload hload'
    (fun _ => generated_write_starterConfig hwrite) htarget htarget'
    fun _ _ => FileTree.destination_write_eq_ok_iff hwrite

/-- Where a directory has no configuration, and `init` gives it the one to start with, all that
`generate` does without a configuration or a schema asked for stays as it was. -/
theorem init_actsAsNone (environment : Environment)
    (hlocated : ((Source.locate dir none environment.userConfigDir?).run tree).value = .defaults)
    (hexit : ((init dir force).run tree).value.exitCode = 0) :
    ActsAsNone environment dir tree ((init dir force).run tree).tree := by
  rw [Source.run_locate] at hlocated
  have hwrite := (initializes_run dir force tree).write_eq hexit
  have hfind := (replaced_of_write hwrite).find_eq
  have hload : Project.loaded environment dir none _ = .ok (starterProject dir) :=
    loaded_starterConfig hfind
  exact {
    located := by rw [Source.run_locate, ← Project.source_of_loaded hload]; rfl
    text := FileTree.read_of_find_text hfind
    config := config_starterConfig
    extraRules := extraRules_starterConfig
    loaded_before := by rw [Project.run_load, loaded_bareProject hlocated]
    loaded_after := by rw [Project.run_load, hload]
    schema_place := fun _ => locate_schemaPath_write hwrite
    schema_entry := fun _ => find_schemaPath_write hwrite
    document := by
      intro document
      rw [Project.value_generate, Project.value_generate, generated_write_starterConfig hwrite]
    generate := fun verbose output? toStdout =>
      alike_generate verbose output? toStdout hlocated hwrite
    run := by
      intro arguments verbose output? toStdout harguments
      rcases run_of_invocation environment harguments with hrun | hrun
      · rw [hrun]
        exact alike_generate verbose output? toStdout hlocated hwrite
      · rw [hrun]
        exact ⟨rfl, rfl, .inl ⟨rfl, rfl⟩⟩ }

theorem init_actsAsNone_app :
    ∃ tree : FileTree,
      ((Source.locate ⟨"app"⟩ none none).run tree).value = .defaults ∧
      ((init ⟨"app"⟩ false).run tree).value.exitCode = 0 ∧
      ActsAsNone {} ⟨"app"⟩ tree ((init ⟨"app"⟩ false).run tree).tree ∧
      ∃ document,
        ((run {} ["-C", "app", "generate", "--stdout"]).run tree).value = .success document ∧
        ((run {} ["-C", "app", "generate", "--stdout"]).run
          ((init ⟨"app"⟩ false).run tree).tree).value.stdout = document := by
  let tree : FileTree := { entries := [(["app".toList], .directory),
    (["app".toList, "schema.graphql".toList],
      .file (.text "type Post @collection(name: \"posts\", type: DOC_PER_USER)"))] }
  let document := String.ofList (Ruleset.render {} [⟨"posts", .docPerUser⟩] [])
  have hlocated : ((Source.locate ⟨"app"⟩ none none).run tree).value = .defaults := by rfl
  have hexit : ((init ⟨"app"⟩ false).run tree).value.exitCode = 0 := by rfl
  have hread : Invocation.ofArguments ["-C", "app", "generate", "--stdout"] =
      .ok ⟨false, none, ⟨"app"⟩, .generate none none true⟩ := by rfl
  have hload : Project.loaded {} ⟨"app"⟩ none tree = .ok (bareProject ⟨"app"⟩) := by
    rw [Source.run_locate] at hlocated
    exact loaded_bareProject hlocated
  have hgenerate : (bareProject ⟨"app"⟩).generated none tree = .ok document := by
    rw [Project.generated_eq_ok_iff, schemaPath_bareProject]
    exact ⟨"type Post @collection(name: \"posts\", type: DOC_PER_USER)", by rfl, by rfl⟩
  have hvalue : ((run {} ["-C", "app", "generate", "--stdout"]).run tree).value =
      .success document := by
    rw [run_of_choose? hread rfl]
    exact (generates_run _ rfl).eq_success hload hgenerate
  have hacts := init_actsAsNone {} hlocated hexit
  have halike := hacts.run _ _ _ _ hread
  refine ⟨tree, hlocated, hexit, hacts, document, hvalue, ?_⟩
  rw [halike.stdout, hvalue]
  rfl

end CommandLine

end SchemaPolicy
