import SchemaPolicy.Proofs.Path.Steps
import SchemaPolicy.Proofs.Project.Lookup

/-! The directory from which a project's paths are seen. That of a configuration in the project
directory is spelled in its own way, but has the steps of the project directory, so paths lead the
same way from it as without any configuration in the project. -/

namespace SchemaPolicy

open Outcome

variable {dir name : Path} {source source' : Source}

namespace Source

/-- The directory of a configuration with a name in the project directory has the steps of the
project directory. Its text is the start of the configuration's path, and the name is in the
rest. -/
theorem exists_baseDir_join (h : name.IsName) (dir : Path) :
    let base := (project (dir.join name)).baseDir dir
    ∃ suffix, base.origin? = dir.origin? ∧ base.names = dir.names ∧
      (dir.join name).text.toList = base.text.toList ++ suffix ∧ name.text.toList <:+: suffix := by
  obtain ⟨base, suffix, hparent, horigin, hnames, htext, hlast⟩ :=
    Path.exists_parent? (h.names_join : (dir.join name).names = _)
  have hbase : (project (dir.join name)).baseDir dir = base := by
    rw [baseDir, hparent, Option.getD_some]
  rw [hbase]
  exact ⟨suffix, horigin.trans h.origin?_join, hnames, htext, hlast⟩

theorem components_baseDir_join (h : name.IsName) (dir : Path) :
    ((project (dir.join name)).baseDir dir).components = dir.components := by
  obtain ⟨_, horigin, hnames, -, -⟩ := exists_baseDir_join h dir
  rw [Path.components_eq, Path.components_eq, horigin, hnames]

/-- Only a file that is asked for can have its paths seen from elsewhere. -/
theorem components_baseDir_of_mem {userDir? : Option Path}
    (h : source ∈ candidates dir none userDir?) :
    (source.baseDir dir).components = dir.components := by
  simp only [candidates, Option.map_none, Option.toList_none, List.nil_append, List.mem_append,
    List.mem_map, Option.mem_toList, Option.map_eq_some_iff, List.mem_singleton] at h
  rcases h with (⟨name, hname, rfl⟩ | ⟨directory, -, rfl⟩) | rfl
  · exact components_baseDir_join (isName_of_mem hname) dir
  · rfl
  · rfl

end Source

namespace Project

theorem schemaPath_none (project : Project) :
    project.schemaPath none = project.baseDir.join project.config.schema.path := rfl

theorem outputPath?_none (project : Project) :
    project.outputPath? none = project.config.output.file?.map project.baseDir.join := rfl

/-- Two projects with the same settings and rules, whose files have the same paths, step by step,
whatever is asked for. -/
structure SamePaths (project other : Project) : Prop where
  config : project.config = other.config
  extraRules : project.extraRules = other.extraRules
  schemaPath : ∀ asked?,
    (project.schemaPath asked?).components = (other.schemaPath asked?).components
  outputPath? : ∀ asked?,
    (project.outputPath? asked?).map Path.components =
      (other.outputPath? asked?).map Path.components

theorem samePaths_of_baseDir {project other : Project} (hconfig : project.config = other.config)
    (hrules : project.extraRules = other.extraRules)
    (hbase : project.baseDir.components = other.baseDir.components) : SamePaths project other where
  config := hconfig
  extraRules := hrules
  schemaPath := by
    intro asked?
    cases asked? with
    | some path => rfl
    | none =>
      rw [schemaPath_none, schemaPath_none, hconfig]
      exact Path.components_join_congr hbase _
  outputPath? := by
    intro asked?
    cases asked? with
    | some path => rfl
    | none =>
      rw [outputPath?_none, outputPath?_none, hconfig]
      cases other.config.output.file? with
      | none => rfl
      | some path => exact congrArg some (Path.components_join_congr hbase path)

/-- A text makes a project, or none, wherever it comes from. -/
theorem agree_ofText (h : (source.baseDir dir).components = (source'.baseDir dir).components)
    (text : String) : Agree SamePaths (ofText dir source text) (ofText dir source' text) := by
  cases hconfig : Config.ofText text with
  | error fault =>
    have hfails : ∀ source,
        ofText dir source text = .error (.config (source.path?.getD ⟨""⟩) fault) :=
      fun source => ofText_eq_error_iff.mpr (.inl ⟨fault, hconfig, rfl⟩)
    rw [hfails, hfails]
    exact .error _ _
  | ok config =>
    cases hrules : extraRulesOfText text with
    | error cause =>
      have hfails : ∀ source,
          ofText dir source text = .error (.extraRules (source.path?.getD ⟨""⟩) cause) :=
        fun source => ofText_eq_error_iff.mpr (.inr ⟨config, cause, hconfig, hrules, rfl⟩)
      rw [hfails, hfails]
      exact .error _ _
    | ok rules =>
      have hmakes : ∀ source,
          ofText dir source text = .ok ⟨source, source.baseDir dir, config, rules⟩ :=
        fun source => ofText_eq_ok_iff.mpr ⟨config, rules, hconfig, hrules, rfl⟩
      rw [hmakes, hmakes]
      exact .ok (samePaths_of_baseDir rfl rfl h)

/-- A configuration in the project directory has its paths seen from a directory with the steps of
the project directory, and the paths of the project it makes are the same, step by step, as if it
were the user's own or the built-in one. Every project that is loaded without a configuration asked
for has its paths seen from a directory with these steps. -/
theorem seen_from_projectDir (dir : Path) :
    (∀ name ∈ Source.projectFileNames,
      ((Source.project (dir.join name)).baseDir dir).components = dir.components ∧
      ∀ text,
        Agree SamePaths (ofText dir (.project (dir.join name)) text) (ofText dir .defaults text) ∧
        ∀ path, Agree SamePaths (ofText dir (.project (dir.join name)) text)
          (ofText dir (.user path) text)) ∧
    ∀ environment tree project, ((load environment dir none).run.run tree).value = .ok project →
      project.baseDir.components = dir.components := by
  constructor
  · intro name hname
    have hbase := Source.components_baseDir_join (Source.isName_of_mem hname) dir
    refine ⟨hbase, fun text => ⟨agree_ofText ?_ text, fun path => agree_ofText ?_ text⟩⟩
    · exact hbase
    · exact hbase
  · intro environment tree project hload
    rw [run_load] at hload
    obtain ⟨text, -, htext⟩ := bind_eq_ok_iff.mp hload
    obtain ⟨config, rules, -, -, rfl⟩ := ofText_eq_ok_iff.mp htext
    exact Source.components_baseDir_of_mem (Source.located_mem_candidates ..)

theorem seen_from_projectDir_dots :
    ∃ (tree : FileTree) (project : Project),
      (⟨".tenant-rules.toml"⟩ : Path) ∈ Source.projectFileNames ∧
      ((load {} ⟨"app//."⟩ none).run.run tree).value = .ok project ∧
      project.source = .project ⟨"app//./.tenant-rules.toml"⟩ ∧ project.baseDir = ⟨"app"⟩ ∧
      project.baseDir.components = (⟨"app//."⟩ : Path).components ∧
      project.schemaPath none = ⟨"app/./api.graphql"⟩ ∧
      SamePaths project
        ⟨.defaults, ⟨"app//."⟩, { schema := { path := ⟨"./api.graphql"⟩ } }, []⟩ := by
  let text := "[schema]\npath = \"./api.graphql\"\n"
  let tree : FileTree := { entries := [(["app".toList], .directory),
    (["app".toList, ".tenant-rules.toml".toList], .file (.text text))] }
  let config : Config := { schema := { path := ⟨"./api.graphql"⟩ } }
  have hname : (⟨".tenant-rules.toml"⟩ : Path) ∈ Source.projectFileNames := by decide
  have hconfig : Config.ofText "[schema]\npath = \"./api.graphql\"\n" =
      .ok { schema := { path := ⟨"./api.graphql"⟩ } } :=
    eq_ok_of_toOption (by decide +kernel)
  have hrules : extraRulesOfText "[schema]\npath = \"./api.graphql\"\n" = .ok [] :=
    eq_ok_of_toOption (by decide +kernel)
  have hmade : ∀ source, ofText ⟨"app//."⟩ source text =
      .ok ⟨source, source.baseDir ⟨"app//."⟩, config, []⟩ :=
    fun source => ofText_eq_ok_iff.mpr ⟨config, [], hconfig, hrules, rfl⟩
  have hpath : Path.join ⟨"app//."⟩ ⟨".tenant-rules.toml"⟩ = ⟨"app//./.tenant-rules.toml"⟩ := by rfl
  have hbase : (Source.project ⟨"app//./.tenant-rules.toml"⟩).baseDir ⟨"app//."⟩ = ⟨"app"⟩ := by rfl
  have hlocated : Source.located tree ⟨"app//."⟩ none none =
      .project ⟨"app//./.tenant-rules.toml"⟩ := by rfl
  have hread : tree.read ⟨"app//./.tenant-rules.toml"⟩ = .ok text := by rfl
  have hload : ((load {} ⟨"app//."⟩ none).run.run tree).value =
      .ok ⟨.project ⟨"app//./.tenant-rules.toml"⟩, ⟨"app"⟩, config, []⟩ := by
    rw [run_load, loaded_eq_ofText hlocated rfl hread, hmade, hbase]
  have hschema : Path.join ⟨"app"⟩ ⟨"./api.graphql"⟩ = ⟨"app/./api.graphql"⟩ := by rfl
  obtain ⟨hfound, hloaded⟩ := seen_from_projectDir ⟨"app//."⟩
  have hsame : SamePaths ⟨.project ⟨"app//./.tenant-rules.toml"⟩, ⟨"app"⟩, config, []⟩
      ⟨.defaults, ⟨"app//."⟩, config, []⟩ := by
    have hagree := ((hfound _ hname).2 text).1
    rw [hmade, hmade, hpath, hbase] at hagree
    cases hagree with
    | ok same => exact same
  exact ⟨tree, _, hname, hload, rfl, rfl, hloaded _ _ _ hload,
    (schemaPath_none _).trans hschema, hsame⟩

end Project

end SchemaPolicy
