import SchemaPolicy.Proofs.CommandLine.Effect
import SchemaPolicy.Proofs.CommandLine.Starter

/-! `init` without force and the configuration that a project has. It guards the preferred file name
only, while loading looks for two, so a project that has its configuration under the other name is
given a new one that comes before it. -/

namespace SchemaPolicy.CommandLine

open FileTree (Replaced replaced_of_write)

variable {dir path : Path} {tree : FileTree}

/-- The name of a configuration file that is not the preferred one. -/
def hiddenFileName : Path := ⟨".tenant-rules.toml"⟩

theorem projectFileNames_eq : Source.projectFileNames = [starterFileName, hiddenFileName] := rfl

/-- A configuration that is found while nothing has the preferred name has the other one. -/
theorem eq_hidden_of_located {userDir? : Option Path}
    (h : Source.located tree dir none userDir? = .project path)
    (hfree : tree.isPresent (dir.join starterFileName) = false) :
    path = dir.join hiddenFileName ∧ tree.isFile (dir.join hiddenFileName) = true := by
  have hstarter : ¬tree.isFile (dir.join starterFileName) = true := by
    intro hfile
    rw [FileTree.isPresent_of_isFile hfile] at hfree
    contradiction
  rw [Source.located_eq_project_iff, projectFileNames_eq, List.map_cons,
    List.find?_cons_of_neg hstarter, List.map_singleton, List.find?_singleton] at h
  split at h
  · next hfile => exact ⟨(Option.some.inj h).symm, hfile⟩
  · contradiction

/-- `init` stops at anything that has the preferred name. -/
theorem Initializes.of_present {outcome : Outcome} {after : FileTree}
    (h : Initializes dir false tree outcome after)
    (hpresent : tree.isPresent (dir.join starterFileName) = true) :
    outcome.exitCode ≠ 0 ∧ after = tree := by
  cases h with
  | refused present unforced => exact ⟨nofun, rfl⟩
  | unwritten write => exact ⟨nofun, rfl⟩
  | written free write =>
    rw [hpresent] at free
    rcases free with hfree | hforce <;> contradiction

/-- `init` succeeds where the preferred name is free and can be written to. -/
theorem Initializes.of_free {outcome : Outcome} {after : FileTree}
    (h : Initializes dir false tree outcome after)
    (hfree : tree.isPresent (dir.join starterFileName) = false)
    (hwritable : ∃ after, tree.write (dir.join starterFileName) starterConfig = .ok after) :
    outcome.exitCode = 0 ∧ tree.write (dir.join starterFileName) starterConfig = .ok after := by
  cases h with
  | refused present unforced =>
    rw [hfree] at present
    contradiction
  | unwritten write =>
    obtain ⟨_, hwrite⟩ := hwritable
    rw [hwrite] at write
    contradiction
  | written free write => exact ⟨rfl, write⟩

/-- `init` succeeds only by writing. -/
theorem Initializes.write_eq {force : Bool} {outcome : Outcome} {after : FileTree}
    (h : Initializes dir force tree outcome after) (hexit : outcome.exitCode = 0) :
    tree.write (dir.join starterFileName) starterConfig = .ok after := by
  cases h with
  | refused present unforced => contradiction
  | unwritten write => contradiction
  | written free write => exact write

theorem isName_starterFileName : starterFileName.IsName := Source.isName_of_mem (.head _)

theorem isName_hiddenFileName : hiddenFileName.IsName := Source.isName_of_mem (.tail _ (.head _))

/-- A project with its configuration under the other name is given the one to start with. -/
theorem init_hidden (environment : Environment)
    (hfile : tree.isFile (dir.join hiddenFileName) = true)
    (hfree : tree.isPresent (dir.join starterFileName) = false) :
    ((init dir false).run tree).value.exitCode = 0 ∧
      Replaced tree (dir.join starterFileName) starterConfig ((init dir false).run tree).tree ∧
      Project.loaded environment dir none ((init dir false).run tree).tree =
        .ok (starterProject dir) := by
  have hwritable := FileTree.exists_write_join isName_hiddenFileName isName_starterFileName
    (by decide) (FileTree.isPresent_of_isFile hfile) hfree starterConfig
  obtain ⟨hexit, hwrite⟩ := (initializes_run dir false tree).of_free hfree hwritable
  have hreplaced := replaced_of_write hwrite
  exact ⟨hexit, hreplaced, loaded_starterConfig hreplaced.find_eq⟩

/-- Where a project has its configuration, `init` without force keeps what is loaded exactly when
something has the preferred name. Else it succeeds, and what is loaded from then on is the
configuration to start with. -/
theorem load_init_eq_iff (environment : Environment)
    (h : ((Source.locate dir none environment.userConfigDir?).run tree).value = .project path) :
    (((Project.load environment dir none).run.run ((init dir false).run tree).tree).value =
        ((Project.load environment dir none).run.run tree).value ↔
      tree.isPresent (dir.join starterFileName) = true) ∧
    (tree.isPresent (dir.join starterFileName) = true →
      ((init dir false).run tree).value.exitCode ≠ 0 ∧ ((init dir false).run tree).tree = tree) ∧
    (tree.isPresent (dir.join starterFileName) = false →
      path = dir.join ⟨".tenant-rules.toml"⟩ ∧
      ((init dir false).run tree).value.exitCode = 0 ∧
      Replaced tree (dir.join starterFileName) starterConfig ((init dir false).run tree).tree ∧
      ((Project.load environment dir none).run.run ((init dir false).run tree).tree).value =
        .ok (starterProject dir)) := by
  simp only [Source.run_locate] at h
  simp only [Project.run_load]
  cases hpresent : tree.isPresent (dir.join starterFileName) with
  | true =>
    obtain ⟨hexit, htree⟩ := (initializes_run dir false tree).of_present hpresent
    rw [htree]
    exact ⟨⟨fun _ => rfl, fun _ => rfl⟩, fun _ => ⟨hexit, rfl⟩, nofun⟩
  | false =>
    obtain ⟨rfl, hfile⟩ := eq_hidden_of_located h hpresent
    obtain ⟨hexit, hreplaced, hload⟩ := init_hidden environment hfile hpresent
    refine ⟨⟨fun hsame => ?_, nofun⟩, nofun, fun _ => ⟨rfl, hexit, hreplaced, hload⟩⟩
    -- The two loads differ at least in the place of the configuration.
    have hsource := Project.source_of_loaded (hsame.symm.trans hload)
    rw [h] at hsource
    have hname := isName_starterFileName.join_inj isName_hiddenFileName
      (Source.project.inj hsource)
    contradiction

theorem load_init_eq_iff_app :
    ∃ tree : FileTree,
      ((Source.locate ⟨"app"⟩ none none).run tree).value = .project ⟨"app/.tenant-rules.toml"⟩ ∧
      tree.isPresent ⟨"app/tenant-rules.toml"⟩ = false ∧
      ((Project.load {} ⟨"app"⟩ none).run.run ((init ⟨"app"⟩ false).run tree).tree).value =
        .ok ⟨.project ⟨"app/tenant-rules.toml"⟩, ⟨"app"⟩, {}, []⟩ := by
  let tree : FileTree :=
    { entries := [(["app".toList], .directory), (["app".toList, ".tenant-rules.toml".toList],
        .file (.text "schema.path = 'api'"))] }
  have hlocate : ((Source.locate ⟨"app"⟩ none none).run tree).value =
      .project ⟨"app/.tenant-rules.toml"⟩ := by rfl
  have hfree : tree.isPresent ⟨"app/tenant-rules.toml"⟩ = false := by rfl
  obtain ⟨-, -, hreplaced⟩ := load_init_eq_iff {} hlocate
  obtain ⟨-, -, -, hload⟩ := hreplaced hfree
  exact ⟨tree, hlocate, hfree, hload⟩

/-- A project that has a configuration, and that `init` without force gives another one. -/
theorem exists_load_init_ne :
    ∃ tree : FileTree,
      ((Source.locate ⟨"."⟩ none none).run tree).value = .project ⟨"./.tenant-rules.toml"⟩ ∧
      ((Project.load {} ⟨"."⟩ none).run.run tree).value = .ok ⟨.project ⟨"./.tenant-rules.toml"⟩,
        ⟨"."⟩, { schema := { path := ⟨"api.graphql"⟩ } }, []⟩ ∧
      ((init ⟨"."⟩ false).run tree).value.exitCode = 0 ∧
      ((Project.load {} ⟨"."⟩ none).run.run ((init ⟨"."⟩ false).run tree).tree).value =
        .ok ⟨.project ⟨"./tenant-rules.toml"⟩, ⟨"."⟩, {}, []⟩ := by
  let tree : FileTree := { entries := [([".tenant-rules.toml".toList],
    .file (.text "[schema]\npath = \"api.graphql\"\n"))] }
  have hlocated : Source.located tree ⟨"."⟩ none none = .project ⟨"./.tenant-rules.toml"⟩ := by rfl
  have hread : tree.read ⟨"./.tenant-rules.toml"⟩ = .ok "[schema]\npath = \"api.graphql\"\n" := by
    rfl
  have hconfig : Config.ofText "[schema]\npath = \"api.graphql\"\n" =
      .ok { schema := { path := ⟨"api.graphql"⟩ } } :=
    Outcome.eq_ok_of_toOption (by decide +kernel)
  have hrules : extraRulesOfText "[schema]\npath = \"api.graphql\"\n" = .ok [] :=
    Outcome.eq_ok_of_toOption (by decide +kernel)
  have hfile : tree.isFile (Path.join ⟨"."⟩ hiddenFileName) = true := by rfl
  have hfree : tree.isPresent (Path.join ⟨"."⟩ starterFileName) = false := by rfl
  obtain ⟨hexit, -, hload⟩ := init_hidden {} hfile hfree
  refine ⟨tree, ?_, ?_, hexit, ?_⟩
  · rw [Source.run_locate, hlocated]
  · rw [Project.run_load, Project.loaded_eq_ofText hlocated rfl hread]
    exact Project.ofText_eq_ok_iff.mpr ⟨_, _, hconfig, hrules, rfl⟩
  · rw [Project.run_load, hload]
    rfl

end SchemaPolicy.CommandLine
