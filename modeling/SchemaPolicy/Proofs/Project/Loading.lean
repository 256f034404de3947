import SchemaPolicy.Project.Loading
import SchemaPolicy.Proofs.Outcome
import SchemaPolicy.Proofs.Script

/-! Loading a project looks at files and changes none. Where the configuration is found, and what is
made of its text, are given as functions of the tree of files. -/

namespace SchemaPolicy

open Outcome

variable {projectDir : Path} {asked? userDir? : Option Path} {tree : FileTree}

theorem run_firstFile? (directory : Path) (names : List Path) (tree : FileTree) :
    (firstFile? directory names).run tree =
      ⟨(names.map directory.join).find? tree.isFile, tree, []⟩ := by
  induction names with
  | nil => rfl
  | cons name names ih =>
    rw [firstFile?, Script.run_bind, Script.run_isFile, List.map_cons, List.find?_cons]
    cases tree.isFile (directory.join name) with
    | true => rfl
    | false => simp [ih]

namespace Source

/-- The place of the configuration for a project directory among the files of a tree. -/
def located (tree : FileTree) (projectDir : Path) (asked? userDir? : Option Path) : Source :=
  match asked? with
  | some path => .flag path
  | none =>
    match (projectFileNames.map projectDir.join).find? tree.isFile with
    | some path => .project path
    | none =>
      match userDir?.bind fun directory => [directory.join userFileName].find? tree.isFile with
      | some path => .user path
      | none => .defaults

theorem run_locate (tree : FileTree) (projectDir : Path) (asked? userDir? : Option Path) :
    (locate projectDir asked? userDir?).run tree =
      ⟨located tree projectDir asked? userDir?, tree, []⟩ := by
  cases asked? with
  | some path => rfl
  | none =>
    unfold locate located
    simp only [Script.run_bind, run_firstFile?]
    cases (projectFileNames.map projectDir.join).find? tree.isFile with
    | some path => rfl
    | none =>
      cases userDir? with
      | none => rfl
      | some directory =>
        simp only [Script.run_bind, run_firstFile?, List.map_singleton, Option.bind_some]
        cases [directory.join userFileName].find? tree.isFile <;> rfl

theorem located_eq_project_iff {path : Path} :
    located tree projectDir none userDir? = .project path ↔
      (projectFileNames.map projectDir.join).find? tree.isFile = some path := by
  unfold located
  cases (projectFileNames.map projectDir.join).find? tree.isFile with
  | some found => simp
  | none =>
    dsimp only
    split <;> simp

/-- The text of a configuration; where there is no file it is empty. -/
def contents (source : Source) (tree : FileTree) : Except ProjectError String :=
  match source.path? with
  | some path => (tree.read path).mapError (.inaccessible path)
  | none => .ok ""

theorem run_text (source : Source) (tree : FileTree) :
    source.text.run.run tree = ⟨source.contents tree, tree, []⟩ := by
  unfold text contents
  cases source.path? <;> rfl

end Source

namespace Project

/-- A text makes a project exactly when both its settings and its extra rules can be read. -/
theorem ofText_eq_ok_iff {source : Source} {text : String} {project : Project} :
    ofText projectDir source text = .ok project ↔
      ∃ config rules, Config.ofText text = .ok config ∧ extraRulesOfText text = .ok rules ∧
        project = ⟨source, source.baseDir projectDir, config, rules⟩ := by
  simp only [ofText, bind_eq_ok_iff, mapError_eq_ok_iff, pure_eq_ok_iff]
  constructor
  · rintro ⟨config, hconfig, rules, hrules, rfl⟩
    exact ⟨config, rules, hconfig, hrules, rfl⟩
  · rintro ⟨config, rules, hconfig, hrules, rfl⟩
    exact ⟨config, hconfig, rules, hrules, rfl⟩

/-- A text that is faulty in several ways fails for its settings first. -/
theorem ofText_eq_error_iff {source : Source} {text : String} {error : ProjectError} :
    ofText projectDir source text = .error error ↔
      (∃ fault, Config.ofText text = .error fault ∧
        error = .config (source.path?.getD ⟨""⟩) fault) ∨
      ∃ config cause, Config.ofText text = .ok config ∧ extraRulesOfText text = .error cause ∧
        error = .extraRules (source.path?.getD ⟨""⟩) cause := by
  simp only [ofText, bind_eq_error_iff, mapError_eq_error_iff, mapError_eq_ok_iff, pure_ne_error,
    and_false, exists_false, or_false]
  refine or_congr_right (exists_congr fun config => ?_)
  constructor
  · rintro ⟨hconfig, cause, hcause, herror⟩
    exact ⟨cause, hconfig, hcause, herror⟩
  · rintro ⟨cause, hconfig, hcause, herror⟩
    exact ⟨hconfig, cause, hcause, herror⟩

/-- The built-in configuration is the one that says nothing. -/
theorem ofText_defaults (projectDir : Path) :
    ofText projectDir .defaults "" = .ok ⟨.defaults, projectDir, {}, []⟩ := by
  have hconfig : Config.ofText "" = .ok {} := rfl
  have hrules : extraRulesOfText "" = .ok [] := rfl
  exact ofText_eq_ok_iff.mpr ⟨_, _, hconfig, hrules, rfl⟩

/-- The project that loading finds among the files of a tree, or what is wrong with it. -/
def loaded (environment : Environment) (projectDir : Path) (asked? : Option Path)
    (tree : FileTree) : Except ProjectError Project :=
  let source := Source.located tree projectDir asked? environment.userConfigDir?
  source.contents tree >>= ofText projectDir source

theorem loaded_eq_ofText {environment : Environment} {source : Source} {path : Path} {text : String}
    (hlocated : Source.located tree projectDir asked? environment.userConfigDir? = source)
    (hpath : source.path? = some path) (hread : tree.read path = .ok text) :
    loaded environment projectDir asked? tree = ofText projectDir source text := by
  subst hlocated
  simp only [loaded, Source.contents, hpath, hread]
  rfl

/-- What is loaded has the place of its configuration. -/
theorem source_of_loaded {environment : Environment} {project : Project}
    (h : loaded environment projectDir asked? tree = .ok project) :
    project.source = Source.located tree projectDir asked? environment.userConfigDir? := by
  obtain ⟨text, -, htext⟩ := bind_eq_ok_iff.mp h
  obtain ⟨config, rules, -, -, rfl⟩ := ofText_eq_ok_iff.mp htext
  rfl

theorem run_load (environment : Environment) (projectDir : Path) (asked? : Option Path)
    (tree : FileTree) :
    (load environment projectDir asked?).run.run tree =
      ⟨loaded environment projectDir asked? tree, tree,
        [.configured (Source.located tree projectDir asked? environment.userConfigDir?)]⟩ := by
  simp only [load, loaded, Script.run_bind_except, Script.run_liftM, Source.run_locate,
    Script.run_report, Source.run_text, Script.andThen_ok]
  cases (Source.located tree projectDir asked? environment.userConfigDir?).contents tree <;> rfl

end Project

end SchemaPolicy
