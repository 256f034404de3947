import SchemaPolicy.CommandLine.Run
import SchemaPolicy.Proofs.Project.Generation

/-! What running a command line does to the files. Only `generate` and `init` write, and they write
one file as the last thing they do, so a run that fails leaves the files as they were. -/

namespace SchemaPolicy.CommandLine

variable {environment : Environment} {invocation : Invocation} {tree : FileTree}
  {schema? output? : Option Path} {toStdout : Bool}

/-! ### Outcomes -/

theorem exitCode_ofError (error : ProjectError) : (Outcome.ofError error).exitCode = 1 := by
  cases error <;> rfl

/-- Only a run that succeeds prints something. -/
theorem stdout_of_exitCode {outcome : Outcome} (h : outcome.exitCode ≠ 0) :
    outcome.stdout = "" := by
  cases outcome with
  | success text => exact absurd rfl h
  | _ => rfl

/-! ### Parts of a run -/

theorem run_concluded (script : ProjectScript Outcome) (tree : FileTree) :
    (concluded script).run tree =
      ⟨match (script.run.run tree).value with
        | .ok outcome => outcome
        | .error error => .ofError error, (script.run.run tree).tree,
        (script.run.run tree).events⟩ := by
  rw [concluded, Script.run_bind]
  cases (script.run.run tree).value <;> simp

/-- What a command does with the project that it loads; nothing, if there is none. -/
theorem run_withProject (environment : Environment) (invocation : Invocation)
    (rest : Project → ProjectScript Outcome) (tree : FileTree) :
    ∃ events, (withProject environment invocation rest).run tree =
      match Project.loaded environment invocation.dir invocation.config? tree with
      | .ok project =>
        ⟨((concluded (rest project)).run tree).value, ((concluded (rest project)).run tree).tree,
          events⟩
      | .error _ => ⟨.failure "Failed to load project configuration", tree, events⟩ := by
  rw [withProject, Script.run_bind, Project.run_load]
  cases Project.loaded environment invocation.dir invocation.config? tree with
  | ok project => exact ⟨_, rfl⟩
  | error error => exact ⟨_, rfl⟩

/-- What a run of `generate` comes to: its outcome, and the files that it leaves. -/
inductive Generates (environment : Environment) (invocation : Invocation)
    (schema? output? : Option Path) (toStdout : Bool) (tree : FileTree) :
    Outcome → FileTree → Prop
  | unloaded {error : ProjectError} {message : String}
    (load : Project.loaded environment invocation.dir invocation.config? tree = .error error) :
    Generates environment invocation schema? output? toStdout tree (.failure message) tree
  | refused {project : Project} {error : ProjectError}
    (load : Project.loaded environment invocation.dir invocation.config? tree = .ok project)
    (generate : project.generated schema? tree = .error error) :
    Generates environment invocation schema? output? toStdout tree (.ofError error) tree
  | printed {project : Project} {document : String}
    (load : Project.loaded environment invocation.dir invocation.config? tree = .ok project)
    (generate : project.generated schema? tree = .ok document)
    (target : toStdout = true ∨ project.outputPath? output? = none) :
    Generates environment invocation schema? output? toStdout tree (.success document) tree
  | unwritten {project : Project} {document : String} {path : Path} {fault : FileFault}
    (load : Project.loaded environment invocation.dir invocation.config? tree = .ok project)
    (generate : project.generated schema? tree = .ok document)
    (target : toStdout = false ∧ project.outputPath? output? = some path)
    (write : tree.write path document = .error fault) :
    Generates environment invocation schema? output? toStdout tree
      (.ofError (.inaccessible path fault)) tree
  | written {project : Project} {document : String} {path : Path} {after : FileTree}
    (load : Project.loaded environment invocation.dir invocation.config? tree = .ok project)
    (generate : project.generated schema? tree = .ok document)
    (target : toStdout = false ∧ project.outputPath? output? = some path)
    (write : tree.write path document = .ok after) :
    Generates environment invocation schema? output? toStdout tree (.success "") after

/-- A run of `generate` that succeeds has loaded a project, and has printed its document or written
it to a file. -/
theorem Generates.succeeded {outcome : Outcome} {after : FileTree}
    (h : Generates environment invocation schema? output? toStdout tree outcome after)
    (hexit : outcome.exitCode = 0) :
    ∃ project document,
      Project.loaded environment invocation.dir invocation.config? tree = .ok project ∧
      project.generated schema? tree = .ok document ∧
      ((toStdout = true ∨ project.outputPath? output? = none) ∧ after = tree ∧
        outcome.stdout = document ∨
      (toStdout = false ∧ ∃ path, project.outputPath? output? = some path ∧
        tree.write path document = .ok after) ∧ outcome.stdout = "") := by
  cases h with
  | unloaded load => contradiction
  | refused load generate =>
    rw [exitCode_ofError] at hexit
    contradiction
  | printed load generate target => exact ⟨_, _, load, generate, .inl ⟨target, rfl, rfl⟩⟩
  | unwritten load generate target write => contradiction
  | written load generate target write =>
    exact ⟨_, _, load, generate, .inr ⟨⟨target.1, _, target.2, write⟩, rfl⟩⟩

/-- Where there is a project and its document, all that is left is to print or to write it. -/
theorem Generates.of_document {outcome : Outcome} {after : FileTree} {project : Project}
    {document : String}
    (h : Generates environment invocation schema? output? toStdout tree outcome after)
    (hload : Project.loaded environment invocation.dir invocation.config? tree = .ok project)
    (hgenerate : project.generated schema? tree = .ok document) :
    (toStdout = true ∨ project.outputPath? output? = none) ∧ outcome = .success document ∧
        after = tree ∨
      ∃ path, (toStdout = false ∧ project.outputPath? output? = some path) ∧
        ((∃ fault, tree.write path document = .error fault ∧
            outcome = .ofError (.inaccessible path fault) ∧ after = tree) ∨
          tree.write path document = .ok after ∧ outcome = .success "") := by
  cases h with
  | unloaded load =>
    rw [hload] at load
    contradiction
  | refused load generate =>
    obtain rfl := Except.ok.inj (hload.symm.trans load)
    rw [hgenerate] at generate
    contradiction
  | printed load generate target =>
    obtain rfl := Except.ok.inj (hload.symm.trans load)
    obtain rfl := Except.ok.inj (hgenerate.symm.trans generate)
    exact .inl ⟨target, rfl, rfl⟩
  | unwritten load generate target write =>
    obtain rfl := Except.ok.inj (hload.symm.trans load)
    obtain rfl := Except.ok.inj (hgenerate.symm.trans generate)
    exact .inr ⟨_, target, .inl ⟨_, write, rfl, rfl⟩⟩
  | written load generate target write =>
    obtain rfl := Except.ok.inj (hload.symm.trans load)
    obtain rfl := Except.ok.inj (hgenerate.symm.trans generate)
    exact .inr ⟨_, target, .inr ⟨write, rfl⟩⟩

/-- Where there is a project but no document of it, the run fails and changes nothing. -/
theorem Generates.of_refused {outcome : Outcome} {after : FileTree} {project : Project}
    (h : Generates environment invocation schema? output? toStdout tree outcome after)
    (hload : Project.loaded environment invocation.dir invocation.config? tree = .ok project)
    (hrefused : ∀ document, project.generated schema? tree ≠ .ok document) :
    outcome.exitCode = 1 ∧ after = tree := by
  cases h with
  | unloaded load => exact ⟨rfl, rfl⟩
  | refused load generate => exact ⟨exitCode_ofError _, rfl⟩
  | printed load generate | unwritten load generate | written load generate =>
    obtain rfl := Except.ok.inj (hload.symm.trans load)
    exact absurd generate (hrefused _)

/-- A run of `generate` fails only for want of a project, of its document, or of a place for it. -/
theorem Generates.exitCode_eq_zero {outcome : Outcome} {after : FileTree} {project : Project}
    {document : String}
    (h : Generates environment invocation schema? output? toStdout tree outcome after)
    (hload : Project.loaded environment invocation.dir invocation.config? tree = .ok project)
    (hgenerate : project.generated schema? tree = .ok document)
    (hwritable : ∀ path, toStdout = false → project.outputPath? output? = some path →
      ∃ after, tree.write path document = .ok after) : outcome.exitCode = 0 := by
  obtain ⟨-, rfl, -⟩ | ⟨path, ⟨hfile, hpath⟩, ⟨fault, hfault, -⟩ | ⟨-, rfl⟩⟩ :=
    h.of_document hload hgenerate
  · rfl
  · obtain ⟨_, hwrite⟩ := hwritable path hfile hpath
    rw [hwrite] at hfault
    contradiction
  · rfl

/-- When all goes well and the document is wanted on standard output, it is printed. -/
theorem Generates.eq_success {outcome : Outcome} {after : FileTree} {project : Project}
    {document : String}
    (h : Generates environment invocation schema? output? true tree outcome after)
    (hload : Project.loaded environment invocation.dir invocation.config? tree = .ok project)
    (hgenerate : project.generated schema? tree = .ok document) : outcome = .success document := by
  obtain ⟨-, rfl, -⟩ | ⟨_, ⟨hfile, -⟩, -⟩ := h.of_document hload hgenerate
  · rfl
  · contradiction

/-- When all goes well and there is a file for the document, it is written there and not printed. -/
theorem Generates.eq_of_write {outcome : Outcome} {after written : FileTree} {project : Project}
    {document : String} {path : Path}
    (h : Generates environment invocation schema? output? false tree outcome after)
    (hload : Project.loaded environment invocation.dir invocation.config? tree = .ok project)
    (hgenerate : project.generated schema? tree = .ok document)
    (htarget : project.outputPath? output? = some path)
    (hwrite : tree.write path document = .ok written) :
    outcome = .success "" ∧ after = written := by
  rcases h.of_document hload hgenerate with ⟨hprinted | hnone, -⟩ | ⟨other, ⟨-, hother⟩, hdone⟩
  · contradiction
  · rw [htarget] at hnone
    contradiction
  · obtain rfl := Option.some.inj (htarget.symm.trans hother)
    rw [hwrite] at hdone
    rcases hdone with ⟨_, hfault, -⟩ | ⟨hafter, houtcome⟩
    · contradiction
    · exact ⟨houtcome, (Except.ok.inj hafter).symm⟩

theorem run_writeDocument (path : Path) (document : String) (tree : FileTree) :
    (writeDocument path document).run.run tree =
      match tree.write path document with
      | .ok after => ⟨.ok (), after, []⟩
      | .error fault => ⟨.error (.inaccessible path fault), tree, []⟩ := by
  simp only [writeDocument, ExceptT.run_mk, Script.run_bind, Script.write, Script.run]
  cases tree.write path document <;> rfl

theorem generates_run (invocation : Invocation)
    (hcommand : invocation.command = .generate schema? output? toStdout) :
    Generates environment invocation schema? output? toStdout tree
      ((invocation.run environment).run tree).value
      ((invocation.run environment).run tree).tree := by
  rw [Invocation.run, hcommand]
  obtain ⟨events, hrun⟩ := run_withProject environment invocation
    (generate schema? output? toStdout) tree
  simp only [hrun]
  cases hload : Project.loaded environment invocation.dir invocation.config? tree with
  | error error => exact .unloaded hload
  | ok project =>
    simp only [run_concluded]
    obtain ⟨events, hgenerate⟩ := project.run_generate schema? tree
    simp only [generate, Script.run_bind_except, hgenerate]
    cases hgenerated : project.generated schema? tree with
    | error error => exact .refused hload hgenerated
    | ok document =>
      simp only [Script.andThen_ok]
      cases htarget : if toStdout then none else project.outputPath? output? with
      | none =>
        refine .printed hload hgenerated ?_
        cases toStdout with
        | true => exact .inl rfl
        | false => exact .inr htarget
      | some path =>
        have htarget : toStdout = false ∧ project.outputPath? output? = some path := by
          cases toStdout with
          | true => contradiction
          | false => exact ⟨rfl, htarget⟩
        simp only [Script.run_bind_except, run_writeDocument]
        cases hwrite : tree.write path document with
        | error fault => exact .unwritten hload hgenerated htarget hwrite
        | ok after => exact .written hload hgenerated htarget hwrite

/-- What `list` comes to, by the project that it loads and the collections of this. -/
def listed (environment : Environment) (invocation : Invocation) (schema? : Option Path)
    (format : ListingFormat) (tree : FileTree) : Outcome :=
  match Project.loaded environment invocation.dir invocation.config? tree with
  | .ok project =>
    match project.extracted schema? tree with
    | .ok ds => .success (format.render ds)
    | .error error => .ofError error
  | .error _ => .failure "Failed to load project configuration"

theorem run_list {format : ListingFormat} (hcommand : invocation.command = .list schema? format)
    (tree : FileTree) :
    ∃ events, (invocation.run environment).run tree =
      ⟨listed environment invocation schema? format tree, tree, events⟩ := by
  rw [Invocation.run, hcommand]
  obtain ⟨events, hrun⟩ := run_withProject environment invocation (list schema? format) tree
  simp only [hrun, listed]
  cases Project.loaded environment invocation.dir invocation.config? tree with
  | error error => exact ⟨_, rfl⟩
  | ok project =>
    obtain ⟨events, hdescriptors⟩ := project.run_descriptors schema? tree
    simp only [run_concluded, list, Script.run_bind_except, hdescriptors]
    cases project.extracted schema? tree <;> exact ⟨_, rfl⟩

theorem tree_list {format : ListingFormat} (hcommand : invocation.command = .list schema? format)
    (tree : FileTree) : ((invocation.run environment).run tree).tree = tree := by
  obtain ⟨_, hrun⟩ := run_list hcommand tree
  rw [hrun]

theorem value_list {format : ListingFormat} (hcommand : invocation.command = .list schema? format)
    (tree : FileTree) : ((invocation.run environment).run tree).value =
      listed environment invocation schema? format tree := by
  obtain ⟨_, hrun⟩ := run_list hcommand tree
  rw [hrun]

/-- What a run of `init` in a directory comes to. -/
inductive Initializes (dir : Path) (force : Bool) (tree : FileTree) : Outcome → FileTree → Prop
  | refused {message : String} (present : tree.isPresent (dir.join starterFileName) = true)
    (unforced : force = false) : Initializes dir force tree (.failure message) tree
  | unwritten {fault : FileFault}
    (write : tree.write (dir.join starterFileName) starterConfig = .error fault) :
    Initializes dir force tree (.failure fault.message) tree
  | written {message : String} {after : FileTree}
    (free : tree.isPresent (dir.join starterFileName) = false ∨ force = true)
    (write : tree.write (dir.join starterFileName) starterConfig = .ok after) :
    Initializes dir force tree (.success message) after

theorem initializes_run (dir : Path) (force : Bool) (tree : FileTree) :
    Initializes dir force tree ((init dir force).run tree).value
      ((init dir force).run tree).tree := by
  simp only [init, Script.run_bind]
  by_cases hpresent : (((Script.isPresent (dir.join starterFileName)).run tree).value && !force) =
    true
  · rw [if_pos hpresent]
    rw [Bool.and_eq_true, Bool.not_eq_true'] at hpresent
    exact .refused hpresent.1 hpresent.2
  · rw [if_neg hpresent]
    simp only [Script.run_bind, Script.write, Script.run, Script.run_isPresent]
    cases hwrite : tree.write (dir.join starterFileName) starterConfig with
    | error fault => exact .unwritten hwrite
    | ok after =>
      rw [Bool.not_eq_true, Bool.and_eq_false_iff, Bool.not_eq_false'] at hpresent
      exact .written hpresent hwrite

/-! ### Whole runs -/

/-- A run changes nothing, or it succeeds and has written one file. -/
def Frugal (tree : FileTree) (outcome : Outcome) (after : FileTree) : Prop :=
  after = tree ∨ outcome.exitCode = 0 ∧ ∃ path text, tree.write path text = .ok after

theorem Generates.frugal {outcome : Outcome} {after : FileTree}
    (h : Generates environment invocation schema? output? toStdout tree outcome after) :
    Frugal tree outcome after := by
  cases h with
  | written load generate target write => exact .inr ⟨rfl, _, _, write⟩
  | _ => exact .inl rfl

theorem Initializes.frugal {dir : Path} {force : Bool} {outcome : Outcome} {after : FileTree}
    (h : Initializes dir force tree outcome after) : Frugal tree outcome after := by
  cases h with
  | written free write => exact .inr ⟨rfl, _, _, write⟩
  | _ => exact .inl rfl

theorem frugal_invocation (environment : Environment) (invocation : Invocation)
    (tree : FileTree) :
    Frugal tree ((invocation.run environment).run tree).value
      ((invocation.run environment).run tree).tree := by
  cases hcommand : invocation.command with
  | generate schema? output? toStdout => exact (generates_run invocation hcommand).frugal
  | list schema? format => exact .inl (tree_list hcommand tree)
  | init force =>
    rw [Invocation.run, hcommand]
    exact (initializes_run invocation.dir force tree).frugal

theorem run_of_choose? {arguments : List String}
    (h : Invocation.ofArguments arguments = .ok invocation)
    (hfilter : (LogFilter.choose? environment invocation.verbose).isSome) :
    run environment arguments = invocation.run environment := by
  obtain ⟨filter, hfilter⟩ := Option.isSome_iff_exists.mp hfilter
  simp only [run, h, hfilter]

/-- A command line that can be read is carried out, unless there is no log filter. -/
theorem run_of_invocation (environment : Environment) {arguments : List String}
    (h : Invocation.ofArguments arguments = .ok invocation) :
    run environment arguments = invocation.run environment ∨
      run environment arguments = return .brokenOff := by
  cases hfilter : LogFilter.choose? environment invocation.verbose with
  | some _ => exact .inl (run_of_choose? h (Option.isSome_of_eq_some hfilter))
  | none => exact .inr (by simp only [run, h, hfilter])

theorem frugal_run (environment : Environment) (arguments : List String) (tree : FileTree) :
    Frugal tree ((run environment arguments).run tree).value
      ((run environment arguments).run tree).tree := by
  cases harguments : Invocation.ofArguments arguments with
  | ok invocation =>
    rcases run_of_invocation environment harguments with hrun | hrun
    · rw [hrun]
      exact frugal_invocation environment invocation tree
    · rw [hrun]
      exact .inl rfl
  | error interruption =>
    rw [run, harguments]
    cases interruption <;> exact .inl rfl

end SchemaPolicy.CommandLine
