import Mathlib.Data.List.Induction
import SchemaPolicy.Proofs.CommandLine.Effect

/-! The footprint of runs, one after another: a run that fails leaves no trace, `list` never leaves
one, and `generate` prints its document or puts it into one file. Whatever differs after all the
runs was put there by one of them that succeeded. -/

namespace SchemaPolicy

theorem Project.outputPath?_eq_none_iff {project : Project} {asked? : Option Path} :
    project.outputPath? asked? = none ↔ asked? = none ∧ project.config.output.file? = none := by
  cases asked? with
  | some path => simp [outputPath?]
  | none => simp [outputPath?]

namespace CommandLine

open FileTree (Replaced replaced_of_write)

/-- One run of the program: its surroundings and its command line. -/
structure Call where
  environment : Environment
  arguments : List String

/-- What comes of a run on the files of a tree. -/
def Call.effect (call : Call) (tree : FileTree) : Script.Effect Outcome :=
  (run call.environment call.arguments).run tree

/-- The files after some runs, one after another. -/
def filesAfter (tree : FileTree) (calls : List Call) : FileTree :=
  calls.foldl (fun tree call => (call.effect tree).tree) tree

/-- What keeps a run of `generate` from its end: there is no project, no document of it, or no place
for the document. -/
inductive Obstacle (environment : Environment) (invocation : Invocation)
    (schema? output? : Option Path) (toStdout : Bool) (tree : FileTree) : Prop
  | unloaded {error : ProjectError}
    (load : ((Project.load environment invocation.dir invocation.config?).run.run tree).value =
      .error error) : Obstacle environment invocation schema? output? toStdout tree
  | refused {project : Project} {error : ProjectError}
    (load : ((Project.load environment invocation.dir invocation.config?).run.run tree).value =
      .ok project)
    (generate : ((project.generate schema?).run.run tree).value = .error error) :
    Obstacle environment invocation schema? output? toStdout tree
  | unwritable {project : Project} {document : String} {path : Path} {fault : FileFault}
    (load : ((Project.load environment invocation.dir invocation.config?).run.run tree).value =
      .ok project)
    (generate : ((project.generate schema?).run.run tree).value = .ok document)
    (target : toStdout = false ∧ project.outputPath? output? = some path)
    (write : tree.write path document = .error fault) :
    Obstacle environment invocation schema? output? toStdout tree

theorem Obstacle.exitCode_ne_zero {environment : Environment} {invocation : Invocation}
    {schema? output? : Option Path} {toStdout : Bool} {tree after : FileTree} {outcome : Outcome}
    (hobstacle : Obstacle environment invocation schema? output? toStdout tree)
    (h : Generates environment invocation schema? output? toStdout tree outcome after) :
    outcome.exitCode ≠ 0 := by
  intro hexit
  obtain ⟨project, document, hload, hgenerate, htarget⟩ := h.succeeded hexit
  cases hobstacle with
  | unloaded load =>
    rw [Project.run_load, hload] at load
    contradiction
  | refused load generate =>
    rw [Project.run_load, hload] at load
    obtain rfl := Except.ok.inj load
    rw [Project.value_generate, hgenerate] at generate
    contradiction
  | unwritable load generate target write =>
    rw [Project.run_load, hload] at load
    obtain rfl := Except.ok.inj load
    rw [Project.value_generate, hgenerate] at generate
    obtain rfl := Except.ok.inj generate
    rcases htarget with ⟨hprinted | hnone, -⟩ | ⟨⟨-, path, hpath, hwrite⟩, -⟩
    · rw [target.1] at hprinted
      contradiction
    · rw [target.2] at hnone
      contradiction
    · obtain rfl := Option.some.inj (target.2.symm.trans hpath)
      rw [hwrite] at write
      contradiction

/-- What a run of a command may leave behind. -/
structure Footprint (call : Call) (tree : FileTree) : Prop where
  failure : (call.effect tree).value.exitCode ≠ 0 →
    (call.effect tree).tree = tree ∧ (call.effect tree).value.stdout = ""
  /-- The document is printed, or is put into a file; then `--stdout` would have printed it. -/
  generate : ∀ invocation schema? output? toStdout,
    Invocation.ofArguments call.arguments = .ok invocation →
    invocation.command = .generate schema? output? toStdout →
    (call.effect tree).value.exitCode = 0 →
    ∃ project document,
      ((Project.load call.environment invocation.dir invocation.config?).run.run tree).value =
        .ok project ∧
      ((project.generate schema?).run.run tree).value = .ok document ∧
      ((toStdout = true ∨ output? = none ∧ project.config.output.file? = none) ∧
        (call.effect tree).tree = tree ∧ (call.effect tree).value.stdout = document ∨
      (toStdout = false ∧ ∃ path, project.outputPath? output? = some path ∧
        Replaced tree path document (call.effect tree).tree) ∧
        (call.effect tree).value.stdout = "" ∧
        ((Invocation.run call.environment
          { invocation with command := .generate schema? none true }).run tree).value =
            .success document)
  /-- Where there is no project, no document or no place for it, the run fails. -/
  refusal : ∀ invocation schema? output? toStdout,
    Invocation.ofArguments call.arguments = .ok invocation →
    invocation.command = .generate schema? output? toStdout →
    Obstacle call.environment invocation schema? output? toStdout tree →
    (call.effect tree).value.exitCode ≠ 0
  /-- Where there is a project, its document and a place for it, nothing makes the run fail. -/
  completion : ∀ invocation schema? output? toStdout project document,
    Invocation.ofArguments call.arguments = .ok invocation →
    invocation.command = .generate schema? output? toStdout →
    (LogFilter.choose? call.environment invocation.verbose).isSome →
    ((Project.load call.environment invocation.dir invocation.config?).run.run tree).value =
      .ok project →
    ((project.generate schema?).run.run tree).value = .ok document →
    (∀ path, toStdout = false → project.outputPath? output? = some path →
      ∃ after, tree.write path document = .ok after) →
    (call.effect tree).value.exitCode = 0
  list : ∀ invocation schema? format,
    Invocation.ofArguments call.arguments = .ok invocation →
    invocation.command = .list schema? format → (call.effect tree).tree = tree

theorem footprint (call : Call) (tree : FileTree) : Footprint call tree where
  failure := by
    intro hfailed
    refine ⟨?_, stdout_of_exitCode hfailed⟩
    exact (frugal_run call.environment call.arguments tree).resolve_right
      fun h => hfailed h.1
  generate := by
    intro invocation schema? output? toStdout harguments hcommand hexit
    rcases run_of_invocation call.environment harguments with hrun | hrun
    · rw [Call.effect, hrun] at hexit ⊢
      obtain ⟨project, document, hload, hgenerate, htarget⟩ :=
        (generates_run invocation hcommand).succeeded hexit
      refine ⟨project, document, ?_, ?_, ?_⟩
      · rw [Project.run_load, hload]
      · rw [Project.value_generate, hgenerate]
      · rw [Project.outputPath?_eq_none_iff] at htarget
        refine htarget.imp_right ?_
        rintro ⟨⟨hfile, path, hpath, hwrite⟩, hstdout⟩
        refine ⟨⟨hfile, path, hpath, replaced_of_write hwrite⟩, hstdout, ?_⟩
        exact (generates_run { invocation with command := .generate schema? none true }
          rfl).eq_success hload hgenerate
    · rw [Call.effect, hrun] at hexit
      contradiction
  refusal := by
    intro invocation schema? output? toStdout harguments hcommand hobstacle
    rw [Call.effect]
    rcases run_of_invocation call.environment harguments with hrun | hrun
    · rw [hrun]
      exact hobstacle.exitCode_ne_zero (generates_run invocation hcommand)
    · rw [hrun]
      exact nofun
  completion := by
    intro invocation schema? output? toStdout project document harguments hcommand hfilter hload
      hgenerate hwritable
    rw [Project.run_load] at hload
    rw [Project.value_generate] at hgenerate
    rw [Call.effect, run_of_choose? harguments hfilter]
    exact (generates_run invocation hcommand).exitCode_eq_zero hload hgenerate hwritable
  list := by
    intro invocation schema? format harguments hcommand
    rw [Call.effect]
    rcases run_of_invocation call.environment harguments with hrun | hrun
    · rw [hrun]
      exact tree_list hcommand tree
    · rw [hrun]
      rfl

/-! ### One run after another -/

theorem filesAfter_concat (tree : FileTree) (calls : List Call) (call : Call) :
    filesAfter tree (calls ++ [call]) = (call.effect (filesAfter tree calls)).tree := by
  simp [filesAfter]

/-- A run that changes what stands in a place has succeeded and has put a text there. -/
theorem Call.written_of_lookup?_ne (call : Call) {tree : FileTree} {location : Location}
    (h : (call.effect tree).tree.lookup? location ≠ tree.lookup? location) :
    (call.effect tree).value.exitCode = 0 ∧ ∃ path text,
      tree.destination path = .ok location ∧ Replaced tree path text (call.effect tree).tree ∧
      (call.effect tree).tree.lookup? location = some (.file (.text text)) := by
  rcases frugal_run call.environment call.arguments tree with hsame | ⟨hexit, path, text, hwrite⟩
  · exact absurd (congrArg (·.lookup? location) hsame) h
  · have hreplaced := replaced_of_write hwrite
    obtain ⟨place, hplace, hlookup, hframe⟩ := hreplaced.frame
    have hlocation : location = place :=
      not_imp_comm.mp (fun hother => (hframe location hother).1) h
    subst hlocation
    exact ⟨hexit, path, text, hplace, hreplaced, hlookup⟩

/-- Each of some runs leaves no more than its own footprint, and where the files differ in the end
there is the text that the last run to write there has put there. -/
theorem runs_accounted (start : FileTree) (calls : List Call) :
    (∀ earlier call later, calls = earlier ++ call :: later →
      Footprint call (filesAfter start earlier)) ∧
    ∀ location, (filesAfter start calls).lookup? location ≠ start.lookup? location →
      ∃ earlier call later path text, calls = earlier ++ call :: later ∧
        (call.effect (filesAfter start earlier)).value.exitCode = 0 ∧
        (filesAfter start earlier).destination path = .ok location ∧
        Replaced (filesAfter start earlier) path text (filesAfter start (earlier ++ [call])) ∧
        (filesAfter start calls).lookup? location = some (.file (.text text)) := by
  refine ⟨fun earlier call _ _ => footprint call (filesAfter start earlier), fun location => ?_⟩
  -- The last run comes first: it wrote there, or an earlier one did.
  induction calls using List.reverseRecOn with
  | nil => exact fun h => absurd rfl h
  | append_singleton calls call ih =>
    intro hchanged
    rw [filesAfter_concat] at hchanged ⊢
    by_cases hstep : (call.effect (filesAfter start calls)).tree.lookup? location =
        (filesAfter start calls).lookup? location
    · rw [hstep] at hchanged ⊢
      obtain ⟨earlier, writer, later, path, text, rfl, hwritten⟩ := ih hchanged
      refine ⟨earlier, writer, later ++ [call], path, text, ?_, hwritten⟩
      rw [List.append_assoc, List.cons_append]
    · obtain ⟨hexit, path, text, hplace, hreplaced, hlookup⟩ := call.written_of_lookup?_ne hstep
      refine ⟨calls, call, [], path, text, rfl, hexit, hplace, ?_, hlookup⟩
      rwa [filesAfter_concat]

/-! ### A configured project -/

/-- A directory with a schema, and with a configuration that names a file for the document. -/
def configuredTree : FileTree where
  entries := [
    (["tenant-rules.toml".toList], .file (.text "output.file = 'rules'")),
    (["schema.graphql".toList],
      .file (.text "type Post @collection(name: \"posts\", type: DOC_PER_USER)"))]

/-- The project in this directory. -/
def configuredProject : Project :=
  ⟨.project ⟨"./tenant-rules.toml"⟩, ⟨"."⟩, { output := { file? := some ⟨"rules"⟩ } }, []⟩

/-- The document of this project. -/
def configuredDocument : String := String.ofList (Ruleset.render {} [⟨"posts", .docPerUser⟩] [])

theorem loaded_configured :
    Project.loaded {} ⟨"."⟩ none configuredTree = .ok configuredProject := by
  have hlocated : Source.located configuredTree ⟨"."⟩ none none =
      .project ⟨"./tenant-rules.toml"⟩ := by rfl
  have htext : configuredTree.read ⟨"./tenant-rules.toml"⟩ = .ok "output.file = 'rules'" := by rfl
  have hconfig : Config.ofText "output.file = 'rules'" =
      .ok { output := { file? := some ⟨"rules"⟩ } } :=
    Outcome.eq_ok_of_toOption (by decide +kernel)
  have hrules : extraRulesOfText "output.file = 'rules'" = .ok [] :=
    Outcome.eq_ok_of_toOption (by decide +kernel)
  rw [Project.loaded_eq_ofText hlocated rfl htext]
  exact Project.ofText_eq_ok_iff.mpr ⟨_, _, hconfig, hrules, rfl⟩

theorem schemaPath_configured : configuredProject.schemaPath none = ⟨"./schema.graphql"⟩ := rfl

theorem generated_configured :
    configuredProject.generated none configuredTree = .ok configuredDocument := by
  have htext : configuredTree.read (configuredProject.schemaPath none) =
      .ok "type Post @collection(name: \"posts\", type: DOC_PER_USER)" := by
    rw [schemaPath_configured]
    rfl
  have hcompile : (compile "type Post @collection(name: \"posts\", type: DOC_PER_USER)"
      configuredProject.extraRules configuredProject.config).result =
        .ok configuredDocument := by rfl
  rw [Project.generated_of_read htext, hcompile]
  rfl

theorem outputPath?_configured : configuredProject.outputPath? none = some ⟨"./rules"⟩ := rfl

theorem write_configured :
    configuredTree.write ⟨"./rules"⟩ configuredDocument =
      .ok (configuredTree.put ["rules".toList] (.file (.text configuredDocument))) := by
  rfl

/-- A run for a file in a directory that is not there fails and leaves no trace; the next one puts
the document into the configured file, and nothing else differs after both. -/
theorem runs_accounted_configured :
    ∃ (failing writing : Call) (after : FileTree),
      failing.arguments = ["generate", "-o", "missing/rules"] ∧ writing.arguments = ["generate"] ∧
      after = filesAfter configuredTree [failing, writing] ∧
      (failing.effect configuredTree).value.exitCode ≠ 0 ∧
      (failing.effect configuredTree).value.stdout = "" ∧
      (failing.effect configuredTree).tree = configuredTree ∧
      (writing.effect configuredTree).value.exitCode = 0 ∧
      (writing.effect configuredTree).value.stdout = "" ∧
      Replaced configuredTree ⟨"./rules"⟩ configuredDocument after ∧
      ((Invocation.run {} ⟨false, none, ⟨"."⟩, .generate none none true⟩).run
        configuredTree).value = .success configuredDocument ∧
      ∀ location, after.lookup? location ≠ configuredTree.lookup? location →
        ∃ text, after.lookup? location = some (.file (.text text)) := by
  let failing : Call := ⟨{}, ["generate", "-o", "missing/rules"]⟩
  let writing : Call := ⟨{}, ["generate"]⟩
  let after := filesAfter configuredTree [failing, writing]
  obtain ⟨hfootprint, hchange⟩ := runs_accounted configuredTree [failing, writing]
  have hload : ((Project.load {} ⟨"."⟩ none).run.run configuredTree).value =
      .ok configuredProject := by
    rw [Project.run_load, loaded_configured]
  have hgenerate : ((configuredProject.generate none).run.run configuredTree).value =
      .ok configuredDocument := by
    rw [Project.value_generate, generated_configured]
  have hnowhere : configuredTree.write ⟨"missing/rules"⟩ configuredDocument = .error .notFound := by
    rfl
  have hfailing := hfootprint [] failing [writing] rfl
  have hexit : (failing.effect configuredTree).value.exitCode ≠ 0 :=
    hfailing.refusal ⟨false, none, ⟨"."⟩, .generate none (some ⟨"missing/rules"⟩) false⟩ none
      (some ⟨"missing/rules"⟩) false (by rfl) rfl
      (.unwritable hload hgenerate ⟨rfl, rfl⟩ hnowhere)
  obtain ⟨htree, hstdout⟩ := hfailing.failure hexit
  have hbetween : filesAfter configuredTree [failing] = configuredTree := htree
  have hwriting := hfootprint [failing] writing [] rfl
  rw [hbetween] at hwriting
  have hdone : (writing.effect configuredTree).value.exitCode = 0 :=
    hwriting.completion ⟨false, none, ⟨"."⟩, .generate none none false⟩ none none false
      configuredProject configuredDocument (by rfl) rfl rfl hload hgenerate fun path _ hpath => by
        obtain rfl := Option.some.inj (outputPath?_configured.symm.trans hpath)
        exact ⟨_, write_configured⟩
  obtain ⟨project, document, hload', hgenerate', hplace⟩ :=
    hwriting.generate ⟨false, none, ⟨"."⟩, .generate none none false⟩ none none false (by rfl) rfl
      hdone
  obtain rfl := Except.ok.inj (hload.symm.trans hload')
  obtain rfl := Except.ok.inj (hgenerate.symm.trans hgenerate')
  have hafter : after = (writing.effect configuredTree).tree := by
    rw [← hbetween]
    exact filesAfter_concat configuredTree [failing] writing
  have hfile : configuredProject.config.output.file? = some ⟨"rules"⟩ := rfl
  rcases hplace with ⟨hprinted | ⟨-, hnone⟩, -⟩ | ⟨⟨-, path, hpath, hreplaced⟩, hquiet, hprinting⟩
  · exact absurd hprinted Bool.false_ne_true
  · rw [hfile] at hnone
    exact absurd hnone (Option.some_ne_none _)
  · obtain rfl := Option.some.inj (outputPath?_configured.symm.trans hpath)
    rw [← hafter] at hreplaced
    refine ⟨failing, writing, after, rfl, rfl, rfl, hexit, hstdout, htree, hdone, hquiet, hreplaced,
      hprinting, fun location hne => ?_⟩
    obtain ⟨_, _, _, _, text, -, -, -, -, htext⟩ := hchange location hne
    exact ⟨text, htext⟩

end CommandLine

end SchemaPolicy
