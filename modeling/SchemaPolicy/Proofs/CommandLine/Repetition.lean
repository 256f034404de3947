import SchemaPolicy.Proofs.CommandLine.Footprint
import SchemaPolicy.Proofs.Project.Lookup

/-! Running `generate` once more. What a run looks at is the schema, and the files in which a
configuration is looked for. If the document is put into a file apart from these, the next run finds
what this one found, and writes what is there already. -/

namespace SchemaPolicy

open Outcome

namespace Project

theorem generated_write {project : Project} {schema? : Option Path} {tree after : FileTree}
    {target : Path} {text document : String} (hwrite : tree.write target text = .ok after)
    (hapart : ¬after.SameFile target (project.schemaPath schema?))
    (hgenerate : project.generated schema? tree = .ok document) :
    project.generated schema? after = .ok document := by
  rw [generated_eq, bind_eq_ok_iff] at hgenerate ⊢
  obtain ⟨schema, hschema, hcompile⟩ := hgenerate
  rw [mapError_eq_ok_iff] at hschema
  refine ⟨schema, ?_, hcompile⟩
  rwa [mapError_eq_ok_iff, FileTree.read_write_eq_ok_iff hwrite hapart]

end Project

namespace CommandLine

/-- The files that a run of `generate` may look at: the schema, and all that can hold the
configuration. -/
def inputs (environment : Environment) (invocation : Invocation) (schema? : Option Path)
    (project : Project) : List Path :=
  project.schemaPath schema? ::
    (Source.candidates invocation.dir invocation.config? environment.userConfigDir?).filterMap
      Source.path?

variable {call : Call} {invocation : Invocation} {schema? output? : Option Path} {toStdout : Bool}
  {tree : FileTree}

theorem mem_inputs_of_candidate {environment : Environment} {project : Project} {source : Source}
    {path : Path} (hsource : source ∈
      Source.candidates invocation.dir invocation.config? environment.userConfigDir?)
    (hpath : source.path? = some path) : path ∈ inputs environment invocation schema? project :=
  List.mem_cons_of_mem _ (List.mem_filterMap.mpr ⟨source, hsource, hpath⟩)

/-- Once `generate` has succeeded, and has not put the document into a file that it may look at, the
same run again comes to the same and leaves all files as they are. -/
theorem generate_again (hread : Invocation.ofArguments call.arguments = .ok invocation)
    (hcommand : invocation.command = .generate schema? output? toStdout)
    (hexit : (call.effect tree).value.exitCode = 0)
    (hapart : ∀ project target,
      ((Project.load call.environment invocation.dir invocation.config?).run.run tree).value =
        .ok project →
      toStdout = false → project.outputPath? output? = some target →
      ∀ input ∈ inputs call.environment invocation schema? project,
        ¬(call.effect tree).tree.SameFile target input) :
    (call.effect (call.effect tree).tree).value = (call.effect tree).value ∧
      (call.effect (call.effect tree).tree).tree = (call.effect tree).tree := by
  rcases run_of_invocation call.environment hread with hrun | hrun
  · have hruns : ∀ tree, Generates call.environment invocation schema? output? toStdout tree
        (call.effect tree).value (call.effect tree).tree := by
      intro tree
      rw [Call.effect, hrun]
      exact generates_run invocation hcommand
    obtain ⟨project, document, hload, hgenerate, htarget⟩ := (hruns tree).succeeded hexit
    rcases htarget with ⟨-, hsame, -⟩ | ⟨⟨rfl, target, htarget, hwrite⟩, -⟩
    · rw [hsame]
      exact ⟨rfl, hsame⟩
    · rw [Project.run_load] at hapart
      have hinputs := hapart project target hload rfl htarget
      obtain ⟨hfirst, -⟩ := (hruns tree).eq_of_write hload hgenerate htarget hwrite
      -- The next run finds the same project and the same document, and there is a place for it.
      have hload := Project.loaded_write hwrite (fun source hsource path hpath =>
        hinputs path (mem_inputs_of_candidate hsource hpath)) hload
      have hgenerate := Project.generated_write hwrite (hinputs _ List.mem_cons_self) hgenerate
      have hwrite := FileTree.write_write hwrite
      rw [hfirst]
      exact (hruns _).eq_of_write hload hgenerate htarget hwrite
  · rw [Call.effect, hrun] at hexit
    contradiction

theorem generate_again_configured :
    ∃ (call : Call) (tree : FileTree), call.arguments = ["generate"] ∧
      tree.read ⟨"tenant-rules.toml"⟩ = .ok "output.file = 'rules'" ∧
      (call.effect tree).value = .success "" ∧
      (call.effect tree).tree.isFile ⟨"rules"⟩ = true ∧
      (call.effect (call.effect tree).tree).value = .success "" ∧
      (call.effect (call.effect tree).tree).tree = (call.effect tree).tree := by
  let tree := configuredTree
  let call : Call := ⟨{}, ["generate"]⟩
  let project := configuredProject
  let document := configuredDocument
  let after := tree.put ["rules".toList] (.file (.text document))
  have hread : Invocation.ofArguments call.arguments =
      .ok ⟨false, none, ⟨"."⟩, .generate none none false⟩ := by rfl
  have hload := loaded_configured
  have hgenerate := generated_configured
  have htarget := outputPath?_configured
  have hwrite := write_configured
  have hrun : Generates {} ⟨false, none, ⟨"."⟩, .generate none none false⟩ none none false tree
      (call.effect tree).value (call.effect tree).tree := by
    rw [Call.effect, run_of_choose? hread rfl]
    exact generates_run _ rfl
  obtain ⟨hvalue, htree⟩ := hrun.eq_of_write hload hgenerate htarget hwrite
  have hexit : (call.effect tree).value.exitCode = 0 := by
    rw [hvalue]
    rfl
  have hinputs : inputs {} ⟨false, none, ⟨"."⟩, .generate none none false⟩ none project =
      [⟨"./schema.graphql"⟩, ⟨"./tenant-rules.toml"⟩, ⟨"./.tenant-rules.toml"⟩] :=
    congrArg (· :: _) schemaPath_configured
  have hplace : after.locate ⟨"./rules"⟩ = .ok ["rules".toList] := by rfl
  have hapart : ∀ input ∈ inputs {} ⟨false, none, ⟨"."⟩, .generate none none false⟩ none project,
      ¬after.SameFile ⟨"./rules"⟩ input := by
    have hfirst : after.locate ⟨"./schema.graphql"⟩ = .ok ["schema.graphql".toList] := by rfl
    have hsecond : after.locate ⟨"./tenant-rules.toml"⟩ = .ok ["tenant-rules.toml".toList] := by
      rfl
    have hthird : after.locate ⟨"./.tenant-rules.toml"⟩ = .error .notFound := by rfl
    simp only [hinputs, List.forall_mem_cons, FileTree.sameFile_iff hplace, hfirst, hsecond, hthird]
    decide
  have hagain := generate_again hread rfl hexit (by
    intro loaded target hloaded _ hfile
    rw [Project.run_load] at hloaded
    obtain rfl := Except.ok.inj (hload.symm.trans hloaded)
    obtain rfl := Option.some.inj (htarget.symm.trans hfile)
    rw [htree]
    exact hapart)
  rw [hvalue] at hagain
  refine ⟨call, tree, rfl, by rfl, hvalue, ?_, hagain⟩
  rw [htree]
  rfl

end CommandLine

end SchemaPolicy
