import Mathlib.Data.List.Find
import SchemaPolicy.Proofs.FileTree.Steps
import SchemaPolicy.Proofs.Project.Loading

/-! Which configuration a project is loaded with. There is a fixed list of candidates, and the first
one in place is used: if it is faulty in any way, loading fails and names it, and no other candidate
has a part in what comes of it. What counts is that the path of a candidate leads to a file; a file
that stands in the directory but is not reached by its path is passed over. -/

namespace SchemaPolicy

open Outcome

variable {projectDir : Path} {asked? userDir? : Option Path} {tree : FileTree}

namespace Source

/-- The places where a configuration is looked for, the preferred one first. -/
def candidates (projectDir : Path) (asked? userDir? : Option Path) : List Source :=
  (asked?.map flag).toList ++ projectFileNames.map (fun name => project (projectDir.join name)) ++
    (userDir?.map fun directory => user (directory.join userFileName)).toList ++ [defaults]

theorem isName_of_mem {name : Path} (h : name ∈ projectFileNames) : name.IsName := by
  rw [projectFileNames, List.mem_cons, List.mem_singleton] at h
  rcases h with rfl | rfl <;> exact ⟨by decide, by decide, by decide, by decide, by decide⟩

/-- A candidate that is not passed over. A file that is asked for need not exist. -/
def InPlace (tree : FileTree) : Source → Prop
  | flag _ | defaults => True
  | project path | user path => tree.isFile path = true

instance (tree : FileTree) : DecidablePred (InPlace tree) := fun source =>
  match source with
  | flag _ | defaults => isTrue trivial
  | project path | user path => inferInstanceAs (Decidable (tree.isFile path = true))

theorem find?_candidates (tree : FileTree) (projectDir : Path) (asked? userDir? : Option Path) :
    (candidates projectDir asked? userDir?).find? (InPlace tree ·) =
      some (located tree projectDir asked? userDir?) := by
  cases asked? with
  | some path => rfl
  | none =>
    have hproject : ∀ path, decide ((project path).InPlace tree) = tree.isFile path :=
      fun _ => Bool.decide_eq_true
    have huser : ∀ path, decide ((user path).InPlace tree) = tree.isFile path :=
      fun _ => Bool.decide_eq_true
    unfold candidates located
    simp only [List.find?_append, List.find?_map, Function.comp_def, hproject]
    cases projectFileNames.find? fun name => tree.isFile (projectDir.join name) with
    | some name => rfl
    | none =>
      cases userDir? with
      | none => rfl
      | some directory =>
        simp only [Option.map_some, Option.toList_some, Option.bind_some, List.find?_singleton,
          huser]
        cases tree.isFile (directory.join userFileName) <;> rfl

/-- The configuration is that of the first candidate in place. -/
theorem located_eq_iff {source : Source} :
    located tree projectDir asked? userDir? = source ↔
      ∃ higher lower, candidates projectDir asked? userDir? = higher ++ source :: lower ∧
        (∀ other ∈ higher, ¬other.InPlace tree) ∧ source.InPlace tree := by
  have hfind := find?_candidates tree projectDir asked? userDir?
  rw [← Option.some_inj, ← hfind, List.find?_eq_some_iff_append]
  simp only [decide_eq_true_eq, Bool.not_eq_true', decide_eq_false_iff_not]
  constructor
  · rintro ⟨hsource, higher, lower, hsplit, hhigher⟩
    exact ⟨higher, lower, hsplit, hhigher, hsource⟩
  · rintro ⟨higher, lower, hsplit, hhigher, hsource⟩
    exact ⟨hsource, higher, lower, hsplit, hhigher⟩

theorem contents_of_path? {source : Source} {path : Path} (h : source.path? = some path)
    (tree : FileTree) :
    source.contents tree = (tree.read path).mapError (.inaccessible path) := by
  rw [contents, h]

theorem contents_of_text {source : Source} {path : Path} {text : String}
    (h : source.path? = some path) (hfind : tree.find path = .ok (.file (.text text))) :
    source.contents tree = .ok text := by
  rw [contents_of_path? h, FileTree.read_of_find_text hfind, mapError_ok]

theorem contents_of_path?_eq_none {source : Source} (h : source.path? = none) (tree : FileTree) :
    source.contents tree = .ok "" := by
  rw [contents, h]

theorem eq_defaults_of_path?_eq_none {source : Source} (h : source.path? = none) :
    source = defaults := by
  cases source with
  | defaults => rfl
  | flag path | project path | user path => contradiction

/-! ### Another file written -/

variable {after : FileTree} {target : Path} {written : String} {source : Source}

theorem inPlace_write (hwrite : tree.write target written = .ok after)
    (hapart : ∀ path, source.path? = some path → ¬after.SameFile target path) :
    source.InPlace after ↔ source.InPlace tree := by
  cases source with
  | flag _ | defaults => exact Iff.rfl
  | project path | user path =>
    rw [InPlace, InPlace, FileTree.isFile_write hwrite (hapart path rfl)]

theorem contents_write_eq_ok_iff {text : String} (hwrite : tree.write target written = .ok after)
    (hapart : ∀ path, source.path? = some path → ¬after.SameFile target path) :
    source.contents after = .ok text ↔ source.contents tree = .ok text := by
  cases hpath : source.path? with
  | none => rw [contents_of_path?_eq_none hpath, contents_of_path?_eq_none hpath]
  | some path =>
    rw [contents_of_path? hpath, contents_of_path? hpath, mapError_eq_ok_iff, mapError_eq_ok_iff,
      FileTree.read_write_eq_ok_iff hwrite (hapart path hpath)]

theorem located_mem_candidates (tree : FileTree) (projectDir : Path)
    (asked? userDir? : Option Path) :
    located tree projectDir asked? userDir? ∈ candidates projectDir asked? userDir? :=
  List.mem_of_find?_eq_some (find?_candidates tree projectDir asked? userDir?)

theorem located_write (hwrite : tree.write target written = .ok after)
    (hapart : ∀ source ∈ candidates projectDir asked? userDir?, ∀ path,
      source.path? = some path → ¬after.SameFile target path) :
    located after projectDir asked? userDir? = located tree projectDir asked? userDir? := by
  rw [← Option.some_inj, ← find?_candidates, ← find?_candidates]
  refine List.find?_congr fun source hsource => ?_
  exact decide_eq_decide.mpr (inPlace_write hwrite (hapart source hsource))

end Source

namespace Path

/-- The path of the directory where it starts, spelled with a number of dots. -/
def dots (count : Nat) : Path := ⟨String.ofList (List.replicate count ['.', '/']).flatten⟩

theorem toList_dots (count : Nat) :
    (dots count).text.toList = (List.replicate count ['.', '/']).flatten :=
  String.toList_ofList

theorem byteSize_dots (count : Nat) : Text.byteSize (dots count).text.toList = 2 * count := by
  rw [toList_dots]
  induction count with
  | zero => rfl
  | succ count ih =>
    rw [List.replicate_succ, List.flatten_cons, Text.byteSize_append, ih, Nat.mul_succ,
      Nat.add_comm]
    rfl

theorem pieces_dots (count : Nat) :
    pieces (dots count).text.toList = List.replicate count ['.'] ++ [[]] := by
  rw [toList_dots]
  induction count with
  | zero => rfl
  | succ count ih =>
    rw [List.replicate_succ, List.flatten_cons]
    exact (pieces_append_slash ['.'] _).trans (congrArg (['.'] :: ·) ih)

end Path

theorem FileTree.locate_dots {count : Nat} (hcount : count ≠ 0) (hlimit : 2 * count ≤ pathLimit)
    (hopen : tree.bar? tree.workingDir = none) :
    tree.locate (.dots count) = .ok tree.workingDir := by
  obtain ⟨count, rfl⟩ := Nat.exists_eq_succ_of_ne_zero hcount
  have hcheck : check (.dots (count + 1)) = .ok () := by
    rw [check_eq_ok_iff, Path.byteSize_dots, Path.toList_dots]
    exact ⟨by simp [List.replicate_succ], by simp, hlimit⟩
  have hstart : tree.start (.dots (count + 1)) = tree.workingDir := by
    rw [start, Path.isAbsolute, Path.toList_dots]
    rfl
  have hdirectory : tree.lookup? tree.workingDir = some .directory := by
    rw [lookup?, if_pos (List.isPrefixOf_iff_prefix.mpr (List.prefix_refl _))]
  refine bind_eq_ok_iff.mpr ⟨(), hcheck, ?_⟩
  rw [Path.pieces_dots, hstart]
  refine foldlM_follow_of_idle (fun piece hpiece => ?_) hdirectory hopen
  rw [List.mem_append, List.mem_replicate, List.mem_singleton] at hpiece
  rcases hpiece with ⟨-, rfl⟩ | rfl <;> rfl

namespace Project

theorem loaded_of_located {environment : Environment} {source : Source}
    (h : Source.located tree projectDir asked? environment.userConfigDir? = source) :
    loaded environment projectDir asked? tree =
      source.contents tree >>= ofText projectDir source := by
  rw [← h]
  rfl

/-- Writing a file that no configuration is looked for in does not change what is loaded. -/
theorem loaded_write {environment : Environment} {after : FileTree} {target : Path} {text : String}
    {project : Project} (hwrite : tree.write target text = .ok after)
    (hapart : ∀ source ∈ Source.candidates projectDir asked? environment.userConfigDir?, ∀ path,
      source.path? = some path → ¬after.SameFile target path)
    (hload : loaded environment projectDir asked? tree = .ok project) :
    loaded environment projectDir asked? after = .ok project := by
  obtain ⟨settings, hsettings, hproject⟩ := bind_eq_ok_iff.mp hload
  rw [loaded_of_located (Source.located_write hwrite hapart)]
  refine bind_eq_ok_iff.mpr ⟨settings, ?_, hproject⟩
  rwa [Source.contents_write_eq_ok_iff hwrite (hapart _ (Source.located_mem_candidates ..))]

/-- What loading comes to when the configuration is the file at a path. The file makes the project,
or is named in the error. -/
structure LoadsFrom (projectDir : Path) (tree : FileTree) (source : Source) (path : Path)
    (result : Except ProjectError Project) : Prop where
  /-- The file is there and may not be opened. -/
  barred : ∀ location entry reason, tree.locate path = .ok location →
    tree.lookup? location = some entry → tree.bar? location = some reason →
    result = .error (.inaccessible path (.other reason))
  binary : ∀ bytes, tree.find path = .ok (.file (.binary bytes)) →
    result = .error (.inaccessible path .notText)
  unreadable : (∀ text, tree.find path ≠ .ok (.file (.text text))) →
    ∃ fault, tree.read path = .error fault ∧ result = .error (.inaccessible path fault)
  malformed : ∀ text, tree.find path = .ok (.file (.text text)) → Toml.ofText? text = none →
    result = .error (.config path .malformed)
  misconfigured : ∀ text fault, tree.find path = .ok (.file (.text text)) →
    Config.ofText text = .error fault → result = .error (.config path fault)
  misruled : ∀ text config cause, tree.find path = .ok (.file (.text text)) →
    Config.ofText text = .ok config → extraRulesOfText text = .error cause →
    result = .error (.extraRules path cause)
  made : ∀ project, result = .ok project ↔ ∃ text config rules,
    tree.find path = .ok (.file (.text text)) ∧ Config.ofText text = .ok config ∧
    extraRulesOfText text = .ok rules ∧
    project = ⟨source, source.baseDir projectDir, config, rules⟩
  blamed : ∀ error, result = .error error → error.path = path

theorem contents_bind_of_read {source : Source} {path : Path} {fault : FileFault}
    (h : source.path? = some path) (hread : tree.read path = .error fault) :
    source.contents tree >>= ofText projectDir source = .error (.inaccessible path fault) := by
  rw [Source.contents_of_path? h, hread]
  rfl

theorem loadsFrom {source : Source} {path : Path} (h : source.path? = some path)
    (projectDir : Path) (tree : FileTree) :
    LoadsFrom projectDir tree source path (source.contents tree >>= ofText projectDir source) where
  barred := by
    intro location entry reason hlocate hlookup hbar
    have hfind := FileTree.find_of_bar? hlocate hlookup hbar
    exact contents_bind_of_read h (FileTree.read_of_find_error hfind)
  binary := by
    intro bytes hfind
    exact contents_bind_of_read h (FileTree.read_of_find_binary hfind)
  unreadable := by
    intro hnone
    obtain ⟨fault, hfault⟩ := FileTree.exists_read_eq_error hnone
    exact ⟨fault, hfault, contents_bind_of_read h hfault⟩
  malformed := by
    intro text hfind htoml
    rw [Source.contents_of_text h hfind]
    refine ofText_eq_error_iff.mpr (.inl ⟨.malformed, ?_, by rw [h]; rfl⟩)
    rw [Config.ofText, htoml]
  misconfigured := by
    intro text fault hfind hconfig
    rw [Source.contents_of_text h hfind]
    exact ofText_eq_error_iff.mpr (.inl ⟨fault, hconfig, by rw [h]; rfl⟩)
  misruled := by
    intro text config cause hfind hconfig hrules
    rw [Source.contents_of_text h hfind]
    exact ofText_eq_error_iff.mpr (.inr ⟨config, cause, hconfig, hrules, by rw [h]; rfl⟩)
  made := by
    intro project
    constructor
    · intro hresult
      obtain ⟨text, hread, htext⟩ := bind_eq_ok_iff.mp hresult
      obtain ⟨config, rules, hconfig, hrules, rfl⟩ := ofText_eq_ok_iff.mp htext
      rw [Source.contents_of_path? h, mapError_eq_ok_iff, FileTree.read_eq_ok_iff] at hread
      exact ⟨text, config, rules, hread, hconfig, hrules, rfl⟩
    · rintro ⟨text, config, rules, hfind, hmade⟩
      rw [Source.contents_of_text h hfind]
      exact ofText_eq_ok_iff.mpr ⟨config, rules, hmade⟩
  blamed := by
    intro error hresult
    rcases bind_eq_error_iff.mp hresult with hread | ⟨text, -, htext⟩
    · rw [Source.contents_of_path? h] at hread
      obtain ⟨fault, -, rfl⟩ := mapError_eq_error_iff.mp hread
      rfl
    · rcases ofText_eq_error_iff.mp htext with ⟨fault, -, rfl⟩ | ⟨config, cause, -, -, rfl⟩
      · rw [ProjectError.path, h, Option.getD_some]
      · rw [ProjectError.path, h, Option.getD_some]

/-- Loading uses the first candidate in place. Its file makes the project or is to blame for the
error; among other files the result is the same, as long as this candidate is still the first one
in place and reads the same. -/
theorem load_uses_first (environment : Environment) (projectDir : Path) (asked? : Option Path)
    (tree : FileTree) :
    ∃ higher source lower,
      Source.candidates projectDir asked? environment.userConfigDir? = higher ++ source :: lower ∧
      (∀ other ∈ higher, ¬other.InPlace tree) ∧ source.InPlace tree ∧
      (∀ path, source.path? = some path → LoadsFrom projectDir tree source path
        ((load environment projectDir asked?).run.run tree).value) ∧
      (source.path? = none → ((load environment projectDir asked?).run.run tree).value =
        .ok ⟨source, projectDir, {}, []⟩) ∧
      ∀ changed : FileTree, (∀ other ∈ higher, ¬other.InPlace changed) → source.InPlace changed →
        (∀ path, source.path? = some path → changed.read path = tree.read path) →
        ((load environment projectDir asked?).run.run changed).value =
          ((load environment projectDir asked?).run.run tree).value := by
  obtain ⟨higher, lower, hcandidates, hhigher, hplace⟩ :=
    Source.located_eq_iff.mp (Eq.refl (Source.located tree projectDir asked?
      environment.userConfigDir?))
  simp only [run_load]
  refine ⟨higher, _, lower, hcandidates, hhigher, hplace, fun path hpath => ?_, fun hnone => ?_,
    fun changed hhigher hplace hread => ?_⟩
  · exact loadsFrom hpath projectDir tree
  · rw [loaded_of_located (Source.eq_defaults_of_path?_eq_none hnone),
      Source.eq_defaults_of_path?_eq_none hnone]
    exact ofText_defaults projectDir
  · have hlocated := Source.located_eq_iff.mpr ⟨higher, lower, hcandidates, hhigher, hplace⟩
    rw [loaded_of_located hlocated, loaded_of_located rfl]
    cases hpath : (Source.located tree projectDir asked? environment.userConfigDir?).path? with
    | some path =>
      rw [Source.contents_of_path? hpath, Source.contents_of_path? hpath, hread path hpath]
    | none =>
      rw [Source.contents_of_path?_eq_none hpath, Source.contents_of_path?_eq_none hpath]

/-- An unreadable configuration is not passed over: neither the hidden one beside it, nor that of
the user, with or without either of them. -/
theorem load_uses_first_barred :
    ∃ (environment : Environment) (tree changed : FileTree),
      tree.read ⟨"./tenant-rules.toml"⟩ = .error (.other "Permission denied (os error 13)") ∧
      tree.read ⟨"./.tenant-rules.toml"⟩ = .ok "output.file = 'rules'" ∧
      changed.isFile ⟨"./.tenant-rules.toml"⟩ = false ∧
      changed.read ⟨"home/.tenant-rules/config.toml"⟩ = .ok "" ∧
      ((load environment ⟨"."⟩ none).run.run tree).value = .error (.inaccessible
        ⟨"./tenant-rules.toml"⟩ (.other "Permission denied (os error 13)")) ∧
      ((load environment ⟨"."⟩ none).run.run changed).value = .error (.inaccessible
        ⟨"./tenant-rules.toml"⟩ (.other "Permission denied (os error 13)")) := by
  let environment : Environment := { home? := some ⟨"home"⟩ }
  let shut : List (Location × String) :=
    [(["tenant-rules.toml".toList], "Permission denied (os error 13)")]
  let own : Location × Entry := (["tenant-rules.toml".toList], .file (.text ""))
  let tree : FileTree := {
    entries := [own, ([".tenant-rules.toml".toList], .file (.text "output.file = 'rules'"))]
    barred := shut }
  let changed : FileTree := {
    entries := [own, (["home".toList], .directory),
      (["home".toList, ".tenant-rules".toList], .directory),
      (["home".toList, ".tenant-rules".toList, "config.toml".toList], .file (.text ""))]
    barred := shut }
  have hcandidates : Source.candidates ⟨"."⟩ none environment.userConfigDir? =
      [.project ⟨"./tenant-rules.toml"⟩, .project ⟨"./.tenant-rules.toml"⟩,
        .user ⟨"home/.tenant-rules/config.toml"⟩, .defaults] := by rfl
  obtain ⟨higher, source, lower, hsplit, hhigher, hplace, hfrom, -, hsame⟩ :=
    load_uses_first environment ⟨"."⟩ none tree
  rw [hcandidates] at hsplit
  -- The first candidate is in place, so there is no higher one.
  obtain rfl : higher = [] := by
    cases higher with
    | nil => rfl
    | cons other higher =>
      obtain ⟨rfl, -⟩ := List.cons.inj hsplit
      exact absurd rfl (hhigher _ List.mem_cons_self)
  obtain ⟨rfl, -⟩ := List.cons.inj hsplit
  have hload := (hfrom _ rfl).barred ["tenant-rules.toml".toList] (.file (.text ""))
    "Permission denied (os error 13)" (by rfl) (by rfl) (by rfl)
  refine ⟨environment, tree, changed, by rfl, by rfl, by rfl, by rfl, hload, ?_⟩
  rw [hsame changed (List.forall_mem_nil _) (by rfl) (fun path hpath => ?_), hload]
  obtain rfl := Option.some.inj hpath
  rfl

/-! ### Configurations that are passed over -/

/-- A file stands in a project directory under the preferred name of a configuration, and yet the
project is loaded as if it had none. -/
def PassedOver (tree : FileTree) (projectDir : Path) : Prop :=
  ∃ location content, tree.locate projectDir = .ok location ∧
    tree.lookup? (location ++ ["tenant-rules.toml".toList]) = some (.file content) ∧
    ((load {} projectDir none).run.run tree).value = .ok ⟨.defaults, projectDir, {}, []⟩

/-- A configuration is passed over if the directory may not be searched, or the path to it would be
too long. -/
theorem passedOver_of_unreached {location : Location} {content : Content}
    (hlocate : tree.locate projectDir = .ok location)
    (hfile : tree.lookup? (location ++ ["tenant-rules.toml".toList]) = some (.file content))
    (hunreached : tree.bar? location ≠ none ∨
      FileTree.pathLimit < Text.byteSize projectDir.text.toList + 17) :
    PassedOver tree projectDir := by
  have hproject : ∀ name ∈ Source.projectFileNames, ¬tree.isFile (projectDir.join name) = true := by
    intro name hmem hfound
    have hname := Source.isName_of_mem hmem
    obtain ⟨hsize, -, hopen, -⟩ := (FileTree.isFile_join_iff hname hlocate).mp hfound
    rcases hunreached with hbar | hlong
    · exact hbar hopen
    · have hjoin := Path.byteSize_le_join projectDir hname.isAbsolute
      -- The shorter of the two names takes 17 bytes.
      have hshort : 17 ≤ Text.byteSize name.text.toList := by
        rw [Source.projectFileNames, List.mem_cons, List.mem_singleton] at hmem
        rcases hmem with rfl | rfl <;> decide
      omega
  have hlocated : Source.located tree projectDir none none = .defaults := by
    refine Source.located_eq_iff.mpr ⟨_, [], rfl, fun other hother => ?_, trivial⟩
    simp only [Option.map_none, Option.toList_none, List.nil_append, List.append_nil,
      List.mem_map] at hother
    obtain ⟨name, hmem, rfl⟩ := hother
    exact hproject name hmem
  refine ⟨location, content, hlocate, hfile, ?_⟩
  rw [run_load, loaded_of_located hlocated]
  exact ofText_defaults projectDir

/-- Both happen: the path to the configuration of a directory may be too long though that of the
directory is not, and the directory may be barred to searches though it can be reached. -/
theorem exists_passedOver :
    (∃ tree : FileTree, tree.barred = [] ∧ PassedOver tree (.dots 2040)) ∧
      ∃ tree : FileTree, tree.bar? ["app".toList] = some "Permission denied (os error 13)" ∧
        PassedOver tree ⟨"app"⟩ := by
  let file : Entry := .file (.text "[schema]\npath = \"api.graphql\"\n")
  constructor
  · let tree : FileTree := { entries := [(["tenant-rules.toml".toList], file)] }
    have hlocate : tree.locate (.dots 2040) = .ok [] :=
      FileTree.locate_dots (by decide) (by decide) rfl
    refine ⟨tree, rfl, passedOver_of_unreached hlocate (by rfl) (.inr ?_)⟩
    rw [Path.byteSize_dots]
    decide
  · let tree : FileTree := {
      entries := [(["app".toList], .directory), (["app".toList, "tenant-rules.toml".toList], file)]
      barred := [(["app".toList], "Permission denied (os error 13)")] }
    have hlocate : tree.locate ⟨"app"⟩ = .ok ["app".toList] := by rfl
    exact ⟨tree, by rfl, passedOver_of_unreached hlocate (by rfl) (.inl (by decide))⟩

end Project

end SchemaPolicy
