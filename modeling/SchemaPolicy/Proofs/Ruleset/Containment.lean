import SchemaPolicy.Proofs.Ruleset.Section

/-! Names and permissions stay in their places. Whatever accepted texts a schema gives, a reader of
the generated section finds every permission as one literal, every name as one segment of a path,
and every brace closed in the block that opens it. -/

namespace SchemaPolicy

open Text

namespace Protection

/-- The operations that are granted, in the order of their lines, with their guards. -/
def granted (protection : Protection) : List (Operation × Guard) :=
  Operation.all.filterMap fun op => (protection.guard? op).map (op, ·)

theorem guard?_of_mem_granted {protection : Protection} {op : Operation} {g : Guard}
    (h : (op, g) ∈ protection.granted) : protection.guard? op = some g := by
  simp only [granted, List.mem_filterMap, Option.map_eq_some_iff, Prod.mk.injEq] at h
  obtain ⟨_, -, _, hguard, rfl, rfl⟩ := h
  exact hguard

theorem allowLines_eq (protection : Protection) :
    protection.allowLines = protection.granted.map fun (op, g) => g.line op := by
  simp only [allowLines, granted, List.map_filterMap, Option.map_map]
  rfl

theorem allowLines_erase (protection : Protection) :
    protection.erase.allowLines = protection.granted.map fun (op, g) => g.erase.line op := by
  simp only [allowLines, granted, guard?_erase, List.map_filterMap, Option.map_map]
  rfl

end Protection

namespace Ruleset

variable {declarations : List Declaration} {ds : List Descriptor}

/-- No name and no permission of declared collections leaves its place in the generated section. -/
theorem generated_contained
    (h : List.Forall₂ (fun declaration d => declaration.descriptor = .ok d) declarations ds) :
    -- the section stands in every document of the collections
    (∀ envelope extraRules, render envelope (ds.map Descriptor.toCollection) extraRules =
      preface envelope extraRules ++
        sectionLines (generated (ds.map Descriptor.toCollection)) ++ tail) ∧
    -- names and permissions are as they are declared
    List.Forall₂ (fun declaration d => declaration.name? = some d.name ∧
      declaration.Settles d.protection) declarations ds ∧
    -- the literals of the lines that grant an operation, and what stands around them
    ((lines (generated (ds.map Descriptor.toCollection))).filter (opensWith "allow ")).map
        (fun line => (read? line).map Reading.literals) =
      (ds.flatMap fun d => d.protection.granted.map fun (_, g) =>
        some (g.permissions.map String.toList)) ∧
    ((lines (generated (ds.map Descriptor.toCollection))).filter (opensWith "allow ")).map
        (fun line => (read? line).map Reading.outside) =
      (ds.flatMap fun d => d.protection.erase.allowLines.map fun line => some line.toList) ∧
    -- the segments of the paths
    ((lines (generated (ds.map Descriptor.toCollection))).filter (opensWith "match ")).map
        (fun line => (matchPath line).splitOn '/') =
      (ds.map fun d => [[], d.name.toList,
        '\x7b' :: (d.protection.pattern.placeholder.toList ++ ['\x7d'])]) ∧
    (∀ d ∈ ds, ∀ c ∈ d.name.toList, c ≠ '\x7b' ∧ c ≠ '\x7d' ∧ isBlank c = false) ∧
    -- the braces of the blocks
    generated (ds.map Descriptor.toCollection) =
      joinWith ['\n', '\n'] (ds.map fun d => d.block) ∧
    ∀ d ∈ ds, depthAfter? 0 ((lines d.block).flatMap code) = some 0 := by
  have hall := wellFormed_of_forall₂ (fun _ _ hd => Declaration.wellFormed hd) h
  have hwf : ∀ d ∈ ds, d.toCollection.WellFormed :=
    fun d hd => hall _ (List.mem_map_of_mem hd)
  have hread : ∀ d ∈ ds, ∀ op g, (op, g) ∈ d.protection.granted →
      read? (g.line op).toList = some ⟨(g.erase.line op).toList, g.permissions.map String.toList⟩ :=
    fun d hd op g hg => Guard.read?_line op (Protection.guard?_wellFormed (hwf d hd).quotable
      (Protection.guard?_of_mem_granted hg))
  refine ⟨fun envelope extraRules => render_eq _ _ _, ?_, ?_, ?_, ?_, ?_, ?_, ?_⟩
  · refine h.imp fun declaration d hd => ?_
    obtain ⟨-, ⟨hname, -⟩, -, hsettles⟩ := Declaration.descriptor_eq_ok_iff.mp hd
    exact ⟨hname, hsettles⟩
  · rw [filter_allow_generated hall, List.flatMap_map, List.map_flatMap]
    refine List.flatMap_congr fun d hd => ?_
    rw [Protection.allowLines_eq, List.map_map, List.map_map]
    refine List.map_congr_left fun (op, g) hg => ?_
    simp only [Function.comp_apply, hread d hd op g hg]
    rfl
  · rw [filter_allow_generated hall, List.flatMap_map, List.map_flatMap]
    refine List.flatMap_congr fun d hd => ?_
    rw [Protection.allowLines_eq, Protection.allowLines_erase, List.map_map, List.map_map,
      List.map_map]
    refine List.map_congr_left fun (op, g) hg => ?_
    simp only [Function.comp_apply, hread d hd op g hg]
    rfl
  · rw [filter_match_generated hall, List.map_map, List.map_map]
    refine List.map_congr_left fun d hd => ?_
    have hname := (hwf d hd).name_segment
    simp only [Function.comp_apply]
    rw [Collection.matchPath_matchLine hname, Collection.splitOn_path hname]
  · intro d hd c hc
    exact ((hwf d hd).name_segment.excludes c hc).2
  · exact generated_descriptors ds
  · intro d hd
    exact Collection.depthAfter?_block (hwf d hd)

/-- A permission that looks like the end of its line and a line of its own is one literal. -/
theorem generated_contained_forgery :
    ∃ (declaration : Declaration) (d : Descriptor), declaration.descriptor = .ok d ∧
      ((lines (generated [d.toCollection])).filter (opensWith "allow ")).map
          (fun line => (read? line).map Reading.literals) =
        [some ["w); \x7d allow read: if (true".toList], some ["r".toList],
          some ["w); \x7d allow read: if (true".toList],
          some ["w); \x7d allow read: if (true".toList]] := by
  let declaration : Declaration :=
    { typeName := "Note", name? := some "notes", pattern? := some "DOC_PER_TENANT",
      permissions := ⟨some "r", some "w); \x7d allow read: if (true", none, none⟩ }
  let d : Descriptor :=
    { typeName := "Note", name := "notes",
      protection := .docPerTenant "r" "w); \x7d allow read: if (true" }
  have hdeclared : declaration.descriptor = .ok d := rfl
  exact ⟨declaration, d, hdeclared, (generated_contained (.cons hdeclared .nil)).2.2.1⟩

end Ruleset

end SchemaPolicy
