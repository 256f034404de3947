import SchemaPolicy.Proofs.Collection.Reading
import SchemaPolicy.Ruleset
import Mathlib.Data.List.Forall2

/-! The generated section of a rules document: the blocks of the collections with an empty line
between neighbours. Every block is found again in the lines of the section. -/

namespace SchemaPolicy.Ruleset

open Text

/-- What stands above the generated section. -/
def preface (envelope : Envelope) (extraRules : List Rule) : List Char :=
  head envelope ++ sectionLines (blocks extraRules) ++ middle

/-- The blocks of the collections, with an empty line between neighbours. -/
def generated (collections : List Collection) : List Char :=
  joinWith ['\n', '\n'] (collections.map Collection.block)

theorem blocks_rule (collections : List Collection) :
    blocks (collections.map Collection.rule) = generated collections := by
  have hseparator : "\n\n".toList = ['\n', '\n'] := by simp
  have hblock : Collection.block = fun collection => indent 2 collection.rule.render := rfl
  unfold blocks generated
  rw [List.map_map, Function.comp_def, hseparator, hblock]

theorem generated_descriptors (ds : List Descriptor) :
    generated (ds.map Descriptor.toCollection) =
      joinWith ['\n', '\n'] (ds.map fun d => d.block) := by
  rw [generated, List.map_map, Function.comp_def]

theorem render_eq (envelope : Envelope) (collections : List Collection) (extraRules : List Rule) :
    render envelope collections extraRules =
      preface envelope extraRules ++ sectionLines (generated collections) ++ tail := by
  rw [render, blocks_rule, preface]

theorem sectionLines_inj {s t : List Char} : sectionLines s = sectionLines t ↔ s = t := by
  constructor
  · intro h
    unfold sectionLines at h
    split at h
    · next hs =>
      split at h
      · next ht => rw [hs, ht]
      · simp at h
    · next hs =>
      split at h
      · simp at h
      · exact List.append_cancel_right h
  · rintro rfl
    rfl

theorem generated_eq_of_render_eq {envelope : Envelope} {extraRules : List Rule}
    {collections others : List Collection}
    (h : render envelope collections extraRules = render envelope others extraRules) :
    generated collections = generated others := by
  rw [render_eq, render_eq, List.append_cancel_right_eq, List.append_cancel_left_eq] at h
  exact sectionLines_inj.mp h

variable {collections : List Collection}

theorem lines_block_solid (h : ∀ collection ∈ collections, collection.WellFormed) :
    ∀ ls ∈ collections.map fun collection => lines collection.block,
      ls ≠ [] ∧ ∀ line ∈ ls, Unbroken line ∧ line ≠ [] := by
  intro ls hls
  obtain ⟨collection, hmem, rfl⟩ := List.mem_map.mp hls
  rw [Collection.lines_block (h _ hmem)]
  refine ⟨by simp [Collection.blockLines], fun line hline => ?_⟩
  obtain ⟨text, htext, rfl⟩ := List.mem_map.mp hline
  obtain ⟨hunbroken, hblank⟩ := Collection.blockLines_solid (h _ hmem) text htext
  exact ⟨hunbroken, ne_nil_of_not_blank hblank⟩

theorem lines_generated (h : ∀ collection ∈ collections, collection.WellFormed) :
    lines (generated collections) =
      [[]].intercalate (collections.map fun collection => lines collection.block) := by
  have hblocks : collections.map Collection.block =
      (collections.map fun collection => lines collection.block).map (joinWith ['\n']) := by
    rw [List.map_map]
    refine List.map_congr_left fun collection hmem => ?_
    rw [Function.comp_apply, Collection.lines_block (h _ hmem), Collection.block_eq (h _ hmem)]
  rw [generated, hblocks, lines_joinWith_blank_line (lines_block_solid h)]

/-- The blocks are found again between the empty lines. -/
theorem paragraphs_generated (h : ∀ collection ∈ collections, collection.WellFormed) :
    paragraphs (lines (generated collections)) =
      collections.map fun collection => lines collection.block := by
  rw [lines_generated h]
  refine paragraphs_intercalate fun ls hls => ?_
  obtain ⟨hne, hlines⟩ := lines_block_solid h ls hls
  exact ⟨hne, fun line hline => (hlines line hline).2⟩

theorem sectionLines_generated (h : ∀ collection ∈ collections, collection.WellFormed) :
    sectionLines (generated collections) =
      if collections = [] then [] else generated collections ++ ['\n'] := by
  have hempty : generated collections = [] ↔ collections = [] := by
    constructor
    · intro hnil
      have hblocks := paragraphs_generated h
      rw [hnil] at hblocks
      exact List.map_eq_nil_iff.mp hblocks.symm
    · rintro rfl
      rfl
  simp only [sectionLines, hempty]

/-- The lines of some kind in the generated section are those of its blocks, in order. -/
theorem filter_lines_generated (h : ∀ collection ∈ collections, collection.WellFormed)
    {p : List Char → Bool} (hp : p [] = false) :
    (lines (generated collections)).filter p =
      collections.flatMap fun collection => (lines collection.block).filter p := by
  rw [lines_generated h, filter_intercalate_blank_line hp, List.flatMap_map]

theorem filter_allow_generated (h : ∀ collection ∈ collections, collection.WellFormed) :
    (lines (generated collections)).filter (opensWith "allow ") =
      collections.flatMap fun collection => collection.protection.allowLines.map String.toList := by
  rw [filter_lines_generated h (by decide)]
  refine List.flatMap_congr fun collection hmem => ?_
  rw [Collection.filter_lines_block (h _ hmem), Collection.filter_allow]

theorem filter_match_generated (h : ∀ collection ∈ collections, collection.WellFormed) :
    (lines (generated collections)).filter (opensWith "match ") =
      collections.map fun collection => collection.matchLine.toList := by
  rw [filter_lines_generated h (by decide), List.map_eq_flatMap]
  refine List.flatMap_congr fun collection hmem => ?_
  rw [Collection.filter_lines_block (h _ hmem), Collection.filter_match]
  rfl

/-- Descriptors that come from something which only gives well-formed collections. -/
theorem wellFormed_of_forall₂ {α : Type} {R : α → Descriptor → Prop}
    (hR : ∀ a d, R a d → d.toCollection.WellFormed) {as : List α} {ds : List Descriptor}
    (h : List.Forall₂ R as ds) :
    ∀ collection ∈ ds.map Descriptor.toCollection, collection.WellFormed := by
  induction h with
  | nil => simp
  | cons hd _ ih => exact List.forall_mem_cons.mpr ⟨hR _ _ hd, ih⟩

end SchemaPolicy.Ruleset
