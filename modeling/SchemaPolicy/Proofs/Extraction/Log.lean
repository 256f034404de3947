import SchemaPolicy.Compilation
import SchemaPolicy.Proofs.Extraction.Offence
import Mathlib.Data.Finset.Card
import Mathlib.Data.List.Infix

/-! What extraction reports: every collection in the order of the document, and behind it a warning
if an earlier collection has its name. A failure cuts the log off where it happens. -/

namespace SchemaPolicy

/-- What is reported of a collection that comes after others with the names `seen`. -/
def Descriptor.report (seen : List String) (d : Descriptor) : List Event :=
  .declared d :: if d.name ∈ seen then [.repeatedName d.name] else []

/-- What is reported of collections in order, after others with the names `seen`. -/
def Descriptor.log (seen : List String) (ds : List Descriptor) : List Event :=
  (ds.zip ds.inits).flatMap fun (d, earlier) => d.report (earlier.map (·.name) ++ seen)

/-! ### The log of some collections -/

namespace Descriptor

variable {seen others : List String} {d : Descriptor} {ds : List Descriptor}

theorem report_congr (h : d.name ∈ seen ↔ d.name ∈ others) : d.report seen = d.report others := by
  unfold report
  simp only [h]

theorem log_cons (seen : List String) (d : Descriptor) (ds : List Descriptor) :
    log seen (d :: ds) = d.report seen ++ log (d.name :: seen) ds := by
  unfold log
  rw [List.inits_cons, List.zip_cons_cons, List.flatMap_cons, List.zip_map_right, List.flatMap_map]
  congr 1
  refine List.flatMap_congr fun entry _ => ?_
  refine report_congr ?_
  simp only [List.map_cons, List.mem_append, List.mem_cons, id]
  rw [or_left_comm, or_assoc]

/-- A collection is warned of exactly if it adds no name to those seen. -/
theorem countP_log (seen : List String) (ds : List Descriptor) :
    (log seen ds).countP (·.level = .warn) +
      ((ds.map (·.name)).toFinset \ seen.toFinset).card = ds.length := by
  induction ds generalizing seen with
  | nil => simp [log]
  | cons d ds ih =>
    have hrest := ih (d.name :: seen)
    rw [log_cons, List.countP_append, report]
    rw [List.toFinset_cons] at hrest
    rw [List.map_cons, List.toFinset_cons, List.length_cons, ← hrest]
    by_cases hseen : d.name ∈ seen
    · have hmem : d.name ∈ seen.toFinset := List.mem_toFinset.mpr hseen
      have hwarned : (Event.declared d :: [.repeatedName d.name]).countP (·.level = .warn) = 1 :=
        rfl
      rw [if_pos hseen, hwarned, Finset.insert_sdiff_of_mem _ hmem, Finset.insert_eq_of_mem hmem]
      omega
    · have hmem : d.name ∉ seen.toFinset := mt List.mem_toFinset.mp hseen
      have hquiet : [Event.declared d].countP (·.level = .warn) = 0 := rfl
      have hnames : insert d.name ((ds.map (·.name)).toFinset \ seen.toFinset) =
          insert d.name ((ds.map (·.name)).toFinset \ insert d.name seen.toFinset) := by
        ext other
        simp only [Finset.mem_insert, Finset.mem_sdiff]
        grind
      rw [if_neg hseen, hquiet, Finset.insert_sdiff_of_notMem _ hmem, hnames,
        Finset.card_insert_of_notMem (by simp)]
      omega

end Descriptor

namespace Sdl

open Outcome

variable {name : String} {seen : List String} {definition : Definition} {before others : Document}
  {d : Descriptor} {ds : List Descriptor} {error : SchemaError}

/-! ### Extraction step by step -/

theorem extractAfter_of_some (h : definition.descriptor? name = .ok (some d)) :
    extractAfter name seen (definition :: others) =
      ⟨d.report seen ++ (extractAfter name (d.name :: seen) others).events,
        (extractAfter name (d.name :: seen) others).result.map (d :: ·)⟩ := by
  rw [extractAfter, h, Traced.bind_ofExcept_ok, Descriptor.report]
  by_cases hseen : d.name ∈ seen
  · simp only [hseen, if_true, Traced.bind_report, Traced.bind_pure_comp]
    rfl
  · simp only [hseen, if_false, Traced.bind_report, Traced.bind_pure_comp]
    rfl

theorem extractAfter_of_error (h : definition.descriptor? name = .error error) :
    extractAfter name seen (definition :: others) = ⟨[], .error error⟩ := by
  rw [extractAfter, h, Traced.bind_ofExcept_error]

/-- The names seen are those of all collections so far. -/
theorem extractAfter_append (h : (extractAfter name seen before).result = .ok ds)
    (others : Document) :
    extractAfter name seen (before ++ others) =
      ⟨(extractAfter name seen before).events ++
          (extractAfter name ((ds.map (·.name)).reverse ++ seen) others).events,
        (extractAfter name ((ds.map (·.name)).reverse ++ seen) others).result.map (ds ++ ·)⟩ := by
  induction before generalizing seen ds with
  | nil =>
    obtain rfl : [] = ds := Except.ok.inj h
    have hsame : ∀ result : Except SchemaError (List Descriptor),
        result.map ([] ++ ·) = result := by
      rintro (error | rest) <;> rfl
    rw [List.nil_append, List.map_nil, List.reverse_nil, List.nil_append, hsame]
    rfl
  | cons definition before ih =>
    rw [List.cons_append]
    cases hd : definition.descriptor? name with
    | error error =>
      rw [extractAfter_of_error hd] at h
      contradiction
    | ok result =>
      cases result with
      | none =>
        rw [extractAfter_of_none hd] at h ⊢
        rw [extractAfter_of_none hd, ih h]
      | some d =>
        rw [extractAfter_of_some hd] at h ⊢
        obtain ⟨rest, hrest, rfl⟩ := map_eq_ok_iff.mp h
        have hmap : ∀ result : Except SchemaError (List Descriptor),
            (result.map (rest ++ ·)).map (d :: ·) = result.map (d :: rest ++ ·) := by
          rintro (error | others) <;> rfl
        rw [extractAfter_of_some hd, ih hrest, hmap]
        simp

theorem events_extractAfter {document : Document}
    (h : (extractAfter name seen document).result = .ok ds) :
    (extractAfter name seen document).events = Descriptor.log seen ds := by
  induction document generalizing seen ds with
  | nil =>
    obtain rfl : [] = ds := Except.ok.inj h
    rfl
  | cons definition others ih =>
    cases hd : definition.descriptor? name with
    | error error =>
      rw [extractAfter_of_error hd] at h
      contradiction
    | ok result =>
      cases result with
      | none =>
        rw [extractAfter_of_none hd] at h ⊢
        exact ih h
      | some d =>
        rw [extractAfter_of_some hd] at h ⊢
        obtain ⟨rest, hrest, rfl⟩ := map_eq_ok_iff.mp h
        rw [ih hrest, Descriptor.log_cons]

/-- Where a definition offends, nothing is reported of it and of those behind it. -/
theorem extractAfter_of_offends (h : (extractAfter name seen before).result = .ok ds)
    (hoffends : definition.Offends name error) (others : Document) :
    extractAfter name seen (before ++ definition :: others) =
      ⟨(extractAfter name seen before).events, .error error⟩ := by
  have herror := Definition.descriptor?_eq_error_iff.mpr hoffends
  rw [extractAfter_append h, extractAfter_of_error herror, List.append_nil]
  rfl

theorem exists_extract_of_not_offends
    (h : ∀ definition ∈ before, ¬∃ error, definition.Offends name error) :
    ∃ ds, (before.extract name).result = .ok ds := by
  cases hresult : (before.extract name).result with
  | ok ds => exact ⟨ds, rfl⟩
  | error error =>
    obtain ⟨earlier, definition, later, rfl, -, hoffends⟩ := extractAfter_eq_error_iff.mp hresult
    exact absurd ⟨error, hoffends⟩ (h definition (by simp))

/-- The log of an extraction has each collection once, in order, and a warning behind it if an
earlier one has its name; after a failure it is the log of what stands before the definition that
offends. Compilation adds one event to it, if it succeeds. -/
theorem Document.extract_log (document : Document) (name : String) :
    (∀ ds, (document.extract name).result = .ok ds →
      ds.length = (document.annotated name).length ∧
      (document.extract name).events = (ds.zip ds.inits).flatMap (fun (d, earlier) =>
        .declared d :: if d.name ∈ earlier.map (·.name) then [.repeatedName d.name] else []) ∧
      (document.extract name).events.countP (·.level = .warn) =
        ds.length - (ds.map (·.name)).toFinset.card) ∧
    (∀ error, (document.extract name).result = .error error →
      ∃ (before : Document) (definition : Definition) (after : Document) (ds : List Descriptor),
        document = before ++ definition :: after ∧ definition.Offends name error ∧
        (before.extract name).result = .ok ds ∧
        (document.extract name).events = (before.extract name).events) ∧
    (∀ schema extraRules config, Document.ofText schema = .ok document →
      config.schema.directive = name →
      (∀ text, (compile schema extraRules config).result = .ok text →
        ∃ ds, (document.extract name).result = .ok ds ∧
          (compile schema extraRules config).events =
            (document.extract name).events ++ [.composing ds.length extraRules.length]) ∧
      ∀ error, (compile schema extraRules config).result = .error error →
        (document.extract name).result = .error error ∧
        (compile schema extraRules config).events = (document.extract name).events) ∧
    ∀ schema extraRules config position, Document.ofText schema = .error position →
      (compile schema extraRules config).events = [] := by
  refine ⟨fun ds h => ?_, fun error h => ?_, ?_, fun schema extraRules config position h => ?_⟩
  · have hlog := events_extractAfter h
    have hcount := Descriptor.countP_log [] ds
    rw [← hlog, List.toFinset_nil, Finset.sdiff_empty] at hcount
    refine ⟨(extract_eq_ok_iff.mp h).2.length_eq.symm, ?_, ?_⟩
    · exact hlog.trans (by simp only [Descriptor.log, Descriptor.report, List.append_nil])
    · exact Nat.eq_sub_of_add_eq hcount
  · obtain ⟨before, definition, after, rfl, hbefore, hoffends⟩ := extractAfter_eq_error_iff.mp h
    obtain ⟨ds, hds⟩ := exists_extract_of_not_offends hbefore
    refine ⟨before, definition, after, ds, rfl, hoffends, hds, ?_⟩
    exact (congrArg Traced.events (extractAfter_of_offends hds hoffends after)).trans rfl
  · rintro schema extraRules config hdocument rfl
    have hextract : SchemaPolicy.extract schema config.schema.directive =
        document.extract config.schema.directive := by rw [SchemaPolicy.extract, hdocument]
    rw [compile, hextract]
    cases hresult : (document.extract config.schema.directive).result with
    | ok ds =>
      rw [Traced.result_bind, hresult, Traced.events_bind_of_ok hresult]
      exact ⟨fun _ _ => ⟨ds, rfl, rfl⟩, nofun⟩
    | error error =>
      rw [Traced.result_bind, hresult, Traced.events_bind_of_error hresult]
      exact ⟨nofun, fun _ h => ⟨congrArg Except.error (Except.error.inj h), rfl⟩⟩
  · rw [compile, SchemaPolicy.extract, h]
    rfl

example : (Document.extract [.type ⟨.scalar, "A", ⟨1, 1⟩, [⟨"collection", [("name", .string "ids"),
      ("type", .word "DOC_PER_USER")]⟩]⟩, .schema, .type ⟨.scalar, "B", ⟨2, 1⟩, [⟨"collection",
      [("name", .string "ids"), ("type", .word "DOC_PER_USER")]⟩]⟩] "collection").events =
    [.declared ⟨⟨"ids", .docPerUser⟩, "A"⟩, .declared ⟨⟨"ids", .docPerUser⟩, "B"⟩,
      .repeatedName "ids"] := by rfl

end Sdl

end SchemaPolicy
