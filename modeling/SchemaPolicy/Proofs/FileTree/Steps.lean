import SchemaPolicy.Proofs.FileTree.Apart
import SchemaPolicy.Proofs.Path.Steps

/-! Paths with the same steps. Where a path ends in a name, its idle pieces make no difference to
where it leads: the name can only be followed in an open directory, and there an idle piece can be
followed as well. -/

namespace SchemaPolicy.FileTree

open Outcome

variable {tree : FileTree} {location next : Location} {path other : Path}
  {front : List (List Char)} {last : List Char}

theorem follow_idle_eq_ok_iff {piece : List Char} (hidle : Path.isIdle piece = true) :
    tree.follow location piece = .ok next ↔
      tree.lookup? location = some .directory ∧ (piece ≠ [] → tree.bar? location = none) ∧
        location = next := by
  rw [follow_eq_ok_iff]
  constructor
  · intro h
    refine ⟨h.directory, h.free, ?_⟩
    cases h with
    | slash directory | dot directory free => rfl
    | up directory free => contradiction
    | name directory free idle => exact absurd hidle idle
  · rintro ⟨hdirectory, hfree, rfl⟩
    obtain rfl | rfl : piece = [] ∨ piece = ['.'] := by simpa [Path.isIdle] using hidle
    · exact .slash hdirectory
    · exact .dot hdirectory (hfree (List.cons_ne_nil _ _))

/-- A walk to a name starts in an open directory, since what stands before the name only leaves it
by a look into it. -/
theorem directory_of_foldlM_follow (hlast : Path.isIdle last = false)
    (h : (front ++ [last]).foldlM tree.follow location = .ok next) :
    tree.lookup? location = some .directory ∧ tree.bar? location = none := by
  induction front with
  | nil =>
    obtain ⟨_, hstep, -⟩ := bind_eq_ok_iff.mp h
    have hfollows := follow_eq_ok_iff.mp hstep
    refine ⟨hfollows.directory, hfollows.free ?_⟩
    rintro rfl
    contradiction
  | cons piece front ih =>
    obtain ⟨middle, hstep, hrest⟩ := bind_eq_ok_iff.mp h
    have hfollows := follow_eq_ok_iff.mp hstep
    refine ⟨hfollows.directory, ?_⟩
    by_cases hslash : piece = []
    · subst hslash
      obtain ⟨-, -, rfl⟩ := (follow_idle_eq_ok_iff rfl).mp hstep
      exact (ih hrest).2
    · exact hfollows.free hslash

/-- A walk that ends in a name leads to the same place without its idle pieces. -/
theorem foldlM_follow_filter (hlast : Path.isIdle last = false) (front : List (List Char)) :
    (front ++ [last]).foldlM tree.follow location = .ok next ↔
      ((front ++ [last]).filter (!Path.isIdle ·)).foldlM tree.follow location = .ok next := by
  induction front generalizing location with
  | nil => simp [hlast]
  | cons piece front ih =>
    cases hidle : Path.isIdle piece with
    | false =>
      simp only [List.cons_append, List.filter_cons, hidle, Bool.not_false, if_true,
        List.foldlM_cons, bind_eq_ok_iff, ih]
    | true =>
      simp only [List.cons_append, List.filter_cons, hidle, Bool.not_true, Bool.false_eq_true,
        if_false, List.foldlM_cons, bind_eq_ok_iff, follow_idle_eq_ok_iff hidle, ← ih]
      constructor
      · rintro ⟨_, ⟨-, -, rfl⟩, hrest⟩
        exact hrest
      · intro hrest
        obtain ⟨hdirectory, hfree⟩ := directory_of_foldlM_follow hlast hrest
        exact ⟨location, ⟨hdirectory, fun _ => hfree, rfl⟩, hrest⟩

/-- A walk without any step stays in its directory. -/
theorem foldlM_follow_of_idle {pieces : List (List Char)}
    (hidle : ∀ piece ∈ pieces, Path.isIdle piece = true)
    (hdirectory : tree.lookup? location = some .directory) (hopen : tree.bar? location = none) :
    pieces.foldlM tree.follow location = .ok location := by
  induction pieces with
  | nil => rfl
  | cons piece pieces ih =>
    rw [List.forall_mem_cons] at hidle
    rw [List.foldlM_cons, (follow_idle_eq_ok_iff hidle.1).mpr ⟨hdirectory, fun _ => hopen, rfl⟩]
    exact ih hidle.2

/-- Where a path leads is told by its steps, if it ends in a name. -/
theorem locate_eq_ok_iff_names (hpieces : Path.pieces path.text.toList = front ++ [last])
    (hlast : Path.isIdle last = false) :
    tree.locate path = .ok location ↔
      check path = .ok () ∧ path.names.foldlM tree.follow (tree.start path) = .ok location := by
  rw [Path.names, hpieces, ← foldlM_follow_filter hlast, locate, hpieces, bind_eq_ok_iff]
  constructor
  · rintro ⟨_, hcheck, hwalk⟩
    exact ⟨hcheck, hwalk⟩
  · rintro ⟨hcheck, hwalk⟩
    exact ⟨(), hcheck, hwalk⟩

theorem start_eq_of_origin?_eq (h : path.origin? = other.origin?) :
    tree.start path = tree.start other := by
  have habsolute : path.isAbsolute = other.isAbsolute := by
    rw [Bool.eq_iff_iff, Path.isAbsolute_iff, Path.isAbsolute_iff, h]
  rw [start, start, habsolute]

/-! ### Names in a directory and in the parent -/

section Names

variable {dir base name : Path} {suffix : List Char}

theorem isIdle_eq_false (h : name.IsName) : Path.isIdle name.text.toList = false :=
  Bool.eq_false_iff.mpr h.idle

/-- A shorter name in the parent of a path that can be used can be used as well. -/
theorem check_join_parent (hname : name.IsName) (hcheck : check path = .ok ())
    (htext : path.text.toList = base.text.toList ++ suffix) (hlast : last <:+: suffix)
    (hsize : Text.byteSize name.text.toList < Text.byteSize last) :
    check (base.join name) = .ok () := by
  obtain ⟨-, hnul, hlimit⟩ := check_eq_ok_iff.mp hcheck
  obtain ⟨before, behind, rfl⟩ := hlast
  rw [htext] at hnul hlimit
  simp only [Text.byteSize_append] at hlimit
  have hlead := base.byteSize_lead_le
  rw [check_join_eq_ok_iff hname, hname.toList_join, Text.byteSize_append]
  exact ⟨fun h => hnul (List.mem_append_left _ h), by omega⟩

/-- From two directories with the same steps a name leads to the same place. -/
theorem locate_join_eq_ok_iff (hname : name.IsName) (horigin : base.origin? = dir.origin?)
    (hnames : base.names = dir.names) (hbase : check (base.join name) = .ok ())
    (hdir : check (dir.join name) = .ok ()) :
    tree.locate (base.join name) = .ok location ↔ tree.locate (dir.join name) = .ok location := by
  have hstart : tree.start (base.join name) = tree.start (dir.join name) := by
    apply start_eq_of_origin?_eq
    rw [hname.origin?_join, hname.origin?_join, horigin]
  rw [locate_eq_ok_iff_names hname.pieces_join (isIdle_eq_false hname),
    locate_eq_ok_iff_names hname.pieces_join (isIdle_eq_false hname), hname.names_join,
    hname.names_join, hstart, hnames, hbase, hdir]

theorem Follows.eq_of_name (hname : name.IsName)
    (h : tree.Follows location name.text.toList next) :
    next = location ++ [name.text.toList] := by
  generalize hpiece : name.text.toList = piece at h
  cases h with
  | slash directory => exact absurd hpiece hname.ne_nil
  | dot directory free => exact absurd (hpiece ▸ rfl) hname.idle
  | up directory free => exact absurd hpiece hname.up
  | name directory free => rfl

/-- A name that is joined to the path of a directory is looked up where that path leads. -/
theorem locate_join_of_locate (hname : name.IsName) (hlocate : tree.locate dir = .ok location) :
    tree.locate (dir.join name) = .ok next ↔
      check (dir.join name) = .ok () ∧ tree.Follows location name.text.toList next := by
  have hstart : tree.start (dir.join name) = tree.start dir := by
    apply start_eq_of_origin?_eq
    exact hname.origin?_join
  obtain ⟨_, hcheck, hwalk⟩ := bind_eq_ok_iff.mp hlocate
  have hparent : (Path.pieces dir.lead).dropLast.foldlM tree.follow (tree.start dir) =
      .ok location := by
    rcases Path.pieces_lead (check_eq_ok_iff.mp hcheck).1 with hpieces | hpieces
    · rwa [← hpieces]
    · -- The last slash of the directory's path leads nowhere else.
      rw [hpieces, List.foldlM_append] at hwalk
      obtain ⟨parent, hfront, hlast⟩ := bind_eq_ok_iff.mp hwalk
      obtain ⟨_, hslash, hend⟩ := bind_eq_ok_iff.mp hlast
      obtain ⟨-, -, rfl⟩ := (follow_idle_eq_ok_iff rfl).mp hslash
      rwa [← pure_eq_ok_iff.mp hend]
  rw [locate_eq_ok_iff hname.pieces_join, hstart, hparent]
  simp only [Except.ok.injEq, exists_eq_left']

/-- A path to a file in a directory leads to it if it is not too long, and the directory is open. -/
theorem isFile_join_iff (hname : name.IsName) (hlocate : tree.locate dir = .ok location) :
    tree.isFile (dir.join name) = true ↔
      Text.byteSize (dir.join name).text.toList ≤ pathLimit ∧
        tree.lookup? location = some .directory ∧ tree.bar? location = none ∧
        ∃ content, tree.lookup? (location ++ [name.text.toList]) = some (.file content) := by
  have hcheck : check (dir.join name) = .ok () ↔
      Text.byteSize (dir.join name).text.toList ≤ pathLimit := by
    obtain ⟨_, hdir, -⟩ := bind_eq_ok_iff.mp hlocate
    rw [check_join_eq_ok_iff hname]
    exact and_iff_right (check_eq_ok_iff.mp hdir).2.1
  simp only [isFile_eq_true_iff, entryAt_eq_ok_iff, locate_join_of_locate hname hlocate, hcheck]
  constructor
  · rintro ⟨content, next, ⟨hsize, hfollows⟩, hfile⟩
    obtain rfl := hfollows.eq_of_name hname
    exact ⟨hsize, hfollows.directory, hfollows.free hname.ne_nil, content, hfile⟩
  · rintro ⟨hsize, hdirectory, hopen, content, hfile⟩
    have hpresent := Option.isSome_iff_exists.mpr ⟨_, hfile⟩
    exact ⟨content, _, ⟨hsize, .name hdirectory hopen hname.idle hname.up hname.size hpresent⟩,
      hfile⟩

/-- Two names in a directory lead to two places. -/
theorem not_sameFile_join {other : Path} (hname : name.IsName) (hother : other.IsName)
    (hne : name ≠ other) : ¬tree.SameFile (dir.join name) (dir.join other) := by
  rintro ⟨location, hlocate, hlocate'⟩
  obtain ⟨-, parent, hwalk, hfollows⟩ := (locate_eq_ok_iff hname.pieces_join).mp hlocate
  obtain ⟨-, parent', hwalk', hfollows'⟩ := (locate_eq_ok_iff hother.pieces_join).mp hlocate'
  rw [start_join tree hname hother, hwalk] at hwalk'
  obtain rfl := Except.ok.inj hwalk'
  have hplace := (hfollows.eq_of_name hname).symm.trans (hfollows'.eq_of_name hother)
  have htext : name.text.toList = other.text.toList :=
    List.singleton_inj.mp (List.append_cancel_left hplace)
  exact hne (congrArg Path.mk (String.toList_inj.mp htext))

end Names

end SchemaPolicy.FileTree
