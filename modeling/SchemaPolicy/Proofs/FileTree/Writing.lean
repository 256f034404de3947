import SchemaPolicy.Proofs.FileTree.Walking

/-! What writing to a tree of files changes: its path leads to the text, and every other path leads
where it led. `Replaced` says that one file is all that differs. Beside a file that is there another
one can be written. -/

namespace SchemaPolicy

open Outcome

namespace FileTree

variable {before after tree : FileTree} {location next : Location} {path : Path}

/-- A file that takes no directory's place keeps all that was there. -/
theorem kept_put (content : Content) (h : tree.lookup? location ≠ some .directory) :
    Kept tree (tree.put location (.file content)) where
  workingDir := rfl
  directory := by
    intro other hother
    rw [lookup?_put]
    split
    · rfl
    · rw [if_neg (by rintro rfl; exact h hother)]
      exact hother
  present := by
    intro other hother
    rw [lookup?_put]
    split
    · rfl
    · split
      · rfl
      · exact hother
  free := by
    intro other hother
    rw [bar?_put, hother, ite_self]

/-! ### Writing -/

theorem slot_eq_ok_iff {parent : Location} {name : List Char} :
    tree.slot parent name = .ok location ↔
      Text.byteSize name ≤ nameLimit ∧ location = parent ++ [name] ∧
        tree.lookup? location ≠ some .directory ∧
        ((tree.lookup? location).isSome → tree.bar? location = none) := by
  unfold slot
  split
  · next hlong => exact ⟨nofun, fun h => absurd h.1 (Nat.not_le.mpr hlong)⟩
  · next hshort =>
    have hsize := Nat.le_of_not_gt hshort
    cases hplace : tree.lookup? (parent ++ [name]) with
    | none =>
      constructor
      · intro h
        obtain rfl := Except.ok.inj h
        simp [hsize, hplace]
      · rintro ⟨-, rfl, -⟩
        rfl
    | some entry =>
      cases entry with
      | directory =>
        constructor
        · exact nofun
        · rintro ⟨-, rfl, htaken, -⟩
          exact absurd hplace htaken
      | file content =>
        constructor
        · intro h
          obtain ⟨_, hpass, h⟩ := bind_eq_ok_iff.mp h
          obtain rfl := pure_eq_ok_iff.mp h
          exact ⟨hsize, rfl, by rw [hplace]; exact nofun, fun _ => pass_eq_ok_iff.mp hpass⟩
        · rintro ⟨-, rfl, -, hfree⟩
          have hpass := pass_eq_ok_iff.mpr (hfree (by rw [hplace]; rfl))
          exact bind_eq_ok_iff.mpr ⟨(), hpass, rfl⟩

/-- A file is put under a name in an open directory, where there is no directory and no file that is
barred. -/
theorem destination_eq_ok_iff :
    tree.destination path = .ok location ↔
      ∃ front last parent, check path = .ok () ∧
        Path.pieces path.text.toList = front ++ [last] ∧
        front.foldlM tree.follow (tree.start path) = .ok parent ∧
        tree.lookup? parent = some .directory ∧ tree.bar? parent = none ∧
        ¬Path.isIdle last ∧ last ≠ ['.', '.'] ∧ Text.byteSize last ≤ nameLimit ∧
        location = parent ++ [last] ∧ tree.lookup? location ≠ some .directory ∧
        ((tree.lookup? location).isSome → tree.bar? location = none) := by
  unfold destination
  constructor
  · intro h
    obtain ⟨_, hcheck, h⟩ := bind_eq_ok_iff.mp h
    split at h
    · contradiction
    next last others hlast =>
    obtain ⟨parent, hwalk, h⟩ := bind_eq_ok_iff.mp h
    obtain ⟨hparent, h⟩ := unless_throw_eq_ok_iff.mp h
    obtain ⟨_, hpass, h⟩ := bind_eq_ok_iff.mp h
    obtain ⟨hfinal, h⟩ := if_throw_eq_ok_iff.mp h
    obtain ⟨hsize, rfl, htaken, hfree⟩ := slot_eq_ok_iff.mp h
    rw [not_or, not_or] at hfinal
    obtain ⟨hslash, hdot, hup⟩ := hfinal
    -- Without a slash at the end the last piece is a name, so none is dropped.
    obtain ⟨final, rest, hreverse⟩ := List.exists_cons_of_ne_nil
      (List.reverse_ne_nil_iff.mpr (Path.pieces_ne_nil path.text.toList))
    have hname : final ≠ [] := by
      rintro rfl
      apply Path.getLast?_pieces_ne (check_eq_ok_iff.mp hcheck).1 hslash
      rw [← List.head?_reverse, hreverse, List.head?_cons]
    rw [hreverse, List.dropWhile_cons_of_neg (by simpa using hname)] at hlast
    obtain ⟨rfl, rfl⟩ := List.cons.inj hlast
    have hpieces : Path.pieces path.text.toList = rest.reverse ++ [final] := by
      rw [← List.reverse_cons, ← hreverse, List.reverse_reverse]
    refine ⟨rest.reverse, final, parent, hcheck, hpieces, hwalk, hparent,
      pass_eq_ok_iff.mp hpass, ?_, hup, hsize, rfl, htaken, hfree⟩
    simp [Path.isIdle, hname, hdot]
  · rintro ⟨front, last, parent, hcheck, hpieces, hwalk, hparent, hopen, hidle, hup, hsize, rfl,
      htaken, hfree⟩
    obtain ⟨hname, hdot⟩ : last ≠ [] ∧ last ≠ ['.'] := by simpa [Path.isIdle] using hidle
    have hslash : path.text.toList.getLast? ≠ some '/' := by
      intro hslash
      have hempty := Path.getLast?_pieces_of_slash hslash
      rw [hpieces, List.getLast?_concat] at hempty
      exact hname (Option.some.inj hempty)
    refine bind_eq_ok_iff.mpr ⟨_, hcheck, ?_⟩
    rw [hpieces, List.reverse_concat, List.dropWhile_cons_of_neg (by simpa using hname)]
    refine bind_eq_ok_iff.mpr ⟨parent, by rwa [List.reverse_reverse], ?_⟩
    refine unless_throw_eq_ok_iff.mpr ⟨hparent, bind_eq_ok_iff.mpr
      ⟨(), pass_eq_ok_iff.mpr hopen, if_throw_eq_ok_iff.mpr ⟨?_, ?_⟩⟩⟩
    · simp [hslash, hdot, hup]
    · exact slot_eq_ok_iff.mpr ⟨hsize, rfl, htaken, hfree⟩

theorem lookup?_ne_of_destination (h : tree.destination path = .ok location) :
    tree.lookup? location ≠ some .directory := by
  obtain ⟨_, _, _, _, _, _, _, _, _, _, _, _, htaken, _⟩ := destination_eq_ok_iff.mp h
  exact htaken

theorem free_of_destination (h : tree.destination path = .ok location)
    (hpresent : (tree.lookup? location).isSome) : tree.bar? location = none := by
  obtain ⟨_, _, _, _, _, _, _, _, _, _, _, _, _, hfree⟩ := destination_eq_ok_iff.mp h
  exact hfree hpresent

theorem lookup?_put_self {entry : Entry} (h : tree.lookup? location ≠ some .directory) :
    (tree.put location entry).lookup? location = some entry := by
  rw [lookup?_put]
  split
  · next habove =>
    rw [lookup?, if_pos habove] at h
    contradiction
  · rw [if_pos rfl]

theorem lookup?_put_of_ne {other : Location} {entry : Entry} (h : other ≠ location) :
    (tree.put location entry).lookup? other = tree.lookup? other := by
  rw [lookup?_put]
  split
  · next habove => rw [lookup?, if_pos habove]
  · rfl

theorem bar?_put_self {entry : Entry} : (tree.put location entry).bar? location = none := by
  rw [bar?_put, if_pos rfl]

theorem bar?_put_of_ne {other : Location} {entry : Entry} (h : other ≠ location) :
    (tree.put location entry).bar? other = tree.bar? other := by
  rw [bar?_put, if_neg h]

theorem locate_put_destination {content : Content} (h : tree.destination path = .ok location) :
    (tree.put location (.file content)).locate path = .ok location := by
  obtain ⟨front, last, parent, hcheck, hpieces, hwalk, hparent, hopen, hidle, hup, hsize, rfl,
    htaken, -⟩ := destination_eq_ok_iff.mp h
  have hkept := kept_put content htaken
  refine (locate_eq_ok_iff hpieces).mpr ⟨hcheck, parent, ?_, ?_⟩
  · rw [hkept.start]
    exact hkept.foldlM_follow hwalk
  · refine .name (hkept.directory hparent) (hkept.free hopen) hidle hup hsize ?_
    rw [lookup?_put_self htaken]
    rfl

theorem write_eq_ok_iff {text : String} :
    tree.write path text = .ok after ↔
      ∃ location, tree.destination path = .ok location ∧
        after = tree.put location (.file (.text text)) := by
  rw [write, bind_eq_ok_iff]
  exact exists_congr fun location => and_congr_right fun _ => pure_eq_ok_iff.trans eq_comm

theorem check_of_write {text : String} (h : tree.write path text = .ok after) :
    check path = .ok () := by
  obtain ⟨_, hdestination, -⟩ := write_eq_ok_iff.mp h
  obtain ⟨_, _, _, hcheck, -⟩ := destination_eq_ok_iff.mp hdestination
  exact hcheck

theorem write_of_destination {text : String} (h : tree.destination path = .ok location) :
    tree.write path text = .ok (tree.put location (.file (.text text))) :=
  write_eq_ok_iff.mpr ⟨location, h, rfl⟩

/-- A tree has a new file at the place where a path leads, and is else the same: nothing else stands
there or is barred than before. -/
structure Replaced (before : FileTree) (path : Path) (text : String) (after : FileTree) :
    Prop where
  find_eq : after.find path = .ok (.file (.text text))
  workingDir : after.workingDir = before.workingDir
  /-- The place of the file. -/
  frame : ∃ location, before.destination path = .ok location ∧
    after.lookup? location = some (.file (.text text)) ∧
    ∀ other, other ≠ location →
      after.lookup? other = before.lookup? other ∧ after.bar? other = before.bar? other

theorem replaced_of_write {text : String} (h : tree.write path text = .ok after) :
    Replaced tree path text after := by
  obtain ⟨location, hdestination, rfl⟩ := write_eq_ok_iff.mp h
  have hfree := lookup?_ne_of_destination hdestination
  exact {
    find_eq := find_eq_ok_iff.mpr
      ⟨location, locate_put_destination hdestination, lookup?_put_self hfree, bar?_put_self⟩
    workingDir := rfl
    frame := ⟨location, hdestination, lookup?_put_self hfree, fun _ hother =>
      ⟨lookup?_put_of_ne hother, bar?_put_of_ne hother⟩⟩ }

/-- What is found at a path stays there when a file is written in another place. -/
theorem find_write_of_ne {target : Path} {text : String} {entry : Entry}
    (hwrite : tree.write target text = .ok after) (hfind : tree.find path = .ok entry)
    (hne : tree.destination target ≠ tree.locate path) : after.find path = .ok entry := by
  obtain ⟨location, hdestination, rfl⟩ := write_eq_ok_iff.mp hwrite
  have hfree := lookup?_ne_of_destination hdestination
  obtain ⟨other, hlocate, hlookup, hopen⟩ := find_eq_ok_iff.mp hfind
  have hother : other ≠ location := by
    rintro rfl
    exact hne (hdestination.trans hlocate.symm)
  exact find_eq_ok_iff.mpr ⟨other, (kept_put (.text text) hfree).locate hlocate,
    (lookup?_put_of_ne hother).trans hlookup, (bar?_put_of_ne hother).trans hopen⟩

theorem read_write_of_ne {target : Path} {text : String} {entry : Entry}
    (hwrite : tree.write target text = .ok after) (hfind : tree.find path = .ok entry)
    (hne : tree.destination target ≠ tree.locate path) : after.read path = tree.read path := by
  rw [read, read, find_write_of_ne hwrite hfind hne, hfind]

/-! ### Reading -/

theorem read_of_find_text {text : String} (h : tree.find path = .ok (.file (.text text))) :
    tree.read path = .ok text := by
  rw [read, h]
  rfl

theorem read_of_find_binary {bytes : List UInt8}
    (h : tree.find path = .ok (.file (.binary bytes))) : tree.read path = .error .notText := by
  rw [read, h]
  rfl

theorem read_of_find_error {fault : FileFault} (h : tree.find path = .error fault) :
    tree.read path = .error fault := by
  rw [read, h]
  rfl

theorem read_eq_ok_iff {text : String} :
    tree.read path = .ok text ↔ tree.find path = .ok (.file (.text text)) := by
  refine ⟨fun hread => ?_, read_of_find_text⟩
  obtain ⟨entry, hfind, hentry⟩ := bind_eq_ok_iff.mp hread
  rw [hfind]
  match entry with
  | .directory | .file (.binary _) => contradiction
  | .file (.text found) => rw [pure_eq_ok_iff.mp hentry]

/-- A path where no text is found cannot be read. -/
theorem exists_read_eq_error (h : ∀ text, tree.find path ≠ .ok (.file (.text text))) :
    ∃ fault, tree.read path = .error fault := by
  cases hfind : tree.find path with
  | error fault => exact ⟨fault, read_of_find_error hfind⟩
  | ok entry =>
    match entry with
    | .directory =>
      rw [read, hfind]
      exact ⟨.isDirectory, rfl⟩
    | .file (.binary bytes) => exact ⟨.notText, read_of_find_binary hfind⟩
    | .file (.text text) => exact absurd hfind (h text)

/-! ### Names in one directory -/

variable {dir name other : Path}

theorem start_join (tree : FileTree) (hname : name.IsName) (hother : other.IsName) :
    tree.start (dir.join other) = tree.start (dir.join name) := by
  rw [start, start, hother.isAbsolute_join, hname.isAbsolute_join]

theorem check_join (hname : name.IsName) (hother : other.IsName)
    (hsize : Text.byteSize other.text.toList ≤ Text.byteSize name.text.toList)
    (hcheck : check (dir.join name) = .ok ()) : check (dir.join other) = .ok () := by
  rw [check_join_eq_ok_iff hname, hname.toList_join, Text.byteSize_append] at hcheck
  rw [check_join_eq_ok_iff hother, hother.toList_join, Text.byteSize_append]
  exact ⟨hcheck.1, by omega⟩

/-- Where a directory has something under one name, another name that is free and not longer can be
written to. -/
theorem exists_write_join (hname : name.IsName) (hother : other.IsName)
    (hsize : Text.byteSize other.text.toList ≤ Text.byteSize name.text.toList)
    (hpresent : tree.isPresent (dir.join name) = true)
    (hfree : tree.isPresent (dir.join other) = false) (text : String) :
    ∃ after, tree.write (dir.join other) text = .ok after := by
  obtain ⟨entry, hentry⟩ := isPresent_eq_true_iff.mp hpresent
  obtain ⟨location, hlocate, -⟩ := entryAt_eq_ok_iff.mp hentry
  obtain ⟨hcheck, parent, hwalk, hfollows⟩ := (locate_eq_ok_iff hname.pieces_join).mp hlocate
  have hparent := hfollows.directory
  have hopen := hfollows.free hname.ne_nil
  rw [← start_join tree hname hother] at hwalk
  have hcheck := check_join hname hother hsize hcheck
  have hplace : tree.lookup? (parent ++ [other.text.toList]) = none := by
    refine Option.eq_none_iff_forall_ne_some.mpr fun entry hentry => ?_
    have hsome := Option.isSome_iff_exists.mpr ⟨entry, hentry⟩
    have hlocate : tree.locate (dir.join other) = .ok (parent ++ [other.text.toList]) :=
      (locate_eq_ok_iff hother.pieces_join).mpr
        ⟨hcheck, parent, hwalk, .name hparent hopen hother.idle hother.up hother.size hsome⟩
    have hfound := isPresent_eq_true_iff.mpr ⟨entry, entryAt_eq_ok_iff.mpr ⟨_, hlocate, hentry⟩⟩
    rw [hfree] at hfound
    contradiction
  refine ⟨_, write_eq_ok_iff.mpr ⟨_, destination_eq_ok_iff.mpr ⟨_, _, parent, hcheck,
    hother.pieces_join, hwalk, hparent, hopen, hother.idle, hother.up, hother.size, rfl, ?_, ?_⟩,
    rfl⟩⟩
  · rw [hplace]
    exact nofun
  · rw [hplace]
    exact nofun

end FileTree

end SchemaPolicy
