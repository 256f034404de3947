import Mathlib.Data.List.Induction
import SchemaPolicy.Proofs.FileTree.Writing

/-! Files apart from the one that is written. A path that does not lead to the new file leads where
it led without it, so what is found there is the same, and nothing is where there was nothing. The
same text can then be written again, and changes nothing. -/

namespace SchemaPolicy.FileTree

open Outcome

variable {tree after : FileTree} {location next place : Location} {path target : Path}
  {content : Content} {text : String}

/-- Two paths lead to one place. -/
def SameFile (tree : FileTree) (path other : Path) : Prop :=
  ∃ location, tree.locate path = .ok location ∧ tree.locate other = .ok location

theorem sameFile_iff {other : Path} (h : tree.locate path = .ok location) :
    tree.SameFile path other ↔ tree.locate other = .ok location := by
  rw [SameFile, h]
  constructor
  · rintro ⟨_, hplace, hother⟩
    rwa [← Except.ok.inj hplace] at hother
  · intro hother
    exact ⟨location, rfl, hother⟩

/-- The new file is no directory, so a walk cannot go on from it. -/
theorem ne_of_follows_put {piece : List Char} (hfree : tree.lookup? place ≠ some .directory)
    (h : (tree.put place (.file content)).Follows location piece next) : location ≠ place := by
  rintro rfl
  have hdirectory := h.directory
  rw [lookup?_put_self hfree] at hdirectory
  exact absurd (Option.some.inj hdirectory) nofun

theorem follows_of_put {piece : List Char} (hfree : tree.lookup? place ≠ some .directory)
    (h : (tree.put place (.file content)).Follows location piece next) (hnext : next ≠ place) :
    tree.Follows location piece next := by
  have hlocation := ne_of_follows_put hfree h
  refine h.congr ?_ ?_ ?_
  · rw [← lookup?_put_of_ne hlocation]
    exact h.directory
  · rw [bar?_put_of_ne hlocation]
    exact id
  · rw [lookup?_put_of_ne hnext]
    exact id

/-- A walk that does not end at the new file does not need it. -/
theorem foldlM_follow_of_put {start : Location} {pieces : List (List Char)}
    (hfree : tree.lookup? place ≠ some .directory)
    (h : pieces.foldlM (tree.put place (.file content)).follow start = .ok location)
    (hlocation : location ≠ place) : pieces.foldlM tree.follow start = .ok location := by
  induction pieces using List.reverseRecOn generalizing location with
  | nil => exact h
  | append_singleton front last ih =>
    simp only [List.foldlM_append, List.foldlM_cons, List.foldlM_nil, bind_eq_ok_iff,
      pure_eq_ok_iff, exists_eq_right, follow_eq_ok_iff] at h ⊢
    obtain ⟨parent, hfront, hlast⟩ := h
    exact ⟨parent, ih hfront (ne_of_follows_put hfree hlast),
      follows_of_put hfree hlast hlocation⟩

theorem locate_put_eq_ok_iff (hfree : tree.lookup? place ≠ some .directory)
    (hlocation : location ≠ place) :
    (tree.put place (.file content)).locate path = .ok location ↔
      tree.locate path = .ok location := by
  refine ⟨fun h => ?_, (kept_put content hfree).locate⟩
  obtain ⟨_, hcheck, hwalk⟩ := bind_eq_ok_iff.mp h
  exact bind_eq_ok_iff.mpr ⟨_, hcheck, foldlM_follow_of_put hfree hwalk hlocation⟩

/-! ### Other files -/

/-- The new file is in no place where the path of another file leads. -/
theorem exists_place_of_write (hwrite : tree.write target text = .ok after)
    (hapart : ¬SameFile after target path) :
    ∃ place, after = tree.put place (.file (.text text)) ∧
      tree.lookup? place ≠ some .directory ∧
      ∀ location, after.locate path = .ok location → location ≠ place := by
  obtain ⟨place, hdestination, rfl⟩ := write_eq_ok_iff.mp hwrite
  refine ⟨place, rfl, lookup?_ne_of_destination hdestination, ?_⟩
  rintro location hlocate rfl
  exact hapart ((sameFile_iff (locate_put_destination hdestination)).mpr hlocate)

/-- The path of another file leads where it led, if anywhere. -/
theorem locate_write_eq_ok_iff (hwrite : tree.write target text = .ok after)
    (hapart : ¬SameFile after target path) :
    after.locate path = .ok location ↔ tree.locate path = .ok location := by
  obtain ⟨place, rfl, hfree, hne⟩ := exists_place_of_write hwrite hapart
  constructor
  · exact fun hlocate => (locate_put_eq_ok_iff hfree (hne location hlocate)).mp hlocate
  · exact (kept_put (.text text) hfree).locate

/-- At the path of another file the same stands as before, if anything. -/
theorem entryAt_write_eq_ok_iff {entry : Entry} (hwrite : tree.write target text = .ok after)
    (hapart : ¬SameFile after target path) :
    after.entryAt path = .ok entry ↔ tree.entryAt path = .ok entry := by
  rw [entryAt_eq_ok_iff, entryAt_eq_ok_iff]
  refine exists_congr fun location => ?_
  rw [← locate_write_eq_ok_iff hwrite hapart]
  refine and_congr_right fun hlocate => ?_
  obtain ⟨place, rfl, -, hne⟩ := exists_place_of_write hwrite hapart
  rw [lookup?_put_of_ne (hne location hlocate)]

/-- One who opens the path of another file finds the same as before, if anything. -/
theorem find_write_eq_ok_iff {entry : Entry} (hwrite : tree.write target text = .ok after)
    (hapart : ¬SameFile after target path) :
    after.find path = .ok entry ↔ tree.find path = .ok entry := by
  rw [find_eq_ok_iff, find_eq_ok_iff]
  refine exists_congr fun location => ?_
  rw [← locate_write_eq_ok_iff hwrite hapart]
  refine and_congr_right fun hlocate => ?_
  obtain ⟨place, rfl, -, hne⟩ := exists_place_of_write hwrite hapart
  rw [lookup?_put_of_ne (hne location hlocate), bar?_put_of_ne (hne location hlocate)]

theorem isFile_write (hwrite : tree.write target text = .ok after)
    (hapart : ¬SameFile after target path) : after.isFile path = tree.isFile path := by
  rw [Bool.eq_iff_iff, isFile_eq_true_iff, isFile_eq_true_iff]
  exact exists_congr fun _ => entryAt_write_eq_ok_iff hwrite hapart

theorem read_write_eq_ok_iff {other : String} (hwrite : tree.write target text = .ok after)
    (hapart : ¬SameFile after target path) :
    after.read path = .ok other ↔ tree.read path = .ok other := by
  rw [read_eq_ok_iff, read_eq_ok_iff, find_write_eq_ok_iff hwrite hapart]

/-! ### Places for other files -/

/-- A new file where one may be put does not change where any file would be put. -/
theorem destination_put_eq_ok_iff (hplace : tree.destination target = .ok place) :
    (tree.put place (.file content)).destination path = .ok location ↔
      tree.destination path = .ok location := by
  have hfree := lookup?_ne_of_destination hplace
  have hkept := kept_put content hfree
  have hslot : ((tree.put place (.file content)).lookup? location ≠ some .directory ∧
        (((tree.put place (.file content)).lookup? location).isSome →
          (tree.put place (.file content)).bar? location = none)) ↔
      tree.lookup? location ≠ some .directory ∧
        ((tree.lookup? location).isSome → tree.bar? location = none) := by
    by_cases hother : location = place
    · subst hother
      rw [lookup?_put_self hfree, bar?_put_self]
      exact ⟨fun _ => ⟨hfree, free_of_destination hplace⟩, fun _ => ⟨nofun, fun _ => rfl⟩⟩
    · rw [lookup?_put_of_ne hother, bar?_put_of_ne hother]
  rw [destination_eq_ok_iff, destination_eq_ok_iff]
  refine exists_congr fun front => exists_congr fun last => exists_congr fun parent =>
    and_congr_right fun _ => and_congr_right fun _ => ?_
  rw [hslot, hkept.start]
  constructor
  · rintro ⟨hwalk, hparent, hopen, hrest⟩
    have hne : parent ≠ place := by
      rintro rfl
      rw [lookup?_put_self hfree] at hparent
      exact absurd (Option.some.inj hparent) nofun
    rw [lookup?_put_of_ne hne] at hparent
    rw [bar?_put_of_ne hne] at hopen
    exact ⟨foldlM_follow_of_put hfree hwalk hne, hparent, hopen, hrest⟩
  · rintro ⟨hwalk, hparent, hopen, hrest⟩
    exact ⟨hkept.foldlM_follow hwalk, hkept.directory hparent, hkept.free hopen, hrest⟩

theorem destination_write_eq_ok_iff (hwrite : tree.write target text = .ok after) :
    after.destination path = .ok location ↔ tree.destination path = .ok location := by
  obtain ⟨place, hdestination, rfl⟩ := write_eq_ok_iff.mp hwrite
  exact destination_put_eq_ok_iff hdestination

/-- What has been written can be written again, and then nothing changes. -/
theorem write_write (h : tree.write path text = .ok after) : after.write path text = .ok after := by
  obtain ⟨location, hdestination, rfl⟩ := write_eq_ok_iff.mp h
  have hagain := (destination_write_eq_ok_iff h).mpr hdestination
  exact write_eq_ok_iff.mpr ⟨location, hagain, (put_put ..).symm⟩

end SchemaPolicy.FileTree
