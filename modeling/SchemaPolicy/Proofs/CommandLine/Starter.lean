import SchemaPolicy.CommandLine.Starter
import SchemaPolicy.Proofs.FileTree.Writing
import SchemaPolicy.Proofs.Project.BaseDir

/-! The configuration to start with: its text makes the settings and the extra rules that hold
without any configuration, and a project directory that has it is configured by it. -/

namespace SchemaPolicy

open FileTree

namespace CommandLine

theorem toList_starterConfig :
    starterConfig.toList = starterLines.flatMap fun line => line.toList ++ ['\n'] := by
  simp [starterConfig, String.toList_join, List.flatMap_map]

theorem config_starterConfig : Config.ofText starterConfig = .ok {} := by
  apply Outcome.eq_ok_of_toOption
  rw [Config.ofText, Toml.ofText?, toList_starterConfig]
  decide +kernel

theorem extraRules_starterConfig : extraRulesOfText starterConfig = .ok [] := by
  apply Outcome.eq_ok_of_toOption
  rw [extraRulesOfText, Toml.ofText?, toList_starterConfig]
  decide +kernel

/-- The project that the configuration to start with makes of a directory. -/
def starterProject (dir : Path) : Project where
  source := .project (dir.join starterFileName)
  baseDir := (Source.project (dir.join starterFileName)).baseDir dir
  config := {}
  extraRules := []

theorem loaded_starterConfig {environment : Environment} {dir : Path} {tree : FileTree}
    (h : tree.find (dir.join starterFileName) = .ok (.file (.text starterConfig))) :
    Project.loaded environment dir none tree = .ok (starterProject dir) := by
  have hlocated : Source.located tree dir none environment.userConfigDir? =
      .project (dir.join starterFileName) := by
    rw [Source.located_eq_project_iff]
    exact List.find?_cons_of_pos (isFile_of_find h)
  rw [Project.loaded_eq_ofText hlocated rfl (read_of_find_text h)]
  exact Project.ofText_eq_ok_iff.mpr ⟨_, _, config_starterConfig, extraRules_starterConfig, rfl⟩

end CommandLine

end SchemaPolicy
