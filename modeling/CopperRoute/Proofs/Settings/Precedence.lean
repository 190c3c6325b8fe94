import CopperRoute.Command.Invocation
import CopperRoute.Proofs.Footprint.Nets
import CopperRoute.Proofs.Footprint.Parameters
import CopperRoute.Proofs.Settings.Merge

/-!
# Where the settings of a footprint come from

Five layers can define a setting, and the first that does decides it:

```
  parameters of the footprint
      ↓
  overrides of the command
      ↓
  settings file of the project
      ↓
  settings file of the user
      ↓
  what is built in
```

The layers meet in three places: the files when they are merged, the overrides when they are applied
to what the files gave, and the parameters when the footprint is built. Main statement:
`settings_by_precedence`.
-/

namespace CopperRoute

/-! ## Footprints -/

namespace Footprint

/-- A setting as a footprint has it, with null for the number of decimals of its format. -/
def setting (f : Footprint) : Setting → Value
  | .width => .float f.width
  | .viaSize => .float f.viaSize
  | .viaDrill => .float f.viaDrill
  | .locked => .bool f.locked
  | .precision => (f.precision.map .int).getD .null
  | .format => .text f.format.name

theorem normalSize_of_sizeOf {name : String} {v : Value} {x : Float} (h : sizeOf name v = .ok x) :
    Settings.normalSize v = .float x := by
  obtain ⟨rfl | ⟨i, rfl, hi⟩, -⟩ := sizeOf_eq_ok h
  · rfl
  · exact Settings.normalSize_int hi

/-- The checks of the parameters bring every value into the form in which settings are kept. -/
theorem Built.setting_eq {t : Table} {settings : Settings} {f : Footprint}
    (h : Built t settings f) (k : Setting) :
    f.setting k = Settings.normal k (valueOf t settings k) := by
  cases k with
  | width => exact (normalSize_of_sizeOf h.width).symm
  | viaSize => exact (normalSize_of_sizeOf h.viaSize).symm
  | viaDrill => exact (normalSize_of_sizeOf h.viaDrill).symm
  | locked =>
    have hlocked := lockedOf_eq_ok h.locked
    rw [hlocked]
    rfl
  | precision =>
    rcases precisionOf_eq_ok h.precision with ⟨hnull, hnone⟩ | ⟨i, hint, hsome, -⟩
    · rw [setting, hnone, hnull]
      rfl
    · rw [setting, hsome, hint]
      rfl
  | format =>
    obtain ⟨name, hname, hformat⟩ := formatOf_eq_ok h.format
    rw [hname]
    exact (Settings.normalFormat_text hformat).symm

end Footprint

/-! ## Files -/

namespace Settings

/-- What a settings file gives to a merge: its table and how it is called, or nothing if there is no
file. -/
def Site.layer (s : Site) : Option Place → Except Fault (Table × String)
  | none => .ok ([], "")
  | some place =>
    let path := Path.ofPlace place
    (fileTable s.disk s.current path).map fun t => (t, path.text)

/-- A file that can be read is merged as its table. -/
theorem mergeFile_eq {s : Site} {file : Option Place} {t : Table} {source : String} (before : Merge)
    (hlayer : s.layer file = .ok (t, source)) (hbefore : before.fault = none) :
    (mergeFile s before file).merged = (merge before.merged t source).merged ∧
      (mergeFile s before file).fault = (merge before.merged t source).fault := by
  obtain ⟨merged, warnings, fault⟩ := before
  obtain rfl : fault = none := hbefore
  cases file with
  | none =>
    obtain ⟨rfl, rfl⟩ := Prod.mk.inj (Except.ok.inj hlayer)
    exact ⟨rfl, rfl⟩
  | some place =>
    cases htable : fileTable s.disk s.current (Path.ofPlace place) with
    | error fault =>
      simp only [Site.layer, htable] at hlayer
      cases hlayer
    | ok entries =>
      simp only [Site.layer, htable] at hlayer
      obtain ⟨rfl, rfl⟩ := Prod.mk.inj (Except.ok.inj hlayer)
      simp [mergeFile, htable]

variable {user project : Table} {userFile projectFile : String} {first second : Merged}
  {warnings warnings' : List String}

/-- Of two tables merged one after the other the second wins, and what neither defines is built in. -/
theorem merged_twice (huser : merge {} user userFile = ⟨first, warnings, none⟩)
    (hproject : merge first project projectFile = ⟨second, warnings', none⟩) (k : Setting) :
    normal k (second.settings.get k) =
        normal k (((defined? project k).or (defined? user k)).getD (({} : Settings).get k)) ∧
      second.sourceText k =
        if (defined? project k).isSome then projectFile
        else if (defined? user k).isSome then userFile
        else "default" := by
  have hspec := merge_spec {} user userFile (by rw [huser]) k
  have hspec' := merge_spec first project projectFile (by rw [hproject]) k
  rw [huser] at hspec
  rw [hproject] at hspec'
  obtain ⟨hget, hsource⟩ := hspec
  obtain ⟨hget', hsource'⟩ := hspec'
  constructor
  · rw [hget']
    cases defined? project k with
    | some v => rfl
    | none => exact hget
  · rw [Merged.sourceText, hsource']
    cases defined? project k with
    | some v => rfl
    | none =>
      rw [if_neg (by simp), if_neg (by simp), hsource]
      cases defined? user k <;> rfl

/-- Reading the two files comes to merging their tables. -/
theorem load_of_layers {site : Site} {directory : Place}
    (huser : merge {} user userFile = ⟨first, warnings, none⟩)
    (hproject : merge first project projectFile = ⟨second, warnings', none⟩)
    (hhome : site.layer site.userFile? = .ok (user, userFile))
    (hplace : site.layer (projectFile? site.disk directory) = .ok (project, projectFile)) :
    (load site directory).merged = second ∧ (load site directory).fault = none := by
  obtain ⟨hmerged, hfault⟩ := mergeFile_eq ⟨{}, [], none⟩ hhome rfl
  rw [huser] at hmerged hfault
  obtain ⟨hmerged', hfault'⟩ := mergeFile_eq _ hplace hfault
  rw [hmerged, hproject] at hmerged' hfault'
  exact ⟨hmerged', hfault'⟩

end Settings

/-! ## Main statement -/

open Settings

/-- Let the table of the user and then that of the project be merged without a fault. Every setting
of a footprint that is built on what they come to, under any overrides, is the first value that is
defined for it: by the parameters of the footprint, by the overrides, by the project, by the user, or
else the one built in, each in the form in which it is kept. The source of a setting is the file of
the project if that defines it, else that of the user if that does. Only the settings that the tables
define count for this, whatever else they hold that can be told in a warning. A site whose files have these tables loads just these
settings. -/
theorem settings_by_precedence {user project : Table} {userFile projectFile : String}
    {first second : Merged} {warnings warnings' : List String}
    (huser : merge {} user userFile = ⟨first, warnings, none⟩)
    (hproject : merge first project projectFile = ⟨second, warnings', none⟩) :
    (∀ (overrides : Command.Overrides) (params : Value) (start built : Board) (f : Footprint),
      (Footprint.ofParameters params (overrides.apply second.settings)).on start = (.ok f, built) →
      ∃ t : Table, params.bare = .table t ∧ ∀ k : Setting,
        f.setting k = normal k (((t.get? k.name).or ((overrides.get? k).or
          ((defined? project k).or (defined? user k)))).getD (({} : Settings).get k))) ∧
    (∀ k : Setting, second.sourceText k =
      if (defined? project k).isSome then projectFile
      else if (defined? user k).isSome then userFile
      else "default") ∧
    (∀ user' project' : Table, NamesTold user' → NamesTold project' →
      known user' = known user → known project' = known project →
      ∃ warnings warnings' : List String,
        merge {} user' userFile = ⟨first, warnings, none⟩ ∧
        merge first project' projectFile = ⟨second, warnings', none⟩) ∧
    ∀ (site : Site) (directory : Place),
      site.layer site.userFile? = .ok (user, userFile) →
      site.layer (projectFile? site.disk directory) = .ok (project, projectFile) →
      (load site directory).merged = second ∧ (load site directory).fault = none := by
  have hfiles := merged_twice huser hproject
  refine ⟨?_, fun k => (hfiles k).2, ?_, fun site directory => load_of_layers huser hproject⟩
  · intro overrides params start built f hbuilt
    obtain ⟨t, hnamed, hbuilt, -⟩ := Footprint.ofParameters_built hbuilt
    refine ⟨t, Footprint.bare_of_named hnamed, fun k => ?_⟩
    rw [hbuilt.setting_eq k, Footprint.valueOf, Command.Overrides.get_apply]
    cases t.get? k.name with
    | some v => rfl
    | none =>
      cases overrides.get? k with
      | some v => rfl
      | none => exact (hfiles k).1
  · intro user' project' htold htold' huser' hproject'
    obtain ⟨told, hmerge⟩ := merge_congr_known {} userFile (by rw [huser]) htold huser'
    obtain ⟨told', hmerge'⟩ :=
      merge_congr_known first projectFile (by rw [hproject]) htold' hproject'
    rw [huser] at hmerge
    rw [hproject] at hmerge'
    exact ⟨told, told', hmerge, hmerge'⟩

/-- All five layers at once: the width is defined by both files, the lock and the format by one of
them, the size of vias by an override, and the number of decimals by an override and by the
parameters, which leave it to the format. -/
theorem settings_by_precedence_five_layers :
    let user : Table := [(.text "router", .table [(.text "width", .int 1),
      (.text "locked", .bool true), (.text "colour", .text "red")]), (.text "theme", .table [])]
    let project : Table := [(.text "router", .table [(.text "width", .int 2),
      (.text "format", .text " Legacy")])]
    let overrides : Command.Overrides := { viaSize := some 0.75, precision := some 4 }
    let params : Value := .table [(.text "precision", .null)]
    let first := (merge {} user "user.toml").merged
    let second := (merge first project "project.toml").merged
    ∃ f built, (Footprint.ofParameters params (overrides.apply second.settings)).on
        ⟨.empty true, []⟩ = (.ok f, built) ∧
      (∀ k, f.setting k = match k with
        | .width => .float 2
        | .viaSize => .float 0.75
        | .viaDrill => .float 0.3
        | .locked => .bool true
        | .precision => .null
        | .format => .text "legacy") ∧
      ∀ k, second.sourceText k = match k with
        | .width | .format => "project.toml"
        | .locked => "user.toml"
        | .viaSize | .viaDrill | .precision => "default" := by
  intro user project overrides params first second
  have huser : merge {} user "user.toml" = ⟨first, _, none⟩ := rfl
  have hproject : merge first project "project.toml" = ⟨second, _, none⟩ := rfl
  have hbuilt : (Footprint.ofParameters params (overrides.apply second.settings)).on
    ⟨.empty true, []⟩ = (.ok _, _) := rfl
  obtain ⟨hsettings, hsources, -, -⟩ := settings_by_precedence huser hproject
  obtain ⟨t, ht, hsettings⟩ := hsettings overrides params _ _ _ hbuilt
  obtain rfl : _ = t := Value.table.inj ht
  refine ⟨_, _, hbuilt, fun k => ?_, fun k => ?_⟩
  · rw [hsettings k]
    cases k <;> rfl
  · rw [hsources k]
    cases k <;> rfl

end CopperRoute
