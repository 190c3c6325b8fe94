import CopperRoute.Disk
import CopperRoute.Proofs.Session

/-!
# What changes in a file tree

A text is delivered to a path in two steps, each of which can break down:

    tree ──makeDirectories──▶ tree with the directories above ──write──▶ tree with the file

The first step only puts directories where nothing stood (`Gains`), also where it breaks down, and
the second puts one file. Main statements: `gains_makeDirectories` for what the first step leaves
alone, and `locate_of_write` for where the file is found. A path is followed through directories
only, so that the file in the end does not stand in the way of its own path (`follow_put`).
-/

namespace CopperRoute.Disk

open Session (bind_eq_ok)

variable {d d' d'' : Disk} {current place : Place} {path : Path} {content : ByteArray}

/-- The root is always a directory. -/
theorem ne_root (h : d.find? place ≠ some .directory) : place ≠ [] := by
  rintro rfl
  exact h rfl

/-! ## Directories -/

/-- What `d'` has more than `d` are directories where nothing stood. -/
def Gains (d d' : Disk) : Prop :=
  ∀ place, d'.find? place = d.find? place ∨
    d.find? place = none ∧ d'.find? place = some .directory

theorem Gains.refl (d : Disk) : d.Gains d := fun _ => .inl rfl

theorem Gains.trans (h : d.Gains d') (h' : d'.Gains d'') : d.Gains d'' := by
  intro place
  rcases h' place with hkept | ⟨hfree, hmade⟩
  · rw [hkept]
    exact h place
  · rcases h place with hkept | ⟨-, hmade'⟩
    · exact .inr ⟨hkept ▸ hfree, hmade⟩
    · rw [hmade'] at hfree
      cases hfree

theorem gains_put (h : d.find? place = none) : d.Gains (d.put place .directory) := by
  have hroot : place ≠ [] := by
    refine @ne_root d place ?_
    rw [h]
    exact fun hsame => by cases hsame
  intro other
  rw [find?_put d .directory hroot]
  split
  · next hsame => exact .inr ⟨hsame ▸ h, rfl⟩
  · exact .inl rfl

theorem gains_of_makeDirectory (h : d.makeDirectory current path = .ok d') : d.Gains d' := by
  obtain ⟨place, -, h⟩ := bind_eq_ok h
  split at h
  · cases h
  · next hfree =>
    cases h
    exact gains_put (by simpa [contains] using hfree)

/-- Whether all missing directories can be made or not, nothing that was there has changed. -/
theorem gains_makeAll (names : Nat) (path : Path) (d : Disk) :
    d.Gains (makeAll current names path d).1 := by
  induction names generalizing path d with
  | zero => exact .refl d
  | succ names ih =>
    rw [makeAll]
    dsimp only
    split
    · next d' hmade => exact gains_of_makeDirectory hmade
    · split
      · exact .refl d
      · have habove := ih path.parent d
        split
        · next hstopped =>
          rw [hstopped] at habove
          exact habove
        · next d' hdone =>
          rw [hdone] at habove
          split
          · next d'' hmade => exact habove.trans (gains_of_makeDirectory hmade)
          · split
            · exact habove
            · split <;> exact habove
    · split
      · exact .refl d
      · split <;> exact .refl d

theorem gains_makeDirectories (d : Disk) (current : Place) (path : Path) :
    d.Gains (d.makeDirectories current path).1 :=
  gains_makeAll _ path d

/-! ## Following paths -/

theorem follow_append (d : Disk) (place : Place) (names rest : List String) :
    d.follow place (names ++ rest) =
      (d.follow place names).bind fun found => d.follow found.1 rest := by
  induction names generalizing place with
  | nil =>
    rw [List.nil_append, follow]
    cases hplace : d.find? place with
    | none =>
      cases rest <;> simp [follow, hplace, Except.bind]
    | some entry => rfl
  | cons name names ih =>
    rw [List.cons_append, follow, follow]
    split
    · split
      · rfl
      · exact ih _
    · rfl
    · rfl

/-- Where names lead, the entry is found that they lead to. -/
theorem find?_of_follow {start : Place} {names : List String} {entry : Entry}
    (h : d.follow start names = .ok (place, entry)) : d.find? place = some entry := by
  induction names generalizing start with
  | nil =>
    rw [follow] at h
    split at h
    · next entry' hentry =>
      cases h
      exact hentry
    · cases h
  | cons name names ih =>
    rw [follow] at h
    split at h
    · split at h
      · cases h
      · exact ih h
    · cases h
    · cases h

/-- A path leads through directories, so that it does not change where it leads if an entry is put
in a place where none is. -/
theorem follow_put {start dir : Place} {names : List String} {entry : Entry}
    (hplace : d.find? place ≠ some .directory)
    (h : d.follow start names = .ok (dir, .directory)) :
    (d.put place entry).follow start names = .ok (dir, .directory) := by
  have hkept {other : Place} (hother : d.find? other = some .directory) :
      (d.put place entry).find? other = some .directory := by
    have hne : other ≠ place := by
      intro hsame
      exact hplace (hsame ▸ hother)
    rw [find?_put d entry (ne_root hplace), if_neg hne, hother]
  induction names generalizing start with
  | nil =>
    rw [follow] at h
    split at h
    · next entry' hentry =>
      cases h
      rw [follow, hkept hentry]
    · cases h
  | cons name names ih =>
    rw [follow] at h
    split at h
    · next hstart =>
      rw [follow, hkept hstart]
      dsimp only
      split at h
      · cases h
      · next hname =>
        rw [if_neg hname]
        exact ih h
    · cases h
    · cases h

/-! ## Places of paths -/

def startOf (current : Place) (path : Path) : Place := if path.isAbsolute then [] else current

/-- A path that the system takes: its names can stand in it, and it is not too long. -/
def IsFit (path : Path) : Prop :=
  path.names.all isFitName = true ∧ path.text.utf8ByteSize ≤ pathLimit

theorem locate_of_isFit (h : IsFit path) (d : Disk) (current : Place) :
    d.locate current path = d.follow (startOf current path) path.names := by
  rw [locate, h.1, if_neg (by simp), if_neg (Nat.not_lt.2 h.2)]
  rfl

theorem isFit_of_locate {found : Place × Entry} (h : d.locate current path = .ok found) :
    IsFit path := by
  unfold locate at h
  split at h
  · cases h
  · next hnames =>
    split at h
    · cases h
    · next hlength => exact ⟨by simpa using hnames, by omega⟩

/-- The last name of a path leads on from the directory that its parent leads to. -/
theorem names_eq_append {name : String} (h : path.names.getLast? = some name) :
    path.names = path.parent.names ++ [name] := by
  obtain ⟨names, hnames⟩ := List.getLast?_eq_some_iff.1 h
  simp [Path.parent, hnames]

/-- The place of a path is its start if it has no names. With names, it is behind the directory that
holds it. -/
theorem target_eq_ok (h : d.target current path = .ok place) :
    IsFit path ∧
      (path.names = [] ∧ place = startOf current path ∨
        ∃ name dir, path.names = path.parent.names ++ [name] ∧
          d.follow (startOf current path) path.parent.names = .ok (dir, .directory) ∧
          name.utf8ByteSize ≤ nameLimit ∧
          place = if name == ".." then dir.dropLast else dir ++ [name]) := by
  unfold target at h
  split at h
  · cases h
  · next hnames =>
    split at h
    · cases h
    · next hlength =>
      refine ⟨⟨by simpa using hnames, by omega⟩, ?_⟩
      split at h
      · next hlast =>
        cases h
        exact .inl ⟨List.getLast?_eq_none_iff.1 hlast, rfl⟩
      · next name hlast =>
        obtain ⟨⟨dir, entry⟩, hparent, h⟩ := bind_eq_ok h
        have hfollow := locate_of_isFit (isFit_of_locate hparent) d current
        rw [hparent] at hfollow
        cases entry with
        | file content => cases h
        | directory =>
          dsimp only at h
          split at h
          · cases h
          · cases h
            exact .inr ⟨name, dir, names_eq_append hlast, hfollow.symm, by omega, rfl⟩

/-- What is put in the place of a path is found under it. -/
theorem locate_put {entry : Entry} (h : d.target current path = .ok place)
    (hplace : d.find? place ≠ some .directory) :
    (d.put place entry).locate current path = .ok (place, entry) := by
  have hput : (d.put place entry).find? place = some entry := by
    rw [find?_put d entry (ne_root hplace), if_pos rfl]
  obtain ⟨hfit, ⟨hnames, rfl⟩ | ⟨name, dir, hnames, hdir, hname, hsame⟩⟩ := target_eq_ok h
  · rw [locate_of_isFit hfit, hnames, follow, hput]
  · have hparent : (d.put place entry).follow _ _ = .ok (dir, .directory) := follow_put hplace hdir
    have hthere : (d.put place entry).find? dir = some .directory := find?_of_follow hparent
    rw [locate_of_isFit hfit, hnames, follow_append, hparent]
    show (d.put place entry).follow dir [name] = _
    rw [follow, hthere]
    dsimp only
    rw [if_neg (Nat.not_lt.2 hname), ← hsame, follow, hput]

/-- A text that was written is found under its path, and no other place has changed. -/
theorem locate_of_write (h : d.write current path content = .ok d') :
    ∃ place, d'.locate current path = .ok (place, .file content) ∧
      ∀ other, other ≠ place → d'.find? other = d.find? other := by
  obtain ⟨place, htarget, h⟩ := bind_eq_ok h
  split at h
  · cases h
  · next hplace =>
    cases h
    refine ⟨place, locate_put htarget hplace, fun other hother => ?_⟩
    rw [find?_put d _ (ne_root hplace), if_neg hother]

/-! ## Directories that are there -/

/-- A file can be written to the path as the tree is: the directory that is to hold it is there, and
no directory has its place. -/
structure CanHold (d : Disk) (current : Place) (path : Path) : Prop where
  parent : ∃ dir, d.locate current path.parent = .ok (dir, .directory)
  free : ∃ place, d.target current path = .ok place ∧ d.find? place ≠ some .directory

/-- The last step of a path starts in a directory. -/
theorem follow_last {start : Place} {names : List String} {name : String} {entry : Entry}
    (h : d.follow start (names ++ [name]) = .ok (place, entry)) :
    ∃ dir, d.follow start names = .ok (dir, .directory) ∧ name.utf8ByteSize ≤ nameLimit ∧
      place = if name == ".." then dir.dropLast else dir ++ [name] := by
  rw [follow_append] at h
  cases hnames : d.follow start names with
  | error b =>
    rw [hnames] at h
    cases h
  | ok found =>
    obtain ⟨dir, entry'⟩ := found
    rw [hnames] at h
    have hlast : d.follow dir [name] = .ok (place, entry) := h
    rw [follow, find?_of_follow hnames] at hlast
    cases entry' with
    | file content => cases hlast
    | directory =>
      dsimp only at hlast
      split at hlast
      · cases hlast
      · rw [follow] at hlast
        split at hlast
        · cases hlast
          exact ⟨dir, rfl, by omega, rfl⟩
        · cases hlast

/-- The place of a path that leads somewhere is where it leads, unless the path above it is too long
for the system. -/
theorem target_of_locate {entry : Entry} (h : d.locate current path = .ok (place, entry)) :
    d.target current path = .ok place ∨ d.target current path = .error .nameTooLong := by
  have hfit := isFit_of_locate h
  rw [locate_of_isFit hfit] at h
  rw [target, hfit.1, if_neg (by simp), if_neg (Nat.not_lt.2 hfit.2)]
  cases hlast : path.names.getLast? with
  | none =>
    rw [List.getLast?_eq_none_iff.1 hlast, follow] at h
    split at h
    · cases h
      exact .inl rfl
    · cases h
  | some name =>
    rw [names_eq_append hlast] at h
    obtain ⟨dir, hdir, hname, rfl⟩ := follow_last h
    have hnames : path.parent.names.all isFitName = true := by
      have hall := hfit.1
      rw [names_eq_append hlast, List.all_append, Bool.and_eq_true] at hall
      exact hall.1
    dsimp only
    by_cases hlength : path.parent.text.utf8ByteSize ≤ pathLimit
    · have hparent : d.locate current path.parent = .ok (dir, .directory) :=
        (locate_of_isFit ⟨hnames, hlength⟩ d current).trans hdir
      rw [hparent]
      simp only [bind, Except.bind]
      rw [if_neg (Nat.not_lt.2 hname)]
      exact .inl rfl
    · rw [locate, hnames, if_neg (by simp), if_pos (Nat.lt_of_not_le hlength)]
      exact .inr rfl

/-- A directory that is there cannot be made, and what is said then is not that its parent is
missing. -/
theorem makeDirectory_of_locate {dir : Place} (h : d.locate current path = .ok (dir, .directory)) :
    d.makeDirectory current path = .error .alreadyThere ∨
      d.makeDirectory current path = .error .nameTooLong := by
  have hfollow := h
  rw [locate_of_isFit (isFit_of_locate h)] at hfollow
  have hthere : d.contains dir = true := by
    rw [contains, find?_of_follow hfollow]
    rfl
  unfold makeDirectory
  rcases target_of_locate h with htarget | htarget
  · rw [htarget]
    simp only [bind, Except.bind, hthere]
    exact .inl rfl
  · rw [htarget]
    exact .inr rfl

/-- Making directories that are all there changes nothing. -/
theorem makeDirectories_of_locate {dir : Place}
    (h : d.locate current path = .ok (dir, .directory)) :
    d.makeDirectories current path = (d, none) := by
  rw [makeDirectories, makeAll]
  dsimp only
  rcases makeDirectory_of_locate h with hmade | hmade
  · rw [hmade, h]
    rfl
  · rw [hmade, h]
    rfl

theorem write_of_canHold (h : d.CanHold current path) (content : ByteArray) :
    ∃ d', d.write current path content = .ok d' := by
  obtain ⟨place, htarget, hplace⟩ := h.free
  unfold write
  rw [htarget]
  simp only [bind, Except.bind]
  exact ⟨_, rfl⟩

end CopperRoute.Disk
