import CopperRoute.Command
import CopperRoute.Proofs.Disk

/-!
# How commands end

A command that needs settings ends in one of three ways: with the fault of the settings, with the
fault of its work, or as what it does next. Only the last can end with the code zero, and only there
does a command touch its streams or the file tree, which for a text that goes to a file is what
`deliver_cases` tells.
-/

namespace CopperRoute.Command

def Ending.code? : Ending → Option Nat
  | finished code => some code
  | stopped _ | idle | broken _ => none

theorem Ending.eq_finished {e : Ending} {code : Nat} (h : e.code? = some code) :
    e = finished code := by
  cases e with
  | finished other => rw [Option.some.inj h]
  | _ => cases h

namespace Outcome

theorem ending_failed_ne_zero (o : Outcome) (fault : Fault) :
    (o.failed fault).ending ≠ .finished 0 := by
  unfold failed
  split
  · split <;> exact fun h => by cases h
  · exact fun h => by cases h

@[simp] theorem disk_failed (o : Outcome) (fault : Fault) : (o.failed fault).disk = o.disk := by
  unfold failed
  split
  · split <;> rfl
  · rfl

@[simp] theorem output_failed (o : Outcome) (fault : Fault) :
    (o.failed fault).output = o.output := by
  unfold failed
  split
  · split <;> rfl
  · rfl

theorem failed_of_breakdown (o : Outcome) (b : Breakdown) :
    o.failed (.breakdown b) = { o with ending := .broken (.breakdown b) } := rfl

/-- A fault that is told makes a last line, and leaves the output alone. -/
theorem failed_of_isTold (o : Outcome) {fault : Fault} (h : fault.IsTold) :
    ∃ message, o.failed fault =
      { o with ending := .finished 1, errors := o.errors ++ "Error: " ++ message ++ "\n" } := by
  obtain ⟨hreport, htell⟩ := h
  obtain ⟨report, hreport⟩ := Option.ne_none_iff_exists'.1 hreport
  refine ⟨report.fullText, ?_⟩
  simp only [failed, hreport, htell, complain, if_true, String.append_assoc]
  rfl

end Outcome

/-! ## Work that needs settings -/

variable {α : Type} {h : Host} {next : Outcome → Board → α → Outcome}

theorem withSettings_of_fault {work : Settings → Session α} {fault : Fault}
    (hfault : (Settings.load h.site h.site.current).fault = some fault) :
    ∃ o : Outcome, withSettings h work next = o.failed fault := by
  unfold withSettings
  dsimp only
  rw [hfault]
  exact ⟨_, rfl⟩

theorem withSettings_of_error (work : Settings → Session α) {fault : Fault} {board : Board}
    (hfault : (Settings.load h.site h.site.current).fault = none)
    (hwork : (work (Settings.load h.site h.site.current).merged.settings).on newBoard =
      (.error fault, board)) :
    ∃ o : Outcome, o.output = .text "" ∧ withSettings h work next = o.failed fault := by
  unfold withSettings
  dsimp only
  rw [hfault, hwork]
  exact ⟨_, rfl, rfl⟩

theorem withSettings_of_ok (work : Settings → Session α) {a : α} {board : Board}
    (hfault : (Settings.load h.site h.site.current).fault = none)
    (hwork : (work (Settings.load h.site h.site.current).merged.settings).on newBoard =
      (.ok a, board)) :
    ∃ o : Outcome, o.ending = .finished 0 ∧ withSettings h work next = next o board a := by
  unfold withSettings
  dsimp only
  rw [hfault, hwork]
  exact ⟨_, rfl, rfl⟩

/-- Work that needs settings has written nothing and left the file tree alone when it is done. What
comes next is told of it alone, and nothing comes next if it has failed. -/
theorem withSettings_cases (h : Host) (work : Settings → Session α) :
    ∃ o : Outcome, o.ending = .finished 0 ∧ o.output = .text "" ∧ o.disk = h.site.disk ∧
      ((∃ fault, ∀ next, withSettings h work next = o.failed fault) ∨
        ∃ board a, ∀ next, withSettings h work next = next o board a) := by
  unfold withSettings
  dsimp only
  cases (Settings.load h.site h.site.current).fault with
  | some fault => exact ⟨_, rfl, rfl, rfl, .inl ⟨fault, fun _ => rfl⟩⟩
  | none =>
    rcases (work (Settings.load h.site h.site.current).merged.settings).on newBoard with
      ⟨fault | a, board⟩
    · exact ⟨_, rfl, rfl, rfl, .inl ⟨fault, fun _ => rfl⟩⟩
    · exact ⟨_, rfl, rfl, rfl, .inr ⟨board, a, fun _ => rfl⟩⟩

/-! ## Texts that go to a file -/

/-- A text that is delivered is found in its file, and apart from the file only directories are new,
unless something breaks down. -/
theorem deliver_cases (o : Outcome) (current : Place) (path : Path) (text : String)
    (footprints : Nat) :
    let delivered := deliver o current path text footprints
    (∃ b, delivered.ending = .broken (.breakdown b)) ∨
      delivered.ending = o.ending ∧ delivered.output = o.output ∧
        ∃ place, delivered.disk.locate current path = .ok (place, .file text.toUTF8) ∧
          ∀ other, other ≠ place → delivered.disk.find? other = o.disk.find? other ∨
            o.disk.find? other = none ∧ delivered.disk.find? other = some .directory := by
  intro delivered
  have hgains := Disk.gains_makeDirectories o.disk current path.parent
  unfold delivered deliver
  split
  · exact .inl ⟨_, rfl⟩
  · next disk hmade =>
    rw [hmade] at hgains
    split
    · exact .inl ⟨_, rfl⟩
    · next after hwrite =>
      obtain ⟨place, hplace, hothers⟩ := Disk.locate_of_write hwrite
      refine .inr ⟨rfl, rfl, place, hplace, fun other hother => ?_⟩
      show after.find? other = _ ∨ _ ∧ after.find? other = _
      rw [hothers other hother]
      exact hgains other

/-- Where the file tree can hold the file as it is, the text is delivered. -/
theorem ending_deliver_of_canHold {o : Outcome} {current : Place} {path : Path}
    (h : o.disk.CanHold current path) (text : String) (footprints : Nat) :
    (deliver o current path text footprints).ending = o.ending := by
  obtain ⟨dir, hdir⟩ := h.parent
  obtain ⟨after, hwrite⟩ := Disk.write_of_canHold h text.toUTF8
  unfold deliver
  rw [Disk.makeDirectories_of_locate hdir]
  dsimp only
  rw [hwrite]
  rfl

end CopperRoute.Command
