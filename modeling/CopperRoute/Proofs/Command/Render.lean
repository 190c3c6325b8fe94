import CopperRoute.Command
import CopperRoute.Proofs.Command.Outcome
import Mathlib

/-!
# Rendering to a file

A command that renders a placement file first comes to the whole text, and only then touches its
streams or the file tree:

    settings ─▶ placement ─▶ text ──┬─▶ output
                                    └─▶ directories ─▶ file

What can fail with a report stands to the left of the text. Main statement
(`render_to_file_all_or_nothing`): a rendering that is to go to a file ends with the code one only
where the same rendering without the file does, and then it has left nothing behind. If it ends with
the code zero, the file holds the text that would have been written, and nothing else has changed.
-/

namespace CopperRoute.Command

/-- Rendering comes to a fault or to a text before it touches anything, whether the text is to go to a
file or not. -/
theorem runRender_cases (h : Host) (file : String) (globalNets : Bool) (overrides : Overrides) :
    ∃ o : Outcome, o.ending = .finished 0 ∧ o.output = .text "" ∧ o.disk = h.site.disk ∧
      ((∃ fault, ∀ output, runRender h file output globalNets overrides = o.failed fault) ∨
        ∃ footprints text,
          runRender h file none globalNets overrides = { o with output := .text text } ∧
          ∀ out, out ≠ "" → runRender h file (some out) globalNets overrides =
            deliver o h.site.current (Path.ofText out) text footprints) := by
  let work (settings : Settings) : Session (Nat × String) := do
    let p ← Placement.ofFile h.site.disk h.site.current (Path.ofText file) (overrides.apply settings)
    let text ← p.render globalNets
    pure (p.instances.length, text)
  obtain ⟨o, hend, houtput, hdisk, hwork⟩ := withSettings_cases h work
  refine ⟨o, hend, houtput, hdisk, ?_⟩
  rcases hwork with ⟨fault, hfailed⟩ | ⟨board, ⟨footprints, text⟩, hdone⟩
  · refine .inl ⟨fault, fun output => ?_⟩
    unfold runRender
    exact hfailed _
  · refine .inr ⟨footprints, text, ?_, fun out hout => ?_⟩
    · unfold runRender
      exact hdone _
    · unfold runRender
      refine (hdone _).trans ?_
      dsimp only
      split
      · next habsent => cases habsent
      · next hempty => exact absurd (Option.some.inj hempty) hout
      · next path _ hsome => rw [Option.some.inj hsome]

/-- A rendering that is to go to the file `out`, beside the same rendering without a file. If it ends
with the code one, it has left the file tree as it was and written nothing. If it ends with the code
zero, so does the other, `out` holds the text that the other writes, and nothing has been written;
in all other places the tree is as it was, but for directories where nothing stood. The file does
not add to what can fail: where the other does not end with the code zero, nor does this one, and
with all that it leaves behind it is the same; and where the other does, so does this one if the
tree can hold the file. -/
theorem render_to_file_all_or_nothing {site : Settings.Site} {args bare : List String}
    {verbose globalNets : Bool} {file out : String} {overrides : Overrides}
    (hargs : Invocation.ofArguments args =
      .ok ⟨verbose, some (.render file (some out) globalNets overrides)⟩)
    (hbare : Invocation.ofArguments bare =
      .ok ⟨verbose, some (.render file none globalNets overrides)⟩)
    (hout : out ≠ "") :
    let outcome := run args site
    let plain := run bare site
    (outcome.ending = .finished 1 → outcome.disk = site.disk ∧ outcome.output = .text "") ∧
      (outcome.ending = .finished 0 → plain.ending = .finished 0 ∧ outcome.output = .text "" ∧
        ∃ text place, plain.output = .text text ∧
          outcome.disk.locate site.current (Path.ofText out) = .ok (place, .file text.toUTF8) ∧
          ∀ other, other ≠ place → outcome.disk.find? other = site.disk.find? other ∨
            site.disk.find? other = none ∧ outcome.disk.find? other = some .directory) ∧
      (plain.ending ≠ .finished 0 → outcome = plain) ∧
      (plain.ending = .finished 0 → site.disk.CanHold site.current (Path.ofText out) →
        outcome.ending = .finished 0) := by
  intro outcome plain
  have houtcome : outcome =
      runRender ⟨site, verbosityOf verbose⟩ file (some out) globalNets overrides := by
    simp only [outcome, run, hargs, Invocation.run]
  have hplain : plain = runRender ⟨site, verbosityOf verbose⟩ file none globalNets overrides := by
    simp only [plain, run, hbare, Invocation.run]
  obtain ⟨o, hend, houtput, hdisk, ⟨fault, hfailed⟩ | ⟨footprints, text, hwritten, hdelivered⟩⟩ :=
    runRender_cases ⟨site, verbosityOf verbose⟩ file globalNets overrides
  · rw [hfailed] at houtcome hplain
    have hnever : plain.ending ≠ .finished 0 := hplain ▸ o.ending_failed_ne_zero fault
    have hsame : outcome = plain := houtcome.trans hplain.symm
    refine ⟨fun _ => ?_, fun h => ?_, fun _ => hsame, fun h => absurd h hnever⟩
    · rw [houtcome, Outcome.disk_failed, Outcome.output_failed]
      exact ⟨hdisk, houtput⟩
    · exact absurd (hsame ▸ h) hnever
  · rw [hwritten] at hplain
    rw [hdelivered out hout] at houtcome
    have hzero : plain.ending = .finished 0 := by rw [hplain, hend]
    have hcases := deliver_cases o site.current (Path.ofText out) text footprints
    rw [← houtcome, hdisk, houtput, hend] at hcases
    refine ⟨fun h => ?_, fun h => ?_, fun h => absurd hzero h, fun _ hhold => ?_⟩
    · rcases hcases with ⟨b, hbroken⟩ | ⟨hcode, -⟩
      · rw [hbroken] at h
        cases h
      · rw [hcode] at h
        cases h
    · rcases hcases with ⟨b, hbroken⟩ | ⟨-, hnothing, place, hplace, hothers⟩
      · rw [hbroken] at h
        cases h
      · exact ⟨hzero, hnothing, text, place, by rw [hplain], hplace, hothers⟩
    · rw [houtcome, ending_deliver_of_canHold (hdisk ▸ hhold), hend]

/-- Two footprints, rendered to a file in a directory that is there, and the same two with a third
behind them that fails, rendered over a file that is there: of the first two nothing is left. -/
theorem render_to_file_all_or_nothing_twice :
    let site (two third : String) : Settings.Site :=
      ⟨⟨[(["b"], .file two.toUTF8), (["c"], .file (two ++ third).toUTF8), (["d"], .directory)]⟩,
        [], ["home"]⟩
    let site := site
      ("'footprints':\n" ++
        "  'left':\n    'params':\n      'route': 'f(0,0)(1.5,0)'\n      'format': 'legacy'\n" ++
        "  'right':\n    'params':\n      'route': '<A>(0,2)v'\n      'format': 'legacy'\n")
      "  'third':\n    'params':\n      'route': 'f(0,0)(1,0)xq'\n"
    let args := ["render", "b", "-o", "d/a"]
    let failing := ["render", "c", "-o", "b"]
    let text := "(segment (start 0 0) (end 1.5 0) (width 0.25) (layer F.Cu) (net 0))\n" ++
      "(via (at 0 2) (size 0.6) (drill 0.3) (layers \"F.Cu\" \"B.Cu\") (net 1))\n"
    ((run args site).ending = .finished 0 ∧ (run ["render", "b"] site).output = .text text ∧
      ∃ place, (run args site).disk.locate [] (Path.ofText "d/a") =
        .ok (place, .file text.toUTF8)) ∧
      (run failing site).ending = .finished 1 ∧ (run failing site).output = .text "" ∧
        (run failing site).disk = site.disk := by
  intro site' site args failing text
  have hpath : Path.ofText "b" = ⟨"", ["b"]⟩ := by cbv
  have hother : Path.ofText "c" = ⟨"", ["c"]⟩ := by cbv
  have hout : Path.ofText "d/a" = ⟨"", ["d", "a"]⟩ := by cbv
  constructor
  · obtain ⟨-, hzero, -, hholds⟩ := @render_to_file_all_or_nothing site args ["render", "b"] false
      true "b" "d/a" {} rfl rfl (by decide)
    have hplain : (run ["render", "b"] site).ending.code? = some 0 ∧
        (run ["render", "b"] site).output.toText = text := by
      show (runRender ⟨site, {}⟩ "b" none true {}).ending.code? = _ ∧
        (runRender ⟨site, {}⟩ "b" none true {}).output.toText = _
      rw [runRender, hpath]
      decide +kernel
    have hhold : site.disk.CanHold site.current (Path.ofText "d/a") := by
      rw [hout]
      exact ⟨⟨["d"], rfl⟩, ["d", "a"], rfl, fun h => by cases h⟩
    have hend := hholds (Ending.eq_finished hplain.1) hhold
    obtain ⟨-, -, written, place, hwritten, hplace, -⟩ := hzero hend
    obtain rfl : written = text := by
      rw [← hplain.2, hwritten, Output.toText]
    exact ⟨hend, hwritten, place, hplace⟩
  · obtain ⟨hnothing, -, hsame, -⟩ := @render_to_file_all_or_nothing site failing
      ["render", "c"] false true "c" "b" {} rfl rfl (by decide)
    have hplain : (run ["render", "c"] site).ending = .finished 1 := by
      apply Ending.eq_finished
      show (runRender ⟨site, {}⟩ "c" none true {}).ending.code? = _
      rw [runRender, hother]
      decide +kernel
    have hfails : (run ["render", "c"] site).ending ≠ .finished 0 := by
      rw [hplain]
      exact fun h => by cases h
    have hend : (run failing site).ending = .finished 1 := by
      rw [hsame hfails, hplain]
    exact ⟨hend, (hnothing hend).2, (hnothing hend).1⟩

end CopperRoute.Command
