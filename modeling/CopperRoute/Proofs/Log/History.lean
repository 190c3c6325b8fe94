import CopperRoute.Log.Verbosity
import CopperRoute.Placement
import Mathlib.Data.List.Induction

/-!
# What is shown over time

Showing events is switched on and off, and work goes on in between:

    enable "debug" ─ work ─ enable "info" ─ work ─ enable "loud" ─ work ─ disable ─ work

What the handlers are at any time depends on one of the acts before it alone: the last that switched
to an existing level or off (`governing`). So there is never more than one display, and each line is
in the format of that act. Main statement: `written_by_governing`.
-/

namespace CopperRoute.Log

/-- Something that goes on while events may be shown. -/
inductive Act where
  /-- show events of a level from now on -/
  | enable (level : String) (format : Option String)
  /-- show none from now on -/
  | disable
  /-- work on a board with these nets, each event of which is logged in circumstances of its own -/
  | work (work : Session Unit) (nets : NetTable) (around : Nat → Circumstances)

namespace Act

/-- The verbosity after an act. Work leaves it alone. -/
def set (v : Verbosity) : Act → Verbosity
  | enable level format => (v.enable level format).1
  | disable => v.disable
  | work .. => v

/-- What an act logs, in order. Work that fails has logged what happened before. -/
def logged : Act → List Occurrence
  | work w nets around => (w.on ⟨nets, []⟩).2.log.mapIdx fun i event => ⟨event, around i⟩
  | enable .. | disable => []

/-- An act does not ask for a format that cannot be followed. -/
def isFit : Act → Bool
  | enable _ format => isFitFormat (chosen format)
  | disable | work .. => true

/-- The display that an act switches to, or none if it switches off. Neither does work, nor a level
that does not exist. -/
def switch? : Act → Option (Option Display)
  | enable level format =>
    match weightOf level with
    | .ok weight => some (some ⟨weight, chosen format⟩)
    | .error _ => none
  | disable => some none
  | work .. => none

end Act

variable {acts : List Act} {a : Act}

def afterAll (v : Verbosity) (acts : List Act) : Verbosity := acts.foldl Act.set v

def written : Verbosity → List Act → String
  | _, [] => ""
  | v, a :: acts => v.writeAll a.logged ++ written (a.set v) acts

/-- The display that the last switch was to. -/
def governing (acts : List Act) : Option Display := (acts.reverse.findSome? Act.switch?).join

/-! ## The state -/

/-- The verbosity with the given display, and with nothing else. -/
def showing : Option Display → Verbosity
  | none => ⟨Level.warning.weight, [.silent]⟩
  | some d => ⟨d.threshold, [.silent, .display d]⟩

theorem silentOnes_showing (d : Option Display) : (showing d).silentOnes = [.silent] := by
  cases d <;> rfl

theorem enable_showing (d : Option Display) {level : String} {weight : Nat} {format : Option String}
    (hlevel : weightOf level = .ok weight) (hformat : isFitFormat (chosen format) = true) :
    (showing d).enable level format = (showing (some ⟨weight, chosen format⟩), none) := by
  have hfield : hasField (chosen format) = true := by
    rw [isFitFormat, Bool.and_eq_true] at hformat
    exact hformat.1
  rw [Verbosity.enable_of_known _ hlevel hfield, silentOnes_showing]
  rfl

theorem disable_showing (d : Option Display) : (showing d).disable = showing none := by
  rw [Verbosity.disable, silentOnes_showing]
  rfl

/-- One act: the display is the one that it switches to, or stays. -/
theorem set_showing (d : Option Display) (h : a.isFit) :
    a.set (showing d) = showing (a.switch?.getD d) := by
  cases a with
  | enable level format =>
    rw [Act.set, Act.switch?]
    cases hlevel : weightOf level with
    | ok weight => rw [enable_showing d hlevel h]; rfl
    | error b => rw [Verbosity.enable_of_unknown _ hlevel]; rfl
  | disable => exact disable_showing d
  | work => rfl

theorem afterAll_concat (v : Verbosity) (acts : List Act) (a : Act) :
    afterAll v (acts ++ [a]) = a.set (afterAll v acts) :=
  List.foldl_append

theorem governing_concat (acts : List Act) (a : Act) :
    governing (acts ++ [a]) = a.switch?.getD (governing acts) := by
  rw [governing, List.reverse_append, List.reverse_singleton, List.singleton_append,
    List.findSome?_cons]
  cases h : a.switch? with
  | none => rfl
  | some d => rfl

/-- All acts: the display is the one that the last switch was to. -/
theorem afterAll_eq_showing (h : ∀ a ∈ acts, a.isFit) :
    afterAll {} acts = showing (governing acts) := by
  induction acts using List.reverseRecOn with
  | nil => rfl
  | append_singleton acts a ih =>
    rw [afterAll_concat, ih fun b hb => h b (List.mem_append_left _ hb), set_showing _ (h a (by simp)),
      governing_concat]

/-! ## The text -/

/-- The threshold that counts for a display: that of the surroundings where it has none. -/
def Display.effective (d : Display) : Nat :=
  if d.threshold = 0 then Verbosity.surroundings else d.threshold

/-- The lines of what was logged: one for all that weighs enough, in order, or none at all without a
display. -/
def linesOf : Option Display → List Occurrence → List String
  | none, _ => []
  | some d, os => (os.filter fun o => d.effective ≤ o.weight).map (line d.format)

theorem linesOf_cons (d : Option Display) (o : Occurrence) (os : List Occurrence) :
    linesOf d (o :: os) = linesOf d [o] ++ linesOf d os := by
  cases d with
  | none => rfl
  | some d =>
    by_cases h : d.effective ≤ o.weight <;> simp [linesOf, h]

theorem write_showing (d : Option Display) (o : Occurrence) :
    (showing d).write o = String.join (linesOf d [o]) := by
  cases d with
  | none => simp [showing, Verbosity.write, Handler.write, linesOf]
  | some d =>
    have heffective : (showing (some d)).effective = d.effective := rfl
    rw [Verbosity.write, heffective]
    by_cases h : d.effective ≤ o.weight
    · -- what counts is never below the threshold of the display itself
      have hown : d.threshold ≤ o.weight := by
        unfold Display.effective at h
        split at h <;> omega
      simp [showing, Handler.write, linesOf, h, hown]
    · simp [linesOf, h]

theorem writeAll_showing (d : Option Display) (os : List Occurrence) :
    (showing d).writeAll os = String.join (linesOf d os) := by
  induction os with
  | nil => cases d <;> rfl
  | cons o os ih =>
    rw [linesOf_cons, String.join_append, ← write_showing, ← ih]
    exact String.join_cons

theorem written_concat (v : Verbosity) (acts : List Act) (a : Act) :
    written v (acts ++ [a]) = written v acts ++ (afterAll v acts).writeAll a.logged := by
  induction acts generalizing v with
  | nil => simp [written, afterAll]
  | cons b acts ih =>
    rw [List.cons_append, written, written, ih, String.append_assoc]
    rfl

/-- What is written while acts go on: for each of them the lines of what it logs, as the last switch
before it has them. -/
theorem written_eq (h : ∀ a ∈ acts, a.isFit) :
    written {} acts =
      String.join (acts.mapIdx fun i a => linesOf (governing (acts.take i)) a.logged).flatten := by
  induction acts using List.reverseRecOn with
  | nil => rfl
  | append_singleton acts a ih =>
    have hfront : ∀ b ∈ acts, b.isFit := fun b hb => h b (List.mem_append_left _ hb)
    have hsame : (acts.mapIdx fun i b => linesOf (governing ((acts ++ [a]).take i)) b.logged) =
        acts.mapIdx fun i b => linesOf (governing (acts.take i)) b.logged := by
      rw [List.mapIdx_eq_mapIdx_iff]
      intro i hi
      rw [List.take_append_of_le_length (Nat.le_of_lt hi)]
    rw [written_concat, ih hfront, afterAll_eq_showing hfront, writeAll_showing, List.mapIdx_concat,
      hsame, List.take_left, List.flatten_append, List.flatten_singleton, String.join_append]

/-! ## Main statement -/

/-- Acts of all sorts, from a log that shows nothing, with no format that cannot be followed. At the
end the log has the handler that shows nothing, and at most one display: none if the last switch was
off or there was none, and otherwise one with the level and the format that were asked for, the level
being that of the log too. From there, a level that exists switches to the display that is asked for
and to no other, a level that does not exist is a failure that changes nothing, and switching off takes
the display away. What has been written is one line for each event that was logged while there was a
display and that weighs enough for it, in order and in the format of that display. -/
theorem written_by_governing (h : ∀ a ∈ acts, a.isFit) :
    let v := afterAll {} acts
    (match governing acts with
      | none => v.threshold = Level.warning.weight ∧ v.handlers = [.silent]
      | some d => v.threshold = d.threshold ∧ v.handlers = [.silent, .display d]) ∧
      (∀ level format weight, weightOf level = .ok weight → isFitFormat (chosen format) = true →
        v.enable level format = (⟨weight, [.silent, .display ⟨weight, chosen format⟩]⟩, none)) ∧
      (∀ level format b, weightOf level = .error b → v.enable level format = (v, some b)) ∧
      v.disable = ⟨Level.warning.weight, [.silent]⟩ ∧
      written {} acts =
        String.join (acts.mapIdx fun i a => linesOf (governing (acts.take i)) a.logged).flatten := by
  intro v
  have hv : v = showing (governing acts) := afterAll_eq_showing h
  refine ⟨?_, ?_, fun _ _ _ => Verbosity.enable_of_unknown v, ?_, written_eq h⟩
  · rw [hv]
    cases governing acts <;> exact ⟨rfl, rfl⟩
  · intro level format weight hlevel hformat
    rw [hv]
    exact enable_showing _ hlevel hformat
  · rw [hv]
    exact disable_showing _

/-- Switched on twice, with a level between that does not exist, and off again, with the same work
each time. -/
theorem written_by_governing_switched_twice :
    let load := Act.work (discard (Placement.ofValue .null {} "")) (.empty true)
      fun _ => { function := "load" }
    let acts := [load, .enable "debug" none, load, .enable "loud" none, load,
      .enable "Info" (some "%(funcName)-6s%(message)s"), load, .disable, load]
    (∀ a ∈ acts, a.isFit) ∧ (afterAll {} acts).handlers = [.silent] ∧
      written {} acts =
        "[INFO] ergogen_router.loader: Loaded 0 router footprint(s), 0 net(s)\n" ++
        "[INFO] ergogen_router.loader: Loaded 0 router footprint(s), 0 net(s)\n" ++
        "load  Loaded 0 router footprint(s), 0 net(s)\n" := by
  intro load acts
  have hfit : ∀ a ∈ acts, a.isFit := by decide +kernel
  obtain ⟨hstate, -, -, -, hwritten⟩ := written_by_governing hfit
  have hgoverning : governing acts = none := by decide +kernel
  rw [hgoverning] at hstate
  refine ⟨hfit, hstate.2, hwritten.trans ?_⟩
  decide +kernel

end CopperRoute.Log
