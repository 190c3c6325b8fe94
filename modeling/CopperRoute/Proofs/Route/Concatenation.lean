import CopperRoute.Proofs.Route.Variant

/-!
# Routes one behind the other

A group that is closed ends at its first closing character, so no item that starts in an accepted
route reaches into what is appended to it:

    first         rest
    ├── tokens ──┤├── tokens, each moved by the length of first ──┤

Scanning from another position moves the tokens and the stop and changes nothing else
(`scanFrom_add`). A run of both routes therefore begins with a run of the first one.
-/

namespace CopperRoute.Route

open Session

/-! ## Moving -/

/-- The token in a text that has `n` characters more before it. -/
def Token.moved (n : Nat) (t : Token) : Token := { t with position := t.position + n }

def Scan.moved (n : Nat) (s : Scan) : Scan :=
  ⟨s.tokens.map (Token.moved n), s.stop.map fun stop => (stop.1 + n, stop.2)⟩

theorem Spells.moved {p : Nat} {cs : List Char} {tokens : List Token} (h : Spells p cs tokens)
    (n : Nat) : Spells (p + n) cs (tokens.map (Token.moved n)) := by
  induction h with
  | nil => exact .nil
  | blank hc _ ih =>
    apply Spells.blank hc
    rwa [Nat.add_right_comm] at ih
  | item ht _ ih =>
    rw [List.map_cons]
    apply Spells.item ht
    rwa [Nat.add_right_comm] at ih

theorem scanFrom_add (p n : Nat) (cs : List Char) :
    scanFrom (p + n) cs = (scanFrom p cs).moved n := by
  obtain ⟨before, after, rfl, hspell, hend⟩ := exists_spelled p cs
  have hmoved := scanFrom_append (hspell.moved n) after
  generalize scanFrom p (before ++ after) = here at hspell hend hmoved ⊢
  obtain ⟨tokens, stop⟩ := here
  rcases hend with ⟨rfl, hnone⟩ | ⟨c, rest, cause, rfl, hblank, hitem, -, hsome⟩
  · obtain rfl : stop = none := hnone
    simpa [Scan.moved] using hmoved
  · obtain rfl : stop = some (p + before.length, cause) := hsome
    rw [scanFrom_error hblank hitem] at hmoved
    simpa [Scan.moved, Nat.add_right_comm] using hmoved

theorem scan_append {first : String} (h : (scan first).stop = none) (rest : String) :
    scan (first ++ rest) =
      ⟨(scan first).tokens ++ ((scan rest).moved first.length).tokens,
        ((scan rest).moved first.length).stop⟩ := by
  have hspell : Spells 0 first.toList (scan first).tokens := by
    apply scan_eq_iff.1
    rw [← h]
  have hread := scanFrom_append hspell rest.toList
  rw [scanFrom_add, String.length_toList] at hread
  rw [scan, String.toList_append, hread]
  rfl

/-! ## Drawing -/

variable {s : Setup} {route : String} {pen : Pen} {board after : Board} {records : List Record}

/-- What is drawn comes first from the tokens that stand first. -/
theorem Setup.draw_append_eq_ok {earlier later : List Token}
    (h : (s.draw route pen (earlier ++ later)).on board = (.ok records, after)) :
    ∃ drawn between, (s.draw route pen earlier).on board = (.ok drawn, between) ∧
      drawn <+: records := by
  induction earlier generalizing pen board records with
  | nil => exact ⟨[], board, rfl, List.nil_prefix⟩
  | cons token earlier ih =>
    rw [List.cons_append, draw] at h
    obtain ⟨⟨pen', record⟩, board', hstep, h⟩ := on_bind_eq_ok h
    obtain ⟨rest, after', hrest, h⟩ := on_bind_eq_ok h
    obtain ⟨rfl, rfl⟩ := on_pure_eq_ok h
    obtain ⟨drawn, between, hdraw, hprefix⟩ := ih hrest
    refine ⟨record.toList ++ drawn, between, ?_, (List.prefix_append_right_inj _).2 hprefix⟩
    rw [draw, on_bind_of_ok hstep]
    exact on_bind_of_ok hdraw

/-- Tokens draw the same in every route that they stand in. -/
theorem Setup.draw_eq_ok_of_route {tokens : List Token}
    (h : (s.draw route pen tokens).on board = (.ok records, after)) (route' : String) :
    ∃ after', (s.draw route' pen tokens).on board = (.ok records, after') := by
  have hsame : tokens.map Token.command = tokens.map Token.command := rfl
  rcases s.draw_inStep route route' pen hsame (rfl : board.nets = board.nets) with
    ⟨records', between, after', hdraw, hdraw', -⟩ | ⟨_, _, _, _, _, _, _, -, -, hfails, -⟩
  · obtain ⟨hrecords, -⟩ := Prod.mk.inj (h.symm.trans hdraw)
    rw [Except.ok.inj hrecords]
    exact ⟨after', hdraw'⟩
  · rw [hfails.draw_eq] at h
    cases h

/-! ## Main statement -/

/-- What is appended to an accepted route is scanned as on its own, only further on: its tokens come
behind those of the route, and it stops the scan exactly if it stops its own, with the same cause,
which is all that the kind of the fault and its character are read from. If both routes together
run through, so does the first, and its records are the first of all. -/
theorem scan_and_run_append {first : String} (h : (scan first).stop = none) (rest : String) :
    (scan (first ++ rest)).tokens =
        (scan first).tokens ++ (scan rest).tokens.map (Token.moved first.length) ∧
    (scan (first ++ rest)).stop =
        (scan rest).stop.map (fun stop => (stop.1 + first.length, stop.2)) ∧
    ∀ (s : Setup) (net : Net) (board after : Board) (records : List Record),
      (s.run (first ++ rest) net).on board = (.ok records, after) →
      ∃ drawn between, (s.run first net).on board = (.ok drawn, between) ∧ drawn <+: records := by
  have hscan := scan_append h rest
  refine ⟨by rw [hscan]; rfl, by rw [hscan]; rfl, fun s net board after records hrun => ?_⟩
  unfold Setup.run at hrun
  obtain ⟨all, final, hdraw, hend⟩ := on_bind_eq_ok hrun
  rw [hscan] at hdraw hend
  have hall : all = records := by
    dsimp only at hend
    split at hend
    · cases hend
    · rw [on_bind_of_ok (on_log ..)] at hend
      exact (on_pure_eq_ok hend).1
  obtain ⟨drawn, between, hfirst, hprefix⟩ := Setup.draw_append_eq_ok hdraw
  obtain ⟨between', hfirst'⟩ := Setup.draw_eq_ok_of_route hfirst first
  obtain ⟨left, hrun', -⟩ := Setup.run_of_draw_ok h hfirst'
  exact ⟨drawn, left, hrun', hall ▸ hprefix⟩

/-- Behind one trace come a via and a name: the name is not closed and stops the scan in the one
text, and in the other it stands for a net of the via. -/
theorem scan_and_run_append_via :
    let first := "f(0,0)(1,1)"
    let s : Setup := ⟨{ x := 10, y := 20 }, 0.25, 0.6, 0.3, true⟩
    (scan first).stop = none ∧
      (scan (first ++ " v<A")).stop = some (13, .openNet) ∧
      ∃ records drawn, ((s.run (first ++ "<A>v") Net.none).on ⟨.empty true, []⟩).1 = .ok records ∧
        ((s.run first Net.none).on ⟨.empty true, []⟩).1 = .ok drawn ∧ drawn <+: records ∧
        records.length = 2 := by
  intro first s
  have hfirst : (scan first).stop = none := by decide +kernel
  obtain ⟨-, hstop, -⟩ := scan_and_run_append hfirst " v<A"
  obtain ⟨-, -, hruns⟩ := scan_and_run_append hfirst "<A>v"
  have hlength : ((s.run (first ++ "<A>v") Net.none).on ⟨.empty true, []⟩).1.toOption.map
      List.length = some 2 := by decide +kernel
  refine ⟨hfirst, ?_, ?_⟩
  · rw [hstop]
    decide +kernel
  · rcases hrun : (s.run (first ++ "<A>v") Net.none).on ⟨.empty true, []⟩ with
      ⟨fault | records, after⟩
    · rw [hrun] at hlength
      cases hlength
    · obtain ⟨drawn, between, hdrawn, hprefix⟩ := hruns s _ _ _ _ hrun
      rw [hrun] at hlength
      exact ⟨records, drawn, rfl, by rw [hdrawn], hprefix, Option.some.inj hlength⟩

end CopperRoute.Route
