import CopperRoute.Footprint
import CopperRoute.Proofs.Session

/-!
# More nets never change a text

A footprint can be rendered without nets to ask, with a table that only answers the names that it
lists, or with one that takes names in. Each of them answers whatever the one before it answers, in
the same way:

    no nets  ──▶  a closed table  ──▶  a table that lists more, closed or open

So a text that came of less comes of more, and no name is entered for it. `Carries` says this of any
two works that go side by side, and is followed from one token up to the text of a footprint.

Main statement: `render_of_more_nets`.
-/

namespace CopperRoute

open Session

/-! ## Tables that list more -/

namespace NetTable

/-- What a table answers, every table answers whose listing goes on behind that of the first. -/
theorem find?_of_prefix {t u : NetTable} (h : t.nets <+: u.nets) {name : String} {net : Net}
    (hfind : t.find? name = some net) : u.find? name = some net := by
  obtain ⟨added, hadded⟩ := h
  rw [find?, ← hadded, List.find?_append, show t.nets.find? _ = _ from hfind]
  rfl

/-- A closed table only answers the names that it lists. -/
theorem find?_of_resolve_eq_ok {t u : NetTable} {name : String} {net : Net}
    (hclosed : t.allocate = false) (h : t.resolve name = .ok (u, net)) :
    t.find? name = some net ∧ u = t := by
  cases hfind : t.find? name with
  | some known =>
    rw [resolve_of_find? hfind] at h
    obtain ⟨rfl, rfl⟩ := Prod.mk.inj (Except.ok.inj h)
    exact ⟨rfl, rfl⟩
  | none =>
    rw [resolve_eq_error hclosed hfind] at h
    cases h

end NetTable

/-! ## Work side by side -/

namespace Session

variable {α β : Type} {t u : NetTable} {work work' : Session α} {next next' : α → Session β}

/-- Where `work` succeeds on nets `t`, it leaves them as they are, and `work'` comes to the same on
nets `u` and leaves those as they are. -/
def Carries (t u : NetTable) (work work' : Session α) : Prop :=
  ∀ board after a, board.nets = t → work.on board = (.ok a, after) →
    after.nets = t ∧ Settles u work' a

theorem carries_pure (t u : NetTable) (a : α) : Carries t u (pure a) (pure a) := by
  intro board after b hboard h
  obtain ⟨rfl, rfl⟩ := on_pure_eq_ok h
  exact ⟨hboard, settles_pure u a⟩

/-- Work that fails carries nothing over. -/
theorem carries_throw (t u : NetTable) (fault : Fault) (work' : Session α) :
    Carries t u (throw fault) work' := by
  intro board after a _ h
  cases h

theorem carries_log (t u : NetTable) (event : Log.Event) :
    Carries t u (log event) (log event) := by
  intro board after a hboard h
  obtain ⟨-, rfl⟩ := Prod.mk.inj h
  exact ⟨hboard, fun board' hboard' => ⟨_, rfl, hboard'⟩⟩

theorem carries_orBreak (t u : NetTable) (x : Except Breakdown α) :
    Carries t u (orBreak x) (orBreak x) := by
  cases x with
  | ok a => exact carries_pure t u a
  | error b => exact carries_throw t u _ _

theorem Carries.bind (h : Carries t u work work') (hnext : ∀ a, Carries t u (next a) (next' a)) :
    Carries t u (work >>= next) (work' >>= next') := by
  intro board after b hboard hrun
  obtain ⟨a, between, hwork, hrest⟩ := on_bind_eq_ok hrun
  obtain ⟨hbetween, hsettles⟩ := h board between a hboard hwork
  obtain ⟨hafter, hsettles'⟩ := hnext a between after b hbetween hrest
  exact ⟨hafter, hsettles.bind hsettles'⟩

/-- A closed table carries its answers over to every table that lists more. -/
theorem carries_resolve (hclosed : t.allocate = false) (hmore : t.nets <+: u.nets)
    (name : String) : Carries t u (resolve name) (resolve name) := by
  rintro board after net rfl h
  cases hanswer : board.nets.resolve name with
  | error fault =>
    rw [on_resolve_error hanswer] at h
    cases h
  | ok answer =>
    obtain ⟨hfind, hsame⟩ := NetTable.find?_of_resolve_eq_ok hclosed hanswer
    obtain ⟨after', hafter, hnets⟩ := on_resolve_ok hanswer
    rw [hafter] at h
    obtain ⟨rfl, rfl⟩ := on_pure_eq_ok h
    refine ⟨hnets.trans hsame, ?_⟩
    rintro board' rfl
    exact on_resolve_ok (NetTable.resolve_of_find? (NetTable.find?_of_prefix hmore hfind))

/-- Whether names can be called on either side: if they can on the first, they can on the second, and
the answers are carried over. -/
def Lends (t u : NetTable) (globalNets globalNets' : Bool) : Prop :=
  globalNets = true → globalNets' = true ∧ ∀ name, Carries t u (resolve name) (resolve name)

/-- Without nets to ask there are no answers to carry over. -/
theorem lends_of_no_nets (t u : NetTable) (globalNets' : Bool) : Lends t u false globalNets' := nofun

theorem lends_of_prefix (hclosed : t.allocate = false) (hmore : t.nets <+: u.nets) :
    Lends t u true true :=
  fun _ => ⟨rfl, carries_resolve hclosed hmore⟩

end Session

/-! ## Routes -/

namespace Route.Setup

variable {t u : NetTable} {s : Setup} {globalNets' : Bool}

/-- A token is followed in the same way with more nets to ask. Only the call of a name asks for
one. -/
theorem carries_step (h : Lends t u s.globalNets globalNets') (route : String) (pen : Pen)
    (token : Token) :
    Carries t u (s.step route pen token)
      ({ s with globalNets := globalNets' }.step route pen token) := by
  obtain ⟨position, text, command⟩ := token
  cases command with
  | layer l => exact carries_pure t u _
  | penUp => exact carries_pure t u _
  | point target =>
    simp only [step]
    split
    · exact carries_pure t u _
    · exact carries_throw t u _ _
    · exact (carries_orBreak t u _).bind fun _ => carries_pure t u _
  | via =>
    simp only [step]
    split
    · exact carries_throw t u _ _
    · exact (carries_orBreak t u _).bind fun _ => carries_pure t u _
  | net name =>
    simp only [step]
    by_cases hglobal : s.globalNets = true
    · obtain ⟨hglobal', hresolve⟩ := h hglobal
      rw [if_pos hglobal, if_pos hglobal']
      exact (hresolve name).bind fun _ => (carries_log t u _).bind fun _ => carries_pure t u _
    · rw [if_neg hglobal]
      exact carries_throw t u _ _

theorem carries_draw (h : Lends t u s.globalNets globalNets') (route : String) (pen : Pen)
    (tokens : List Token) :
    Carries t u (s.draw route pen tokens)
      ({ s with globalNets := globalNets' }.draw route pen tokens) := by
  induction tokens generalizing pen with
  | nil => exact carries_pure t u _
  | cons token tokens ih =>
    simp only [draw]
    exact (carries_step h route pen token).bind fun step =>
      (ih step.1).bind fun _ => carries_pure t u _

theorem carries_run (h : Lends t u s.globalNets globalNets') (route : String) (net : Net) :
    Carries t u (s.run route net) ({ s with globalNets := globalNets' }.run route net) := by
  unfold run
  refine (carries_draw h route _ _).bind fun records => ?_
  split
  · exact carries_throw t u _ _
  · exact (carries_log t u _).bind fun _ => carries_pure t u _

end Route.Setup

/-! ## Footprints -/

namespace Footprint

variable {t u : NetTable} {globalNets globalNets' : Bool}

theorem carries_runAll {s : Route.Setup} (h : Lends t u s.globalNets globalNets') (net : Net)
    (routes : List String) :
    Carries t u (runAll s net routes) (runAll { s with globalNets := globalNets' } net routes) := by
  induction routes with
  | nil => exact carries_pure t u _
  | cons route routes ih =>
    simp only [runAll]
    exact (Route.Setup.carries_run h route net).bind fun _ => ih.bind fun _ => carries_pure t u _

theorem carries_render (h : Lends t u globalNets globalNets') (f : Footprint) (anchor : Anchor) :
    Carries t u (f.render anchor globalNets) (f.render anchor globalNets') := by
  have hrecords : Carries t u (f.records anchor globalNets) (f.records anchor globalNets') :=
    carries_runAll (s := f.setup anchor globalNets) h f.net f.allRoutes
  unfold render
  exact hrecords.bind fun _ => (carries_log t u _).bind fun _ => carries_orBreak t u _

/-- A text that a footprint comes to without nets to ask is the text that it comes to with any table,
closed or open, and that table stays as it is. A text that it comes to with a closed table is the
text that it comes to with any table whose listing goes on behind that of the first, closed or open,
and that table too stays as it is. -/
theorem render_of_more_nets (f : Footprint) (anchor : Anchor) :
    (∀ (board after : Board) (text : String),
      (f.render anchor false).on board = (.ok text, after) →
      ∀ board' : Board, ∃ after', (f.render anchor true).on board' = (.ok text, after') ∧
        after'.nets = board'.nets) ∧
    ∀ (board after : Board) (text : String), board.nets.allocate = false →
      (f.render anchor true).on board = (.ok text, after) →
      ∀ board' : Board, board.nets.nets <+: board'.nets.nets →
        ∃ after', (f.render anchor true).on board' = (.ok text, after') ∧
          after'.nets = board'.nets := by
  constructor
  · intro board after text h board'
    have hlends := lends_of_no_nets board.nets board'.nets true
    exact (carries_render hlends f anchor board after text rfl h).2 board' rfl
  · intro board after text hclosed h board' hmore
    have hlends := lends_of_prefix hclosed hmore
    exact (carries_render hlends f anchor board after text rfl h).2 board' rfl

/-- A name that a closed table lists is on the same net where it is one of two names of an open
table. -/
theorem render_of_more_nets_listed_name :
    let f : Footprint := { route := "f(0,0)<GND>(1,1)v" }
    ∃ text after after',
      (f.render {} true).on ⟨.ofList ["GND"] false, []⟩ = (.ok text, after) ∧
      (f.render {} true).on ⟨.ofList ["GND", "VCC"] true, []⟩ = (.ok text, after') ∧
      after'.nets = .ofList ["GND", "VCC"] true := by
  intro f
  have hok : (((f.render {} true).on ⟨.ofList ["GND"] false, []⟩).1.toOption).isSome = true := by
    decide +kernel
  obtain ⟨text, after, h⟩ := on_eq_ok_of_isSome hok
  have hmore : (NetTable.ofList ["GND"] false).nets <+: (NetTable.ofList ["GND", "VCC"] true).nets :=
    ⟨[⟨2, "VCC"⟩], by decide +kernel⟩
  obtain ⟨after', h', hnets⟩ := (render_of_more_nets f {}).2 _ _ _ (by decide +kernel) h
    ⟨.ofList ["GND", "VCC"] true, []⟩ hmore
  exact ⟨text, after, after', h, h', hnets⟩

end Footprint

end CopperRoute
