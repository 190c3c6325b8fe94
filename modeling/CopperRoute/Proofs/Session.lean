import CopperRoute.Proofs.Net.Growth
import CopperRoute.Session

/-!
# Doing work on a board

`Session.on` turns work into its result and the board afterwards. The lemmas here say what it gives
for each way in which work is put together, so that no proof about the work of this library opens a
session itself.
-/

namespace CopperRoute.Session

variable {α β : Type} {work : Session α} {next : α → Session β} {board after : Board}

/-! ## Steps -/

@[simp] theorem on_get (board : Board) : (get : Session Board).on board = (.ok board, board) := rfl

@[simp] theorem on_set (board other : Board) :
    (set other : Session Unit).on board = (.ok (), other) := rfl

@[simp] theorem on_log (event : Log.Event) (board : Board) :
    (log event).on board = (.ok (), { board with log := board.log ++ [event] }) := rfl

/-- Work that only looks at values leaves the board alone. -/
@[simp] theorem on_lift (x : Except Fault α) (board : Board) :
    (liftM x : Session α).on board = (x, board) := by
  cases x <;> rfl

@[simp] theorem on_orBreak_ok (a : α) (board : Board) :
    (orBreak (.ok a)).on board = (.ok a, board) := rfl

/-! ## Sequences -/

/-- Looking at values in sequence succeeds only through both of its parts. -/
theorem bind_eq_ok {ε : Type} {x : Except ε α} {f : α → Except ε β} {b : β}
    (h : x >>= f = .ok b) : ∃ a, x = .ok a ∧ f a = .ok b := by
  cases x with
  | error e => cases h
  | ok a => exact ⟨a, rfl, h⟩

/-- Looking at values in sequence fails with the fault of one of its parts. -/
theorem bind_eq_error {ε : Type} {x : Except ε α} {f : α → Except ε β} {e : ε}
    (h : x >>= f = .error e) : x = .error e ∨ ∃ a, x = .ok a ∧ f a = .error e := by
  cases x with
  | error other =>
    cases h
    exact .inl rfl
  | ok a => exact .inr ⟨a, rfl, h⟩

/-- Of several values, one is to blame. -/
theorem mapM_eq_error {ε : Type} {f : α → Except ε β} {as : List α} {e : ε}
    (h : as.mapM f = .error e) : ∃ a ∈ as, f a = .error e := by
  induction as with
  | nil => cases h
  | cons a as ih =>
    rw [List.mapM_cons] at h
    rcases bind_eq_error h with ha | ⟨b, -, h⟩
    · exact ⟨a, List.mem_cons_self, ha⟩
    · rcases bind_eq_error h with has | ⟨bs, -, h⟩
      · obtain ⟨a', ha', hfails⟩ := ih has
        exact ⟨a', List.mem_cons_of_mem a ha', hfails⟩
      · cases h

/-- That work succeeds can be evaluated. -/
theorem on_eq_ok_of_isSome (h : (work.on board).1.toOption.isSome = true) :
    ∃ a after, work.on board = (.ok a, after) := by
  rcases hwork : work.on board with ⟨fault | a, after⟩
  · rw [hwork] at h
    cases h
  · exact ⟨a, after, rfl⟩

theorem on_bind_of_ok {a : α} (h : work.on board = (.ok a, after)) :
    (work >>= next).on board = (next a).on after := by
  unfold on at h ⊢
  rw [ExceptT.run_bind, StateT.run_bind, h]
  rfl

theorem on_bind_of_error {fault : Fault} (h : work.on board = (.error fault, after)) :
    (work >>= next).on board = (.error fault, after) := by
  unfold on at h ⊢
  rw [ExceptT.run_bind, StateT.run_bind, h]
  rfl

/-- Work in sequence succeeds only through both of its parts. -/
theorem on_bind_eq_ok {b : β} (h : (work >>= next).on board = (.ok b, after)) :
    ∃ a between, work.on board = (.ok a, between) ∧ (next a).on between = (.ok b, after) := by
  rcases hw : work.on board with ⟨fault | a, between⟩
  · rw [on_bind_of_error hw] at h
    cases h
  · exact ⟨a, between, rfl, by rwa [on_bind_of_ok hw] at h⟩

/-- Work in sequence fails with the fault of one of its parts. -/
theorem on_bind_eq_error {fault : Fault} (h : (work >>= next).on board = (.error fault, after)) :
    work.on board = (.error fault, after) ∨
      ∃ a between, work.on board = (.ok a, between) ∧
        (next a).on between = (.error fault, after) := by
  rcases hw : work.on board with ⟨other | a, between⟩
  · rw [on_bind_of_error hw] at h
    obtain ⟨hfault, rfl⟩ := Prod.mk.inj h
    rw [Except.error.inj hfault]
    exact .inl rfl
  · rw [on_bind_of_ok hw] at h
    exact .inr ⟨a, between, rfl, h⟩

theorem on_pure_eq_ok {a b : α} (h : (pure a : Session α).on board = (.ok b, after)) :
    a = b ∧ board = after := by
  obtain ⟨hresult, hboard⟩ := Prod.mk.inj h
  exact ⟨Except.ok.inj hresult, hboard⟩

/-- What looks at values only succeeds with them, and the work goes on from the same board. -/
theorem on_lift_bind_eq_ok {x : Except Fault α} {b : β}
    (h : ((liftM x : Session α) >>= next).on board = (.ok b, after)) :
    ∃ a, x = .ok a ∧ (next a).on board = (.ok b, after) := by
  obtain ⟨a, between, hx, hnext⟩ := on_bind_eq_ok h
  rw [on_lift] at hx
  obtain ⟨rfl, rfl⟩ := Prod.mk.inj hx
  exact ⟨a, rfl, hnext⟩

theorem on_lift_bind_eq_error {x : Except Fault α} {fault : Fault}
    (h : ((liftM x : Session α) >>= next).on board = (.error fault, after)) :
    x = .error fault ∨ ∃ a, x = .ok a ∧ (next a).on board = (.error fault, after) := by
  rcases on_bind_eq_error h with hx | ⟨a, between, hx, hnext⟩
  · rw [on_lift] at hx
    exact .inl (Prod.mk.inj hx).1
  · rw [on_lift] at hx
    obtain ⟨rfl, rfl⟩ := Prod.mk.inj hx
    exact .inr ⟨a, rfl, hnext⟩

theorem on_orBreak_eq_ok {x : Except Breakdown α} {a : α}
    (h : (orBreak x).on board = (.ok a, after)) : x = .ok a ∧ after = board := by
  cases x with
  | error b => cases h
  | ok a' =>
    obtain ⟨rfl, rfl⟩ := on_pure_eq_ok h
    exact ⟨rfl, rfl⟩

/-- A fault is handled on the board that it left. -/
theorem on_tryCatch (work : Session α) (handler : Fault → Session α) (board : Board) :
    (tryCatch work handler).on board =
      match work.on board with
      | (.ok a, after) => (.ok a, after)
      | (.error fault, after) => (handler fault).on after := by
  unfold on ExceptT.run StateT.run
  simp only [tryCatch, tryCatchThe, MonadExceptOf.tryCatch, ExceptT.tryCatch, ExceptT.mk, bind,
    StateT.bind]
  rcases work board with ⟨fault | a, after⟩
  · rfl
  · rfl

/-- Work whose fault is only told in another way succeeds as the work itself does. -/
theorem on_retold_eq_ok {retell : Fault → Fault} {a : α}
    (h : (tryCatch work fun fault => throw (retell fault)).on board = (.ok a, after)) :
    work.on board = (.ok a, after) := by
  rw [on_tryCatch] at h
  split at h
  · next hwork => rw [hwork, h]
  · cases h

/-- `work` succeeds on each of `as` in turn, the board being passed on from one to the next. -/
inductive Through (work : α → Session β) : Board → List α → List β → Board → Prop
  | nil (board : Board) : Through work board [] [] board
  | cons {a : α} {b : β} {as : List α} {bs : List β} {board between after : Board} :
      (work a).on board = (.ok b, between) →
      Through work between as bs after → Through work board (a :: as) (b :: bs) after

theorem through_of_mapM_eq_ok {work : α → Session β} {as : List α} {bs : List β}
    (h : (as.mapM work).on board = (.ok bs, after)) : Through work board as bs after := by
  induction as generalizing board bs with
  | nil =>
    obtain ⟨rfl, rfl⟩ := on_pure_eq_ok h
    exact .nil board
  | cons a as ih =>
    rw [List.mapM_cons] at h
    obtain ⟨b, between, hfirst, h⟩ := on_bind_eq_ok h
    obtain ⟨bs', after', hrest, h⟩ := on_bind_eq_ok h
    obtain ⟨rfl, rfl⟩ := on_pure_eq_ok h
    exact .cons hfirst (ih hrest)

theorem on_mapM_cons_of_ok (work : α → Session β) {a : α} {b : β}
    (h : (work a).on board = (.ok b, after)) (as : List α) :
    ((a :: as).mapM work).on board =
      (((as.mapM work).on after).1.map (b :: ·), ((as.mapM work).on after).2) := by
  rw [List.mapM_cons, on_bind_of_ok h]
  rcases hrest : (as.mapM work).on after with ⟨fault | bs, final⟩
  · rw [on_bind_of_error hrest]
    rfl
  · rw [on_bind_of_ok hrest]
    rfl

theorem on_mapM_cons_of_error (work : α → Session β) {a : α} {fault : Fault}
    (h : (work a).on board = (.error fault, after)) (as : List α) :
    ((a :: as).mapM work).on board = (.error fault, after) := by
  rw [List.mapM_cons, on_bind_of_error h]

/-- Work on each of `as` succeeds exactly if it does so on one after another. -/
theorem on_mapM_eq_ok {work : α → Session β} {as : List α} {bs : List β} :
    (as.mapM work).on board = (.ok bs, after) ↔ Through work board as bs after := by
  refine ⟨through_of_mapM_eq_ok, fun h => ?_⟩
  induction h with
  | nil board => rfl
  | @cons a b as bs board between after hfirst _ ih =>
    rw [on_mapM_cons_of_ok work hfirst, ih]
    rfl

/-- Work on each of `as` fails exactly with the fault of the first on which it does; no later one is
looked at. -/
theorem on_mapM_eq_error {work : α → Session β} {as : List α} {fault : Fault} :
    (as.mapM work).on board = (.error fault, after) ↔
      ∃ front a rest bs between, as = front ++ a :: rest ∧ Through work board front bs between ∧
        (work a).on between = (.error fault, after) := by
  constructor
  · intro h
    induction as generalizing board with
    | nil => cases h
    | cons a as ih =>
      rcases hfirst : (work a).on board with ⟨other | b, between⟩
      · rw [on_mapM_cons_of_error work hfirst] at h
        cases h
        exact ⟨[], a, as, [], board, rfl, .nil board, hfirst⟩
      · rw [on_mapM_cons_of_ok work hfirst] at h
        rcases hrest : (as.mapM work).on between with ⟨other | bs, final⟩
        · rw [hrest] at h
          obtain ⟨front, a', rest, bs, last, rfl, hfront, hlast⟩ := ih (hrest.trans h)
          exact ⟨a :: front, a', rest, b :: bs, last, rfl, .cons hfirst hfront, hlast⟩
        · rw [hrest] at h
          cases h
  · rintro ⟨front, a, rest, bs, between, rfl, hfront, hlast⟩
    induction hfront with
    | nil board => exact on_mapM_cons_of_error work hlast rest
    | cons hfirst _ ih =>
      rw [List.cons_append, on_mapM_cons_of_ok work hfirst, ih hlast]
      rfl

/-- What holds of every result holds of all of them. -/
theorem Through.forall_mem {work : α → Session β} {P : β → Prop}
    (hwork : ∀ a b board after, (work a).on board = (.ok b, after) → P b) {as : List α}
    {bs : List β} (h : Through work board as bs after) : ∀ b ∈ bs, P b := by
  induction h with
  | nil => simp
  | cons hfirst _ ih => exact List.forall_mem_cons.2 ⟨hwork _ _ _ _ hfirst, ih⟩

/-! ## Nets -/

theorem on_resolve_ok {name : String} {nets : NetTable} {net : Net}
    (h : board.nets.resolve name = .ok (nets, net)) :
    ∃ after, (resolve name).on board = (.ok net, after) ∧ after.nets = nets := by
  have hget : (resolve name).on board = _ := on_bind_of_ok (on_get board)
  rw [h] at hget
  dsimp only at hget
  rw [on_bind_of_ok (on_set ..)] at hget
  split at hget
  · exact ⟨_, hget, rfl⟩
  · exact ⟨_, hget, rfl⟩

theorem on_resolve_error {name : String} {fault : Fault}
    (h : board.nets.resolve name = .error fault) :
    (resolve name).on board = (.error fault, board) := by
  have hget : (resolve name).on board = _ := on_bind_of_ok (on_get board)
  rw [h] at hget
  exact hget

theorem on_resolve_eq_ok {name : String} {net : Net}
    (h : (resolve name).on board = (.ok net, after)) :
    after.nets = board.nets.insert name ∧ net = board.nets.netOf name := by
  cases hanswer : board.nets.resolve name with
  | error fault =>
    rw [on_resolve_error hanswer] at h
    cases h
  | ok answer =>
    obtain ⟨after', hafter, hnets⟩ := on_resolve_ok hanswer
    rw [hafter] at h
    obtain ⟨rfl, rfl⟩ := on_pure_eq_ok h
    obtain ⟨htable, hnet⟩ := NetTable.eq_of_resolve_eq_ok hanswer
    exact ⟨hnets.trans htable, hnet⟩

/-- Registering names enters all of them. -/
theorem on_register (names : List String) (board : Board) :
    ∃ after, (register names).on board = (.ok (), after) ∧
      after.nets = board.nets.insertAll names := by
  induction names generalizing board with
  | nil => exact ⟨board, rfl, rfl⟩
  | cons name names ih =>
    rw [NetTable.insertAll_cons]
    unfold register
    rw [List.forM_eq_forM, List.forM_cons, bind_assoc, on_bind_of_ok (on_get board)]
    cases hname : board.nets.find? name with
    | none => exact ih _
    | some net =>
      rw [NetTable.insert_of_find? hname]
      exact ih board

/-! ## Work that does not look at the log -/

/-- On boards with the same nets the work comes to the same and leaves the same nets, whatever was
logged before. -/
def ReadsNets (work : Session α) : Prop :=
  ∀ board board' : Board, board.nets = board'.nets →
    (work.on board).1 = (work.on board').1 ∧ (work.on board).2.nets = (work.on board').2.nets

theorem readsNets_pure (a : α) : ReadsNets (pure a) := fun _ _ h => ⟨rfl, h⟩

theorem readsNets_throw (fault : Fault) : ReadsNets (throw fault : Session α) :=
  fun _ _ h => ⟨rfl, h⟩

theorem readsNets_log (event : Log.Event) : ReadsNets (log event) := fun _ _ h => ⟨rfl, h⟩

theorem readsNets_orBreak (x : Except Breakdown α) : ReadsNets (orBreak x) := by
  cases x with
  | ok a => exact readsNets_pure a
  | error b => exact readsNets_throw _

theorem readsNets_resolve (name : String) : ReadsNets (resolve name) := by
  intro board board' h
  cases hanswer : board.nets.resolve name with
  | error fault =>
    have hanswer' := hanswer
    rw [h] at hanswer'
    rw [on_resolve_error hanswer, on_resolve_error hanswer']
    exact ⟨rfl, h⟩
  | ok answer =>
    have hanswer' := hanswer
    rw [h] at hanswer'
    obtain ⟨after, hafter, hnets⟩ := on_resolve_ok hanswer
    obtain ⟨after', hafter', hnets'⟩ := on_resolve_ok hanswer'
    rw [hafter, hafter']
    exact ⟨rfl, hnets.trans hnets'.symm⟩

theorem ReadsNets.bind (h : ReadsNets work) (hnext : ∀ a, ReadsNets (next a)) :
    ReadsNets (work >>= next) := by
  intro board board' hboards
  obtain ⟨hresult, hnets⟩ := h board board' hboards
  rcases hwork : work.on board with ⟨result, between⟩
  rcases hwork' : work.on board' with ⟨result', between'⟩
  rw [hwork, hwork'] at hresult hnets
  obtain rfl : result = result' := hresult
  cases result with
  | error fault =>
    rw [on_bind_of_error hwork, on_bind_of_error hwork']
    exact ⟨rfl, hnets⟩
  | ok a =>
    rw [on_bind_of_ok hwork, on_bind_of_ok hwork']
    exact hnext a between between' hnets

/-! ## Work that can be done again -/

/-- Work that only lets the nets grow, and that comes to the same on every board whose nets grew from
those that it left: it has the same result there, be it a fault, and enters no further net. -/
structure Repeats (work : Session α) : Prop where
  grows : ∀ board : Board, board.nets.Grown (work.on board).2.nets
  again : ∀ board later : Board, (work.on board).2.nets.Grown later.nets →
    (work.on later).1 = (work.on board).1 ∧ (work.on later).2.nets = later.nets

theorem repeats_pure (a : α) : Repeats (pure a) :=
  ⟨fun board => .refl board.nets, fun _ _ _ => ⟨rfl, rfl⟩⟩

theorem repeats_throw (fault : Fault) : Repeats (throw fault : Session α) :=
  ⟨fun board => .refl board.nets, fun _ _ _ => ⟨rfl, rfl⟩⟩

theorem repeats_log (event : Log.Event) : Repeats (log event) :=
  ⟨fun board => .refl board.nets, fun _ _ _ => ⟨rfl, rfl⟩⟩

theorem repeats_orBreak (x : Except Breakdown α) : Repeats (orBreak x) := by
  cases x with
  | ok a => exact repeats_pure a
  | error b => exact repeats_throw _

theorem repeats_lift (x : Except Fault α) : Repeats (liftM x : Session α) := by
  cases x with
  | ok a => exact repeats_pure a
  | error fault => exact repeats_throw fault

/-- A name that was answered is known from then on, and a table that refused it takes in no names, so
that it refuses it again. -/
theorem repeats_resolve (name : String) : Repeats (resolve name) := by
  constructor
  · intro board
    cases hanswer : board.nets.resolve name with
    | error fault =>
      rw [on_resolve_error hanswer]
      exact .refl board.nets
    | ok answer =>
      obtain ⟨after, hafter, hnets⟩ := on_resolve_ok hanswer
      rw [hafter]
      exact hnets ▸ .of_resolve hanswer
  · intro board later hgrown
    cases hanswer : board.nets.resolve name with
    | error fault =>
      rw [on_resolve_error hanswer] at hgrown ⊢
      have hsame : later.nets = board.nets := by
        rcases hgrown with hsame | ⟨hopen, -⟩
        · exact hsame
        · rw [NetTable.resolve_eq_ok (.inl hopen)] at hanswer
          cases hanswer
      rw [← hsame] at hanswer
      rw [on_resolve_error hanswer]
      exact ⟨rfl, rfl⟩
    | ok answer =>
      obtain ⟨after, hafter, hnets⟩ := on_resolve_ok hanswer
      rw [hafter] at hgrown ⊢
      have hlater := NetTable.resolve_of_grown hanswer (hnets ▸ hgrown)
      obtain ⟨after', hafter', hnets'⟩ := on_resolve_ok hlater
      rw [hafter']
      exact ⟨rfl, hnets'⟩

theorem Repeats.bind (h : Repeats work) (hnext : ∀ a, Repeats (next a)) :
    Repeats (work >>= next) := by
  constructor
  · intro board
    have hfirst := h.grows board
    rcases hwork : work.on board with ⟨fault | a, between⟩
    · rw [on_bind_of_error hwork]
      rwa [hwork] at hfirst
    · rw [on_bind_of_ok hwork]
      rw [hwork] at hfirst
      exact hfirst.trans ((hnext a).grows between)
  · intro board later hgrown
    have hagain := h.again board later
    rcases hwork : work.on board with ⟨result, between⟩
    rcases hlater : work.on later with ⟨result', after'⟩
    rw [hwork, hlater] at hagain
    cases result with
    | error fault =>
      rw [on_bind_of_error hwork] at hgrown ⊢
      obtain ⟨hresult, hnets⟩ := hagain hgrown
      obtain rfl : result' = .error fault := hresult
      rw [on_bind_of_error hlater]
      exact ⟨rfl, hnets⟩
    | ok a =>
      rw [on_bind_of_ok hwork] at hgrown ⊢
      -- the nets of the second run also grew from those between the two parts of the first
      obtain ⟨hresult, hnets⟩ := hagain (((hnext a).grows between).trans hgrown)
      obtain rfl : result' = .ok a := hresult
      rw [on_bind_of_ok hlater]
      obtain ⟨hresult', hnets'⟩ := (hnext a).again between after' (hnets ▸ hgrown)
      exact ⟨hresult', hnets'.trans hnets⟩

/-- To tell a fault in another way is no work on a board. -/
theorem Repeats.retold (h : Repeats work) (retell : Fault → Fault) :
    Repeats (tryCatch work fun fault => throw (retell fault)) := by
  have hon (board : Board) : (tryCatch work fun fault => throw (retell fault)).on board =
      ((work.on board).1.mapError retell, (work.on board).2) := by
    rw [on_tryCatch]
    rcases work.on board with ⟨fault | a, after⟩ <;> rfl
  constructor
  · intro board
    rw [hon]
    exact h.grows board
  · intro board later hgrown
    rw [hon] at hgrown
    obtain ⟨hresult, hnets⟩ := h.again board later hgrown
    rw [hon, hon]
    exact ⟨congrArg (Except.mapError retell) hresult, hnets⟩

theorem repeats_mapM {work : α → Session β} (h : ∀ a, Repeats (work a)) (as : List α) :
    Repeats (as.mapM work) := by
  induction as with
  | nil => exact repeats_pure _
  | cons a as ih =>
    rw [List.mapM_cons]
    exact (h a).bind fun _ => ih.bind fun _ => repeats_pure _

/-- Work that can be done again comes to the same the second time, and leaves the nets as they are
by then. -/
theorem Repeats.twice (h : Repeats work) (board : Board) :
    (work.on (work.on board).2).1 = (work.on board).1 ∧
      (work.on (work.on board).2).2.nets = (work.on board).2.nets :=
  h.again board _ (.refl _)

/-! ## Settled work -/

/-- On every board with the nets `t` the work comes to `a` and leaves the nets as they are. -/
def Settles (t : NetTable) (work : Session α) (a : α) : Prop :=
  ∀ board : Board, board.nets = t → ∃ after, work.on board = (.ok a, after) ∧ after.nets = t

theorem settles_pure (t : NetTable) (a : α) : Settles t (pure a) a := fun board h => ⟨board, rfl, h⟩

theorem Settles.bind {t : NetTable} {a : α} {b : β} (h : Settles t work a)
    (hnext : Settles t (next a) b) : Settles t (work >>= next) b := by
  intro board hboard
  obtain ⟨between, hwork, hbetween⟩ := h board hboard
  rw [on_bind_of_ok hwork]
  exact hnext between hbetween

theorem settles_mapM {t : NetTable} {work : α → Session β} {result : α → β} {as : List α}
    (h : ∀ a ∈ as, Settles t (work a) (result a)) : Settles t (as.mapM work) (as.map result) := by
  induction as with
  | nil => exact settles_pure t []
  | cons a as ih =>
    obtain ⟨hfirst, hrest⟩ := List.forall_mem_cons.1 h
    rw [List.mapM_cons]
    exact hfirst.bind ((ih hrest).bind (settles_pure t _))

/-- Work that succeeded once is settled from then on, if it can be done again. -/
theorem Repeats.settles (h : Repeats work) {a : α} (hwork : work.on board = (.ok a, after))
    {t : NetTable} (hgrown : after.nets.Grown t) : Settles t work a := by
  rintro later rfl
  have hagain := h.again board later
  rw [hwork] at hagain
  obtain ⟨hresult, hnets⟩ := hagain hgrown
  rcases hlater : work.on later with ⟨result, final⟩
  rw [hlater] at hresult hnets
  obtain rfl : result = .ok a := hresult
  exact ⟨final, rfl, hnets⟩

/-- What succeeded on each of `as` in turn is settled by the nets that came of it in the end. -/
theorem Through.settles {work : α → Session β} (hwork : ∀ a, Repeats (work a)) {as : List α}
    {bs : List β} (h : Through work board as bs after) :
    board.nets.Grown after.nets ∧ ∀ a ∈ as, ∃ b ∈ bs, Settles after.nets (work a) b := by
  induction h with
  | nil board => exact ⟨.refl _, by simp⟩
  | @cons a b as bs board between after hfirst _ ih =>
    obtain ⟨hgrown, hsettles⟩ := ih
    have hgrows := (hwork a).grows board
    rw [hfirst] at hgrows
    refine ⟨hgrows.trans hgrown, List.forall_mem_cons.2 ⟨?_, fun a' ha' => ?_⟩⟩
    · exact ⟨b, List.mem_cons_self, (hwork a).settles hfirst hgrown⟩
    · obtain ⟨b', hb', hsettled⟩ := hsettles a' ha'
      exact ⟨b', List.mem_cons_of_mem _ hb', hsettled⟩

end CopperRoute.Session
