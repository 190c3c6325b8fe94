import CopperRoute.Proofs.Footprint.Parameters

/-!
# Which parameters are fit

Every parameter of a footprint is meant to be of a certain type, if it is there (`Parameter.Fits`).
The parameters are checked one after another, and the first that a check does not take decides:

    names ─▶ route ─▶ routes ─▶ precision ─▶ format ─▶ locked ─▶ net ─▶ width ─▶ via sizes

Checks and types part in two ways. The checks of the routes let pass whatever does not count as
given, and of what is given other collections than lists (`Parameter.Takes`). And a check can break
down where it would have to refuse or even to take a value: on a number past the range of doubles,
on a value that cannot be gone through, and on one that cannot be written (`Parameter.Breaks`).

Main statement (`ofParameters_validates_iff`): what comes of any parameters is read off these three
predicates, and it is what the types ask for exactly if neither difference decides.
-/

namespace CopperRoute

namespace Value

theorem isGiven_bare : ∀ v : Value, v.bare.isGiven = v.isGiven
  | knot _ body => isGiven_bare body
  | null | bool _ | int _ | float _ | text _ | moment _ | bytes _ | list _ | pair .. | set _
  | table _ | net _ => rfl

theorem bare_bare : ∀ v : Value, v.bare.bare = v.bare
  | knot _ body => bare_bare body
  | null | bool _ | int _ | float _ | text _ | moment _ | bytes _ | list _ | pair .. | set _
  | table _ | net _ => rfl

/-- Whether a value holds others and passes for a list of them. -/
def isCollection (v : Value) : Bool :=
  match v.bare with
  | list _ | pair .. | set _ | table _ => true
  | _ => false

def IsSize (v : Value) : Prop :=
  (∃ i, v = int i ∧ 0 < i) ∨ ∃ x, v = float x ∧ Number.isFinite x = true ∧ 0 < x

/-- A value that stands for a whole number, or can be cut to one. -/
def IsWhole : Value → Prop
  | bool _ | int _ => True
  | float x => Number.isFinite x = true
  | text s => (Number.wholeLiteral? s).isSome
  | bytes bs => (Footprint.wholeBytes? bs).isSome
  | _ => False

def IsInfinite (v : Value) : Prop :=
  ∃ x negative, v = float x ∧ Number.exact x = .infinite negative

def IsPastRange (v : Value) : Prop := ∃ i, v = int i ∧ Number.ofInt? i = none

theorem not_isInfinite_of_isWhole {v : Value} (h : v.IsWhole) : ¬v.IsInfinite := by
  rintro ⟨x, negative, rfl, hx⟩
  rw [IsWhole, Number.isFinite, hx] at h
  cases h

end Value

/-! ## Parameters -/

def Setting.sizes : List Setting := [.width, .viaSize, .viaDrill]

inductive Parameter where
  | route
  | routes
  | net
  | setting (k : Setting)

namespace Parameter

def name : Parameter → String
  | route => "route"
  | routes => "routes"
  | net => "net"
  | setting k => k.name

def checked : List Parameter :=
  [route, routes, setting .precision, setting .format, setting .locked, net, setting .width,
    setting .viaSize, setting .viaDrill]

theorem mem_checked (p : Parameter) : p ∈ checked := by
  cases p with
  | setting k => cases k <;> simp [checked]
  | _ => simp [checked]

/-- The values that a parameter is meant to have. Null stands for no net, and a net that a caller has
put in place for itself. -/
def Fits : Parameter → Value → Prop
  | route, v => v = .null ∨ ∃ s, v = .text s
  | routes, v => v.bare = .null ∨ ∃ texts : List String, v.bare = .list (texts.map .text)
  | net, v =>
    match v.bare with
    | .null | .text _ | .int _ | .net _ => True
    | .table entries => ∃ index ∈ Table.get? entries "index", index.IsWhole
    | _ => False
  | setting .precision, v => v = .null ∨ ∃ i, v = .int i ∧ 0 ≤ i
  | setting .format, v => ∃ name, v = .text name ∧ (RecordFormat.ofName? name).isSome
  | setting .locked, v => ∃ b, v = .bool b
  | setting .width, v | setting .viaSize, v | setting .viaDrill, v => v.IsSize

/-- The values on which the check of a parameter breaks down. -/
def Breaks : Parameter → Value → Prop
  | route, _ => False
  | routes, v => v.isGiven = true ∧ v.isCollection = false ∧ (∀ s, v.bare ≠ .text s) ∧
      ∀ bs, v.bare ≠ .bytes bs
  | net, v =>
    match v.bare with
    | .null | .text _ | .int _ | .net _ => False
    | .table entries =>
      match Table.get? entries "index" with
      | some index =>
        index.IsInfinite ∨ (¬index.IsWhole ∧ index.isWritable = false) ∨
          index.IsWhole ∧ ∃ name ∈ Table.get? entries "name", name.isWritable = false
      | none => v.isWritable = false
    | _ => v.isWritable = false
  | setting k, v =>
    (k ∈ Setting.sizes ∧ v.IsPastRange) ∨
      ¬(setting k).Fits v ∧ v.isWritable = false

/-- The values that the check of a parameter takes. -/
def Takes : Parameter → Value → Prop
  | route, v => v.isGiven = false ∨ ∃ s, v = .text s
  | routes, v => v.isGiven = false ∨
      v.isCollection = true ∧ ∃ texts : List String, v.parts = texts.map .text
  | net, v => net.Fits v ∧ ¬net.Breaks v
  | setting k, v => (setting k).Fits v ∧ ¬(setting k).Breaks v

theorem fits_size {k : Setting} (hk : k ∈ Setting.sizes) {v : Value} :
    (setting k).Fits v ↔ v.IsSize := by
  simp only [Setting.sizes, List.mem_cons, List.not_mem_nil, or_false] at hk
  rcases hk with rfl | rfl | rfl <;> rfl

/-- A value that fits is taken, unless its check breaks down. -/
theorem takes_or_breaks_of_fits {p : Parameter} {v : Value} (h : p.Fits v) :
    p.Takes v ∨ p.Breaks v := by
  cases p with
  | route =>
    rcases h with rfl | h
    · exact .inl (.inl rfl)
    · exact .inl (.inr h)
  | routes =>
    rcases h with h | ⟨texts, h⟩
    · refine .inl (.inl ?_)
      rw [← v.isGiven_bare, h]
      rfl
    · refine .inl (.inr ⟨?_, texts, ?_⟩)
      · rw [Value.isCollection, h]
      · rw [Value.parts, h]
  | net => exact (em (net.Breaks v)).elim .inr fun hb => .inl ⟨h, hb⟩
  | setting k => exact (em ((setting k).Breaks v)).elim .inr fun hb => .inl ⟨h, hb⟩

/-- If the parameter is there, it fits. -/
def FitsIn (p : Parameter) (t : Table) : Prop := ∀ v ∈ t.get? p.name, p.Fits v

def TakesIn (p : Parameter) (t : Table) : Prop := ∀ v ∈ t.get? p.name, p.Takes v

/-- The parameter is there, and its check breaks down on it. -/
def BreaksIn (p : Parameter) (t : Table) : Prop := ∃ v ∈ t.get? p.name, p.Breaks v

theorem takesIn_or_breaksIn_of_fitsIn {p : Parameter} {t : Table} (h : p.FitsIn t) :
    p.TakesIn t ∨ p.BreaksIn t := by
  unfold FitsIn at h
  unfold TakesIn BreaksIn
  cases hv : t.get? p.name with
  | none => exact .inl (by simp)
  | some v => simpa using takes_or_breaks_of_fits (h v hv)

/-- Of the given parameters `p` is the first that is not taken. -/
def Decides (p : Parameter) (t : Table) : List Parameter → Prop
  | [] => False
  | q :: rest => q.TakesIn t ∧ p.Decides t rest ∨ ¬q.TakesIn t ∧ p = q

theorem exists_decides {t : Table} {ps : List Parameter} (h : ¬∀ p ∈ ps, p.TakesIn t) :
    ∃ p : Parameter, p.Decides t ps ∧ ¬p.TakesIn t := by
  induction ps with
  | nil => simp at h
  | cons q ps ih =>
    by_cases hq : q.TakesIn t
    · obtain ⟨p, hp, htakes⟩ := ih fun hall => h (List.forall_mem_cons.2 ⟨hq, hall⟩)
      exact ⟨p, .inl ⟨hq, hp⟩, htakes⟩
    · exact ⟨q, .inr ⟨hq, rfl⟩, hq⟩

end Parameter

def Table.Known (t : Table) : Prop := ∀ key ∈ t.keys, ∃ p : Parameter, key = .text p.name

/-! ## Single checks -/

/-- How a check ends: it takes the value, refuses it with a report, or breaks down on it. -/
inductive Judged {α : Type} (takes breaks : Prop) : Except Fault α → Prop
  | taken (a : α) : takes → Judged takes breaks (.ok a)
  | refused (cause : ParameterCause) :
      ¬takes → ¬breaks → Judged takes breaks (.error (.parameter cause none))
  | broken (cause : Breakdown) :
      ¬takes → breaks → Judged takes breaks (.error (.breakdown cause))

theorem Judged.map {α β : Type} {takes breaks : Prop} {x : Except Fault α}
    (h : Judged takes breaks x) (f : α → β) : Judged takes breaks (x.map f) := by
  cases h with
  | taken a htakes => exact .taken (f a) htakes
  | refused cause hrefused hwhole => exact .refused cause hrefused hwhole
  | broken cause hrefused hbroken => exact .broken cause hrefused hbroken

namespace Footprint

open Session

variable {α : Type} {takes breaks : Prop} {cause : ParameterCause} {v : Value} {t : Table}
  {board : Board}

theorem judged_refuse (htakes : ¬takes) (hbreaks : breaks ↔ cause.isWritable = false) :
    Judged takes breaks (refuse cause : Except Fault α) := by
  unfold refuse Fault.ofWritable
  split
  · next h => exact .refused cause htakes (by simp [hbreaks, h])
  · next h => exact .broken .unfitValue htakes (by simpa [hbreaks] using h)

/-- A value of the right type is taken, unless a double cannot be made of it. -/
theorem judged_ok_of_fits {k : Setting} (a : α) (h : (Parameter.setting k).Fits v)
    (hpast : k ∈ Setting.sizes → ¬v.IsPastRange) :
    Judged ((Parameter.setting k).Takes v) ((Parameter.setting k).Breaks v) (.ok a) :=
  .taken a ⟨h, fun hbreaks => hbreaks.elim (fun hp => hpast hp.1 hp.2) fun hbroken => hbroken.1 h⟩

/-- The report on a value of another type shows it. -/
theorem judged_refuse_of_not_fits {k : Setting} (h : ¬(Parameter.setting k).Fits v)
    (hpast : k ∈ Setting.sizes → ¬v.IsPastRange)
    (hcause : cause.isWritable = v.isWritable) :
    Judged ((Parameter.setting k).Takes v) ((Parameter.setting k).Breaks v)
      (refuse cause : Except Fault α) := by
  refine judged_refuse (fun htakes => h htakes.1) ⟨fun hbreaks => ?_, fun hw => .inr ⟨h, ?_⟩⟩
  · exact hcause.trans (hbreaks.elim (fun hp => absurd hp.2 (hpast hp.1)) And.right)
  · rw [← hcause, hw]

theorem judged_precision (v : Value) :
    Judged ((Parameter.setting .precision).Takes v) ((Parameter.setting .precision).Breaks v)
      (precisionOf v) := by
  cases v with
  | null => exact judged_ok_of_fits _ (.inl rfl) (by simp [Setting.sizes])
  | int i =>
    dsimp only [precisionOf]
    split
    · next hi => exact judged_ok_of_fits _ (.inr ⟨i, rfl, hi⟩) (by simp [Setting.sizes])
    · next hi =>
      exact judged_refuse_of_not_fits (by simpa [Parameter.Fits] using hi)
        (by simp [Setting.sizes]) rfl
  | _ => exact judged_refuse_of_not_fits (by simp [Parameter.Fits]) (by simp [Setting.sizes]) rfl

theorem judged_format (v : Value) :
    Judged ((Parameter.setting .format).Takes v) ((Parameter.setting .format).Breaks v)
      (formatOf v) := by
  cases v with
  | text name =>
    dsimp only [formatOf]
    split
    · next format hformat =>
      exact judged_ok_of_fits _ ⟨name, rfl, by rw [hformat]; rfl⟩ (by simp [Setting.sizes])
    · next hformat =>
      exact judged_refuse_of_not_fits (by simp [Parameter.Fits, hformat])
        (by simp [Setting.sizes]) rfl
  | _ => exact judged_refuse_of_not_fits (by simp [Parameter.Fits]) (by simp [Setting.sizes]) rfl

theorem judged_locked (v : Value) :
    Judged ((Parameter.setting .locked).Takes v) ((Parameter.setting .locked).Breaks v)
      (lockedOf v) := by
  cases v with
  | bool b => exact judged_ok_of_fits _ ⟨b, rfl⟩ (by simp [Setting.sizes])
  | _ => exact judged_refuse_of_not_fits (by simp [Parameter.Fits]) (by simp [Setting.sizes]) rfl

/-- All sizes are checked in the same way, each under its own name. -/
theorem judged_size {k : Setting} (hk : k ∈ Setting.sizes) (v : Value) :
    Judged ((Parameter.setting k).Takes v) ((Parameter.setting k).Breaks v) (sizeOf k.name v) := by
  cases v with
  | int i =>
    dsimp only [sizeOf]
    split
    · next hi =>
      have hbreaks : (Parameter.setting k).Breaks (.int i) := .inl ⟨hk, i, rfl, hi⟩
      exact .broken _ (fun htakes => htakes.2 hbreaks) hbreaks
    · next x hx =>
      have hpast : ¬(Value.int i).IsPastRange := by simp [Value.IsPastRange, hx]
      split
      · next hpos =>
        exact judged_ok_of_fits x ((Parameter.fits_size hk).2 (.inl ⟨i, rfl, hpos⟩))
          fun _ => hpast
      · next hpos =>
        refine judged_refuse_of_not_fits ?_ (fun _ => hpast) rfl
        simpa [Parameter.fits_size hk, Value.IsSize] using hpos
  | float x =>
    have hpast : ¬(Value.float x).IsPastRange := by simp [Value.IsPastRange]
    dsimp only [sizeOf]
    split
    · next hx =>
      rw [Bool.and_eq_true, decide_eq_true_eq] at hx
      exact judged_ok_of_fits x ((Parameter.fits_size hk).2 (.inr ⟨x, rfl, hx⟩))
        fun _ => hpast
    · next hx =>
      refine judged_refuse_of_not_fits ?_ (fun _ => hpast) rfl
      simpa [Parameter.fits_size hk, Value.IsSize] using hx
  | _ =>
    exact judged_refuse_of_not_fits (by simp [Parameter.fits_size hk, Value.IsSize])
      (by simp [Value.IsPastRange]) rfl

/-- Every setting passes its own check unless it is changed. -/
theorem takes_default (k : Setting) : (Parameter.setting k).Takes (({} : Settings).get k) := by
  have hfits : (Parameter.setting k).Fits (({} : Settings).get k) := by
    cases k with
    | width | viaSize | viaDrill => exact .inr ⟨_, rfl, by decide +kernel⟩
    | locked => exact ⟨false, rfl⟩
    | precision => exact .inl rfl
    | format => exact ⟨_, rfl, by decide +kernel⟩
  have hpast : ¬(({} : Settings).get k).IsPastRange := by
    cases k <;> simp [Value.IsPastRange, Settings.get]
  exact ⟨hfits, fun hbreaks => hbreaks.elim (fun h => hpast h.2) fun h => h.1 hfits⟩

/-- A parameter that is missing has the value of its setting. -/
theorem judged_valueOf {k : Setting} {check : Value → Except Fault α}
    (h : ∀ v, Judged ((Parameter.setting k).Takes v) ((Parameter.setting k).Breaks v) (check v)) :
    Judged ((Parameter.setting k).TakesIn t) ((Parameter.setting k).BreaksIn t)
      (check (valueOf t {} k)) := by
  unfold Parameter.TakesIn Parameter.BreaksIn valueOf
  rw [show (Parameter.setting k).name = k.name from rfl]
  cases t.get? k.name with
  | some v => simpa using h v
  | none =>
    have hdefault := h (({} : Settings).get k)
    rw [Option.getD_none]
    generalize check (({} : Settings).get k) = x at hdefault ⊢
    cases hdefault with
    | taken a _ => exact .taken a (by simp)
    | refused cause hrefused _ => exact absurd (takes_default k) hrefused
    | broken cause hbroken _ => exact absurd (takes_default k) hbroken

theorem judged_route (t : Table) :
    Judged (Parameter.route.TakesIn t) (Parameter.route.BreaksIn t) (route? t) := by
  unfold Parameter.TakesIn Parameter.BreaksIn route?
  rw [show Parameter.route.name = "route" from rfl]
  cases t.get? "route" with
  | none => exact .taken "" (by simp)
  | some v =>
    simp only [Option.mem_def, Option.some.injEq, forall_eq', exists_eq_left']
    by_cases hgiven : v.isGiven = true
    · rw [if_pos hgiven]
      cases v with
      | text s => exact .taken s (.inr ⟨s, rfl⟩)
      | _ =>
        exact judged_refuse (by simp [Parameter.Takes, hgiven])
          (by simp [Parameter.Breaks, ParameterCause.isWritable])
    · rw [if_neg hgiven]
      exact .taken "" (.inl (by simpa using hgiven))

/-- What is given for the list of routes is gone through, if it can be. -/
theorem judged_routes (t : Table) :
    Judged (Parameter.routes.TakesIn t) (Parameter.routes.BreaksIn t) (routes? t) := by
  unfold Parameter.TakesIn Parameter.BreaksIn routes?
  rw [show Parameter.routes.name = "routes" from rfl]
  cases t.get? "routes" with
  | none => exact .taken [] (by simp)
  | some v =>
    simp only [Option.mem_def, Option.some.injEq, forall_eq', exists_eq_left']
    by_cases hgiven : v.isGiven = true
    · rw [if_pos hgiven]
      simp only [Parameter.Takes, Parameter.Breaks, Value.isCollection, Value.parts, hgiven]
      cases v.bare with
      | list _ | pair _ _ | set _ | table _ =>
        dsimp only
        split
        · next texts htexts =>
          exact .taken texts (.inr ⟨rfl, texts, Value.mapM_text?_eq_some.1 htexts⟩)
        · next hnone =>
          refine judged_refuse ?_ (by simp [ParameterCause.isWritable])
          rintro (h | ⟨-, texts, htexts⟩)
          · cases h
          · rw [Value.mapM_text?_eq_some.2 htexts] at hnone
            cases hnone
      | text _ | bytes _ =>
        exact judged_refuse (by simp) (by simp [ParameterCause.isWritable])
      | _ => exact .broken _ (by simp) (by simp)
    · rw [if_neg hgiven]
      exact .taken [] (.inl (by simpa using hgiven))

theorem judged_netIndex (v : Value) :
    Judged v.IsWhole (v.IsInfinite ∨ ¬v.IsWhole ∧ v.isWritable = false) (netIndexOf v) := by
  cases v with
  | bool b => exact .taken _ trivial
  | int i => exact .taken i trivial
  | float x =>
    dsimp only [netIndexOf]
    split
    · next d hd => exact .taken _ (by simp [Value.IsWhole, Number.isFinite, hd])
    · next negative hx =>
      refine .broken _ (by simp [Value.IsWhole, Number.isFinite, hx]) (.inl ?_)
      exact ⟨x, negative, rfl, hx⟩
    · next hx =>
      refine judged_refuse (by simp [Value.IsWhole, Number.isFinite, hx]) ?_
      simp [Value.IsInfinite, Value.IsWhole, Number.isFinite, hx, ParameterCause.isWritable]
  | text s =>
    dsimp only [netIndexOf]
    split
    · next i hi => exact .taken i (by simp [Value.IsWhole, hi])
    · next hi =>
      exact judged_refuse (by simp [Value.IsWhole, hi])
        (by simp [Value.IsInfinite, Value.IsWhole, hi, ParameterCause.isWritable])
  | bytes bs =>
    dsimp only [netIndexOf]
    split
    · next i hi => exact .taken i (by simp [Value.IsWhole, hi])
    · next hi =>
      exact judged_refuse (by simp [Value.IsWhole, hi])
        (by simp [Value.IsInfinite, Value.IsWhole, hi, ParameterCause.isWritable])
  | _ =>
    exact judged_refuse (by simp [Value.IsWhole])
      (by simp [Value.IsInfinite, Value.IsWhole, ParameterCause.isWritable])

/-- On a board that takes names in, every name makes a net. -/
theorem judged_netOf (hopen : board.nets.allocate = true) (v : Value) :
    Judged (Parameter.net.Takes v) (Parameter.net.Breaks v) ((netOf v).on board).1 := by
  simp only [Parameter.Takes, Parameter.Fits, Parameter.Breaks]
  unfold netOf
  cases v.bare with
  | null => exact .taken Net.none (by simp)
  | net n => exact .taken n (by simp)
  | int i => exact .taken (⟨i, ""⟩ : Net) (by simp)
  | text s =>
    dsimp only
    split
    · exact .taken Net.none (by simp)
    · have hanswer : board.nets.resolve s = _ := NetTable.resolve_eq_ok (.inl hopen)
      obtain ⟨after, hafter, -⟩ := on_resolve_ok hanswer
      rw [hafter]
      exact .taken _ (by simp)
  | table entries =>
    dsimp only
    cases Table.get? entries "index" with
    | none =>
      dsimp only
      rw [on_lift]
      exact judged_refuse (by simp) (by simp [ParameterCause.isWritable])
    | some index =>
      dsimp only
      have hindex := judged_netIndex index
      generalize netIndexOf index = x at hindex ⊢
      cases hindex with
      | refused cause hwhole hbreaks =>
        rw [on_bind_of_error (on_lift ..)]
        refine .refused cause (by simp [hwhole]) ?_
        simpa [hwhole] using hbreaks
      | broken cause hwhole hbreaks =>
        rw [on_bind_of_error (on_lift ..)]
        refine .broken cause (by simp [hwhole]) ?_
        simpa [hwhole] using hbreaks
      | taken i hwhole =>
        have hinfinite : ¬index.IsInfinite := Value.not_isInfinite_of_isWhole hwhole
        rw [on_bind_of_ok (on_lift ..)]
        cases Table.get? entries "name" with
        | none =>
          rw [netNameOf, on_bind_of_ok (on_lift ..)]
          exact .taken (⟨i, ""⟩ : Net) (by simp [hwhole, hinfinite])
        | some name =>
          dsimp only [netNameOf]
          split
          · next hname =>
            rw [on_bind_of_ok (on_lift ..)]
            exact .taken (⟨i, name.shown⟩ : Net) (by simp [hwhole, hinfinite, hname])
          · next hname =>
            rw [breakOn, on_bind_of_error (on_lift ..)]
            rw [Bool.not_eq_true] at hname
            exact .broken _ (by simp [hwhole, hname]) (by simp [hwhole, hname])
  | _ =>
    dsimp only
    rw [on_lift]
    exact judged_refuse (by simp) (by simp [ParameterCause.isWritable])

theorem judged_net (hopen : board.nets.allocate = true) (t : Table) :
    Judged (Parameter.net.TakesIn t) (Parameter.net.BreaksIn t)
      ((netOf ((t.get? "net").getD .null)).on board).1 := by
  unfold Parameter.TakesIn Parameter.BreaksIn
  rw [show Parameter.net.name = "net" from rfl]
  cases t.get? "net" with
  | none => exact .taken Net.none (by simp)
  | some v => simpa using judged_netOf hopen v

/-! ## Checks in a row -/

/-- How checks of parameters end that are made one after another. -/
inductive Checked (t : Table) {α : Type} : List Parameter → Except Fault α → Prop
  | done (a : α) : Checked t [] (.ok a)
  | next {p : Parameter} {ps : List Parameter} {x : Except Fault α} :
      p.TakesIn t → Checked t ps x → Checked t (p :: ps) x
  | refused {p : Parameter} (ps : List Parameter) (cause : ParameterCause) :
      ¬p.TakesIn t → ¬p.BreaksIn t → Checked t (p :: ps) (.error (.parameter cause none))
  | broken {p : Parameter} (ps : List Parameter) (cause : Breakdown) :
      ¬p.TakesIn t → p.BreaksIn t → Checked t (p :: ps) (.error (.breakdown cause))

variable {β : Type} {p : Parameter} {ps : List Parameter} {params : Value}

theorem Checked.bind {work : Session α} {next : α → Session β}
    (h : Judged (p.TakesIn t) (p.BreaksIn t) (work.on board).1)
    (hnext : ∀ a after, work.on board = (.ok a, after) → Checked t ps ((next a).on after).1) :
    Checked t (p :: ps) ((work >>= next).on board).1 := by
  rcases hwork : work.on board with ⟨result, after⟩
  rw [hwork] at h
  cases h with
  | taken a htaken =>
    rw [on_bind_of_ok hwork]
    exact .next htaken (hnext a after hwork)
  | refused cause hrefused hwhole =>
    rw [on_bind_of_error hwork]
    exact .refused ps cause hrefused hwhole
  | broken cause hrefused hbroken =>
    rw [on_bind_of_error hwork]
    exact .broken ps cause hrefused hbroken

/-- A check that needs no board is made on the board as it is. -/
theorem Checked.lift_bind {x : Except Fault α} {next : α → Session β}
    (h : Judged (p.TakesIn t) (p.BreaksIn t) x)
    (hnext : ∀ a, Checked t ps ((next a).on board).1) :
    Checked t (p :: ps) (((liftM x : Session α) >>= next).on board).1 := by
  refine .bind (by rwa [on_lift]) fun a after hx => ?_
  rw [on_lift] at hx
  obtain ⟨-, rfl⟩ := Prod.mk.inj hx
  exact hnext a

/-- A footprint comes of known parameters through all checks in their order. -/
theorem checked_ofParameters (hnamed : named params = .ok t) (hopen : board.nets.allocate = true) :
    Checked t Parameter.checked ((ofParameters params {}).on board).1 := by
  unfold ofParameters Parameter.checked
  rw [hnamed, on_bind_of_ok (on_lift ..)]
  refine .lift_bind (judged_route t) fun _ => .lift_bind (judged_routes t) fun _ => ?_
  refine .lift_bind (judged_valueOf judged_precision) fun _ =>
    .lift_bind (judged_valueOf judged_format) fun _ =>
    .lift_bind (judged_valueOf judged_locked) fun _ => ?_
  refine .bind (judged_net hopen t) fun _ _ _ => ?_
  exact .lift_bind (judged_valueOf (judged_size (by simp [Setting.sizes]))) fun _ =>
    .lift_bind (judged_valueOf (judged_size (by simp [Setting.sizes]))) fun _ =>
    .lift_bind (judged_valueOf (judged_size (by simp [Setting.sizes]))) fun _ => .done _

/-- The first parameter that is not taken decides how checks in a row end. -/
theorem Checked.outcome {x : Except Fault α} (h : Checked t ps x) :
    ((∃ a, x = .ok a) ↔ ∀ p ∈ ps, p.TakesIn t) ∧
      ((∃ cause, x = .error (.breakdown cause)) ↔ ∃ p : Parameter, p.Decides t ps ∧ p.BreaksIn t) ∧
      ∀ fault, x = .error fault →
        (∃ cause, fault = .breakdown cause) ∨ fault.kind? = some .configuration := by
  induction h with
  | done a => simp [Parameter.Decides]
  | @next p ps x htakes _ ih => simpa [Parameter.Decides, htakes] using ih
  | @refused p ps cause hrefused hwhole =>
    refine ⟨by simp [hrefused], by simp [Parameter.Decides, hrefused, hwhole], ?_⟩
    rintro fault h
    cases h
    exact .inr rfl
  | @broken p ps cause hrefused hbroken =>
    refine ⟨by simp [hrefused], by simp [Parameter.Decides, hrefused, hbroken], ?_⟩
    rintro fault h
    cases h
    exact .inl ⟨cause, rfl⟩

/-! ## Names -/

theorem mem_parameterNames {s : String} : s ∈ parameterNames ↔ ∃ p : Parameter, s = p.name := by
  constructor
  · intro h
    have hall : ∀ s ∈ parameterNames, ∃ p ∈ Parameter.checked, s = p.name := by
      simp [parameterNames, Parameter.checked, Parameter.name, Setting.name]
    obtain ⟨p, -, hp⟩ := hall s h
    exact ⟨p, hp⟩
  · rintro ⟨p, rfl⟩
    cases p with
    | setting k => cases k <;> decide
    | _ => decide

theorem keys_eq_texts (h : ∀ key ∈ t.keys, ∃ s, key = .text s) :
    ∃ names : List String, t.keys = names.map .text := by
  induction t with
  | nil => exact ⟨[], rfl⟩
  | cons e t ih =>
    obtain ⟨⟨s, hs⟩, hkeys⟩ := List.forall_mem_cons.1 h
    obtain ⟨names, hnames⟩ := ih hkeys
    exact ⟨s :: names, congrArg₂ List.cons hs hnames⟩

theorem named_of_keys (htable : params.bare = .table t) (hkeys : ∀ key ∈ t.keys, ∃ s, key = .text s) :
    t.Known ∧ named params = .ok t ∨
      ¬t.Known ∧ ∃ names, named params = .error (.parameter (.unknownNames names) none) := by
  obtain ⟨names, hnames⟩ := keys_eq_texts hkeys
  have hunknown : (t.keys.map Key.toValue).filter (!isKnownValue ·) =
      (names.filter (!isKnown ·)).map .text := by
    rw [hnames, List.map_map, List.filter_map]
    rfl
  have hknown : t.Known ↔ names.filter (!isKnown ·) = [] := by
    simp [Table.Known, hnames, isKnown, List.filter_eq_nil_iff, mem_parameterNames]
  unfold named
  rw [htable]
  dsimp only
  rw [hunknown, hknown]
  rcases names.filter (!isKnown ·) with _ | ⟨name, rest⟩
  · exact .inl ⟨rfl, rfl⟩
  · refine .inr ⟨by simp, ordered (name :: rest), ?_⟩
    rw [refuseNames, Value.mapM_text?_eq_some.2 rfl]
    rfl

/-! ## The contract -/

/-- What the types of the parameters ask of a table. -/
def Fit (t : Table) : Prop := t.Known ∧ ∀ p : Parameter, p.FitsIn t

/-- What the types of the parameters promise of its outcome: a footprint exactly if all of them fit,
and a report on the configuration if not. -/
def Validates (t : Table) (outcome : Except Fault Footprint) : Prop :=
  ((∃ f, outcome = .ok f) ↔ Fit t) ∧
    (¬Fit t → ∃ fault, outcome = .error fault ∧ fault.kind? = some .configuration)

/-- Nothing is promised that breaks down. -/
theorem not_validates_of_breakdown {outcome : Except Fault Footprint} {cause : Breakdown}
    (h : outcome = .error (.breakdown cause)) : ¬Validates t outcome := by
  rintro ⟨hok, herror⟩
  subst h
  by_cases hfit : Fit t
  · obtain ⟨f, hf⟩ := hok.2 hfit
    cases hf
  · obtain ⟨fault, hfault, hkind⟩ := herror hfit
    cases hfault
    cases hkind

/-- What comes of any parameters under the default settings, on a board that takes names in. There is
a footprint exactly if all names are known and all parameters are taken. The work breaks down exactly
if all names are known and the first parameter that is not taken is one whose check breaks down, and
in all other cases there is a report on the configuration. So the outcome is what the types promise
exactly if known parameters that are all taken also fit, and no check that decides breaks down. -/
theorem ofParameters_validates_iff (htable : params.bare = .table t)
    (hkeys : ∀ key ∈ t.keys, ∃ s, key = .text s) (hopen : board.nets.allocate = true) :
    let outcome := ((ofParameters params {}).on board).1
    ((∃ f, outcome = .ok f) ↔ t.Known ∧ ∀ p : Parameter, p.TakesIn t) ∧
      ((∃ cause, outcome = .error (.breakdown cause)) ↔
        t.Known ∧ ∃ p : Parameter, p.Decides t Parameter.checked ∧ p.BreaksIn t) ∧
      (∀ fault, outcome = .error fault →
        (∃ cause, fault = .breakdown cause) ∨ fault.kind? = some .configuration) ∧
      (Validates t outcome ↔ (t.Known →
        ((∀ p : Parameter, p.TakesIn t) → ∀ p : Parameter, p.FitsIn t) ∧
          ∀ p : Parameter, p.Decides t Parameter.checked → ¬p.BreaksIn t)) := by
  intro outcome
  rcases named_of_keys htable hkeys with ⟨hknown, hnamed⟩ | ⟨hunknown, names, hnamed⟩
  · obtain ⟨hok, hbroken, herror⟩ := (checked_ofParameters hnamed hopen).outcome
    simp only [Parameter.mem_checked, forall_const] at hok
    refine ⟨by simp [hknown, outcome, hok], by simp [hknown, outcome, hbroken], herror, ?_, ?_⟩
    · intro hvalid _
      refine ⟨fun htaken => (hvalid.1.1 (hok.2 htaken)).2, fun p hp hbreaks => ?_⟩
      obtain ⟨cause, hcause⟩ := hbroken.2 ⟨p, hp, hbreaks⟩
      exact not_validates_of_breakdown hcause hvalid
    · intro h
      obtain ⟨hfits, hdecides⟩ := h hknown
      refine ⟨⟨fun hf => ⟨hknown, hfits (hok.1 hf)⟩, fun hfit => hok.2 ?_⟩, fun hunfit => ?_⟩
      · -- what fits is taken, for its check does not break down where it decides
        by_contra hall
        obtain ⟨p, hp, hrefused⟩ := Parameter.exists_decides
          fun htaken : ∀ p ∈ Parameter.checked, p.TakesIn t => hall fun p => htaken p p.mem_checked
        rcases Parameter.takesIn_or_breaksIn_of_fitsIn (hfit.2 p) with htaken | hbreaks
        · exact hrefused htaken
        · exact hdecides p hp hbreaks
      · rcases hresult : outcome with fault | f
        · refine ⟨fault, rfl, (herror fault hresult).resolve_left ?_⟩
          rintro ⟨cause, rfl⟩
          obtain ⟨p, hp, hbreaks⟩ := hbroken.1 ⟨cause, hresult⟩
          exact hdecides p hp hbreaks
        · exact absurd ⟨hknown, hfits (hok.1 ⟨f, hresult⟩)⟩ hunfit
  · have hresult : outcome = .error (.parameter (.unknownNames names) none) := by
      simp only [outcome]
      unfold ofParameters
      rw [hnamed, on_bind_of_error (on_lift ..)]
    have hunfit : ¬Fit t := fun hfit => hunknown hfit.1
    rw [hresult]
    refine ⟨by simp [hunknown], by simp [hunknown], fun fault h => ?_, ?_⟩
    · cases h
      exact .inr rfl
    · simp only [hunknown, false_implies, iff_true]
      exact ⟨by simp [hunfit], fun _ => ⟨_, rfl, rfl⟩⟩

/-- A net by a text for its index and with a number for its name: it fits, it is taken, and nothing
breaks down. -/
theorem ofParameters_validates_net_by_index :
    let net : Value := .table [(.text "index", .text " 7 "), (.text "name", .int 3)]
    let t : Table := [(.text "net", net)]
    (∃ f, ((ofParameters (.table t) {}).on ⟨.empty true, []⟩).1 = .ok f) ∧
      Validates t ((ofParameters (.table t) {}).on ⟨.empty true, []⟩).1 := by
  intro net t
  have hkeys : ∀ key ∈ t.keys, key = .text "net" := fun key hkey => List.mem_singleton.1 hkey
  have hvalue : ∀ p : Parameter, ∀ v ∈ t.get? p.name, p = .net ∧ v = net := by
    intro p v hv
    cases p with
    | net => exact ⟨rfl, (Option.some.inj hv).symm⟩
    | setting k => cases k <;> cases hv
    | _ => cases hv
  have hindex : (Number.wholeLiteral? " 7 ").isSome = true := by decide +kernel
  have hfits : Parameter.net.Fits net := ⟨.text " 7 ", rfl, hindex⟩
  have hwhole : ¬Parameter.net.Breaks net := by
    rintro (⟨x, negative, h, -⟩ | ⟨-, h⟩ | ⟨-, name, hname, h⟩)
    · cases h
    · cases h
    · obtain rfl := Option.some.inj hname
      revert h
      decide +kernel
  obtain ⟨hok, -, -, hvalid⟩ := @ofParameters_validates_iff t ⟨.empty true, []⟩ (.table t)
    rfl (fun key hkey => ⟨_, hkeys key hkey⟩) rfl
  refine ⟨hok.2 ⟨fun key hkey => ⟨.net, hkeys key hkey⟩, fun p v hv => ?_⟩,
    hvalid.2 fun _ => ⟨fun _ p v hv => ?_, fun p _ => ?_⟩⟩
  · obtain ⟨rfl, rfl⟩ := hvalue p v hv
    exact ⟨hfits, hwhole⟩
  · obtain ⟨rfl, rfl⟩ := hvalue p v hv
    exact hfits
  · rintro ⟨v, hv, hbreaks⟩
    obtain ⟨rfl, rfl⟩ := hvalue p v hv
    exact hwhole hbreaks

/-- The contract is broken in three ways: a number for the routes cannot be gone through, and no
report says so; `false` passes for a route; and a width past the range of doubles fits, but breaks
down. -/
theorem ofParameters_not_validates :
    let outcome (t : Table) := ((ofParameters (.table t) {}).on ⟨.empty true, []⟩).1
    let routes : Table := [(.text "routes", .int 5)]
    let route : Table := [(.text "route", .bool false)]
    let width : Table := [(.text "width", .int (10 ^ 200 * 10 ^ 200))]
    ¬Validates routes (outcome routes) ∧ ¬Validates route (outcome route) ∧
      ¬Validates width (outcome width) := by
  intro outcome routes route width
  have hroutes : outcome routes = .error (.breakdown .wrongType) := rfl
  refine ⟨not_validates_of_breakdown hroutes, fun hvalid => ?_, fun hvalid => ?_⟩
  · -- the footprint comes, but no truth value fits
    have htaken : (outcome route).toOption.isSome = true := by decide +kernel
    rcases hresult : outcome route with fault | f
    · rw [hresult] at htaken
      cases htaken
    · have hfits : Parameter.route.Fits (.bool false) := (hvalid.1.1 ⟨f, hresult⟩).2 .route _ rfl
      simp [Parameter.Fits] at hfits
  · -- the width fits, but no footprint comes
    have hlost : (outcome width).toOption.isSome = false := by decide +kernel
    have hfit : Fit width := by
      refine ⟨fun key hkey => ⟨.setting .width, List.mem_singleton.1 hkey⟩, fun p v hv => ?_⟩
      cases p with
      | setting k =>
        cases k with
        | width =>
          obtain rfl := Option.some.inj hv
          exact .inl ⟨_, rfl, by positivity⟩
        | _ => cases hv
      | _ => cases hv
    obtain ⟨f, hf⟩ := hvalid.1.2 hfit
    rw [hf] at hlost
    cases hlost

end Footprint

end CopperRoute
