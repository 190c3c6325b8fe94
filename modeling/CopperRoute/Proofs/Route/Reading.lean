import CopperRoute.Proofs.Net.Growth
import CopperRoute.Proofs.Session
import CopperRoute.Route.Run
import Mathlib.Data.List.Infix

/-!
# Reading a route without a pen

A run follows the commands of a route with a pen that changes from one command to the next. Here the
same is read without one: what a command draws is told by the commands that stand before it, looked
back over from the newest to the oldest.

    cursorAfter   the last position since the pen was lifted last
    layerAfter    the layer that was chosen last, changed once by every via since
    netAfter      what the nets of the board answer to the name that was called last

`penAfter` puts the three together, and `step_on` is the one place where a step of the run is
opened: a step from the pen that is read off the commands before it ends at the pen that is read off
one command more, or the command is `Refused`. `draw_on` carries this through the whole route.
-/

namespace CopperRoute.Route

open Session

/-! ## Looking back -/

namespace Command

def target? : Command → Option Point
  | point target => some target
  | _ => none

def layer? : Command → Option Layer
  | layer l => some l
  | _ => none

def name? : Command → Option String
  | net name => some name
  | _ => none

def isVia : Command → Bool
  | via => true
  | _ => false

def isPenUp : Command → Bool
  | penUp => true
  | _ => false

end Command

/-- The position that the pen went to last, unless it was lifted since. -/
def cursorAfter (before : List Command) : Option Point :=
  (before.reverse.takeWhile fun c => !c.isPenUp).findSome? Command.target?

/-- The layer that was chosen last, changed to the opposite one by every via since. -/
def layerAfter (before : List Command) : Option Layer :=
  let vias := (before.reverse.takeWhile fun c => c.layer?.isNone).countP Command.isVia
  (before.reverse.findSome? Command.layer?).map Layer.flip^[vias]

def namesIn (commands : List Command) : List String := commands.filterMap Command.name?

/-- The nets of the board after the names in `before` were called. -/
def tableAfter (t : NetTable) (before : List Command) : NetTable := t.insertAll (namesIn before)

/-- The net of the name that was called last, or `net` if none was called. -/
def netAfter (t : NetTable) (net : Net) (before : List Command) : Net :=
  match (namesIn before).getLast? with
  | some name => (tableAfter t before).netOf name
  | none => net

def penAfter (t : NetTable) (net : Net) (before : List Command) : Pen :=
  ⟨netAfter t net before, layerAfter before, cursorAfter before⟩

section Snoc

variable (t : NetTable) (net : Net) (before : List Command) (c : Command)

theorem cursorAfter_snoc :
    cursorAfter (before ++ [c]) =
      if c.isPenUp then none else c.target?.or (cursorAfter before) := by
  rw [cursorAfter, List.reverse_append]
  cases c <;> rfl

theorem layerAfter_snoc :
    layerAfter (before ++ [c]) =
      c.layer?.or (if c.isVia then (layerAfter before).map Layer.flip else layerAfter before) := by
  rw [layerAfter, List.reverse_append]
  cases c with
  | via =>
    show Option.map _ (before.reverse.findSome? Command.layer?) = Option.map _ (Option.map _ _)
    rw [Option.map_map, ← Function.iterate_succ', List.reverse_singleton, List.singleton_append,
      List.takeWhile_cons_of_pos rfl, List.countP_cons_of_pos rfl]
  | _ => rfl

theorem namesIn_snoc : namesIn (before ++ [c]) = namesIn before ++ c.name?.toList := by
  rw [namesIn, List.filterMap_append]
  cases c <;> rfl

/-- A call of a name answers with the net that the board has for it by then. -/
theorem netAfter_snoc :
    netAfter t net (before ++ [c]) =
      (c.name?.map (tableAfter t before).netOf).getD (netAfter t net before) := by
  unfold netAfter tableAfter
  rw [namesIn_snoc]
  cases c with
  | net name => simp [Command.name?]
  | _ => simp [Command.name?]

theorem tableAfter_snoc :
    tableAfter t (before ++ [c]) = (tableAfter t before).insertAll c.name?.toList := by
  rw [tableAfter, namesIn_snoc, NetTable.insertAll_append]
  rfl

end Snoc

/-- The pen that one command more leaves. -/
theorem penAfter_snoc (t : NetTable) (net : Net) (before : List Command) (c : Command) :
    penAfter t net (before ++ [c]) =
      ⟨(c.name?.map (tableAfter t before).netOf).getD (netAfter t net before),
        c.layer?.or (if c.isVia then (layerAfter before).map Layer.flip else layerAfter before),
        if c.isPenUp then none else c.target?.or (cursorAfter before)⟩ := by
  rw [penAfter, netAfter_snoc, layerAfter_snoc, cursorAfter_snoc]

/-- A layer is missing exactly if none was chosen. -/
theorem layerAfter_eq_none_iff {before : List Command} :
    layerAfter before = none ↔ ∀ l, .layer l ∉ before := by
  rw [layerAfter, Option.map_eq_none_iff, List.findSome?_eq_none_iff]
  constructor
  · intro h l hl
    exact absurd (h (.layer l) (List.mem_reverse.2 hl)) (by simp [Command.layer?])
  · intro h c hc
    cases c with
    | layer l => exact absurd (List.mem_reverse.1 hc) (h l)
    | _ => rfl

/-! ## What a route draws -/

/-- A mark of the pen: a trace between two positions, or a via. -/
inductive Stroke where
  | trace (start stop : Point) (layer : Layer) (net : Net)
  | via (centre : Point) (net : Net)

/-- What a command draws behind the commands in `before`. -/
def stroke? (t : NetTable) (net : Net) (before : List Command) : Command → Option Stroke
  | .via => (cursorAfter before).map fun centre => .via centre (netAfter t net before)
  | .point target => do
    let start ← cursorAfter before
    let layer ← layerAfter before
    pure (.trace start target layer (netAfter t net before))
  | _ => none

/-- What the commands draw, each by what stands before it. -/
def strokes (t : NetTable) (net : Net) (commands : List Command) : List Stroke :=
  (commands.inits.zip commands).filterMap fun (before, c) => stroke? t net before c

/-- What `later` draws behind `before`. -/
def strokesBehind (t : NetTable) (net : Net) (before later : List Command) : List Stroke :=
  (later.inits.zip later).filterMap fun (between, c) => stroke? t net (before ++ between) c

theorem strokesBehind_cons (t : NetTable) (net : Net) (before : List Command) (c : Command)
    (later : List Command) :
    strokesBehind t net before (c :: later) =
      (stroke? t net before c).toList ++ strokesBehind t net (before ++ [c]) later := by
  simp only [strokesBehind, List.inits_cons, List.zip_cons_cons, List.filterMap_cons,
    List.append_nil, List.zip_map_left, List.filterMap_map]
  cases stroke? t net before c <;> simp

namespace Setup

/-- A mark as copper of the board, by the turn of the anchor and the sizes. -/
def ink (s : Setup) (turn : Rotation) : Stroke → Record
  | .trace start stop layer net =>
    .segment ⟨s.anchor.shift turn start, s.anchor.shift turn stop, s.width, layer, net⟩
  | .via centre net =>
    .via ⟨s.anchor.shift turn centre, s.viaSize, s.viaDrill, [.front, .back], net⟩

end Setup

/-! ## What is refused -/

/-- The fault of a token of `route`, by the commands in `before` that stand before it and the nets
`t` that the board had at the start. -/
inductive Refused (globalNets : Bool) (t : NetTable) (route : String) (before : List Command)
    (token : Token) : Fault → Prop
  /-- a via without a position since the pen was lifted last -/
  | noCursor : token.command = .via → cursorAfter before = none →
      Refused globalNets t route before token (.route ⟨.noCursor, some route, some token.position⟩)
  /-- a trace without a layer -/
  | noLayer {target start} : token.command = .point target → cursorAfter before = some start →
      (∀ l, .layer l ∉ before) →
      Refused globalNets t route before token (.route ⟨.noLayer, some route, some token.position⟩)
  /-- a name where names cannot be called -/
  | noGlobalNets {name} : token.command = .net name → globalNets = false →
      Refused globalNets t route before token
        (.route ⟨.noGlobalNets, some route, some token.position⟩)
  /-- a name that is not known to a board that takes in no names -/
  | unknownNet {name} : token.command = .net name → globalNets = true → t.allocate = false →
      t.find? name = none → Refused globalNets t route before token (.unknownNet name t.names)

/-- The names in `before` were called without a refusal: a board that takes in no names knows
them. -/
def Called (t : NetTable) (before : List Command) : Prop :=
  t.allocate = false → tableAfter t before = t

/-- A name that the board may take in or knows from the start is answered, whatever was called
before. -/
theorem resolve_tableAfter {t : NetTable} {name : String}
    (h : t.allocate = true ∨ (t.find? name).isSome) (net : Net) (before : List Command) :
    (tableAfter t before).resolve name =
      .ok (tableAfter t (before ++ [.net name]), netAfter t net (before ++ [.net name])) := by
  have hanswer : (tableAfter t before).allocate = true ∨
      ((tableAfter t before).find? name).isSome := by
    rw [tableAfter, NetTable.allocate_insertAll]
    refine h.imp_right fun hfound => ?_
    obtain ⟨known, hknown⟩ := Option.isSome_iff_exists.1 hfound
    rw [NetTable.find?_insertAll hknown]
    rfl
  rw [NetTable.resolve_eq_ok hanswer, tableAfter_snoc, netAfter_snoc]
  rfl

/-- A board that may enter a name or knows it from the start answers it with the net of one call
more. -/
theorem resolve_on {t : NetTable} {before : List Command} {name : String} {board : Board}
    (hboard : board.nets = tableAfter t before) (hcalled : Called t before)
    (h : t.allocate = true ∨ (t.find? name).isSome) (net : Net) :
    Called t (before ++ [.net name]) ∧
      ∃ after, (resolve name).on board = (.ok (netAfter t net (before ++ [.net name])), after) ∧
        after.nets = tableAfter t (before ++ [.net name]) := by
  have hanswer := resolve_tableAfter h net before
  rw [← hboard] at hanswer
  refine ⟨fun hclosed => ?_, on_resolve_ok hanswer⟩
  -- a closed table takes in no name, so it knew this one
  obtain ⟨known, hknown⟩ := Option.isSome_iff_exists.1 (h.resolve_left (by simp [hclosed]))
  rw [tableAfter_snoc, hcalled hclosed]
  exact NetTable.insert_of_find? hknown

/-- A name that a closed board did not know at the start is unknown to it whatever was called. -/
theorem resolve_unknown_on {t : NetTable} {before : List Command} {name : String} {board : Board}
    (hboard : board.nets = tableAfter t before) (hcalled : Called t before)
    (hclosed : t.allocate = false) (hnone : t.find? name = none) :
    (resolve name).on board = (.error (.unknownNet name t.names), board) := by
  have hnets : board.nets = t := hboard.trans (hcalled hclosed)
  have herror : board.nets.resolve name = .error (.unknownNet name t.names) := by
    rw [hnets]
    exact NetTable.resolve_eq_error hclosed hnone
  exact on_resolve_error herror

/-- A call that is not refused has nets to ask, and they answer. -/
theorem answered_of_not_refused {globalNets : Bool} {t : NetTable} {route : String}
    {before : List Command} {token : Token} {name : String} (hname : token.command = .net name)
    (h : ∀ fault, ¬Refused globalNets t route before token fault) :
    globalNets = true ∧ (t.allocate = true ∨ (t.find? name).isSome) := by
  have hglobal : globalNets = true := by
    by_contra hno
    exact h _ (.noGlobalNets hname (by simpa using hno))
  refine ⟨hglobal, ?_⟩
  by_contra hno
  obtain ⟨hclosed, hnone⟩ := not_or.1 hno
  exact h _ (.unknownNet hname hglobal (by simpa using hclosed) (by simpa using hnone))

namespace Setup

variable {s : Setup} {turn : Rotation}

theorem segment_eq_ok (h : Rotation.ofDegrees s.anchor.angle = .ok turn) (start stop : Point)
    (layer : Layer) (net : Net) :
    s.segment start stop layer net = .ok (s.ink turn (.trace start stop layer net)) := by
  rw [segment, Anchor.place, Anchor.place, h]
  rfl

theorem via_eq_ok (h : Rotation.ofDegrees s.anchor.angle = .ok turn) (centre : Point) (net : Net) :
    s.via centre net = .ok (s.ink turn (.via centre net)) := by
  rw [via, Anchor.place, h]
  rfl

/-- A step from the pen that the commands before leave: either the token is refused and the board
stays as it is, or the step ends at the pen that one command more leaves. -/
theorem step_on (hturn : Rotation.ofDegrees s.anchor.angle = .ok turn) {t : NetTable} (net : Net)
    (route : String) {before : List Command} (token : Token) {board : Board}
    (hboard : board.nets = tableAfter t before) (hcalled : Called t before) :
    (∃ fault, Refused s.globalNets t route before token fault ∧
      (s.step route (penAfter t net before) token).on board = (.error fault, board)) ∨
    (∀ fault, ¬Refused s.globalNets t route before token fault) ∧
      Called t (before ++ [token.command]) ∧
      ∃ after, (s.step route (penAfter t net before) token).on board =
          (.ok (penAfter t net (before ++ [token.command]),
            (stroke? t net before token.command).map (s.ink turn)), after) ∧
        after.nets = tableAfter t (before ++ [token.command]) := by
  obtain ⟨position, text, command⟩ := token
  rw [penAfter_snoc, tableAfter_snoc]
  -- only the call of a name changes the board
  have hquiet (c : Command) (h : c.name? = none) : Called t (before ++ [c]) := by
    rw [Called, tableAfter_snoc, h]
    exact hcalled
  cases command with
  | layer l => exact .inr ⟨fun _ h => by cases h <;> contradiction, hquiet _ rfl, _, rfl, hboard⟩
  | penUp => exact .inr ⟨fun _ h => by cases h <;> contradiction, hquiet _ rfl, _, rfl, hboard⟩
  | point target =>
    simp only [step, penAfter, stroke?]
    cases hcursor : cursorAfter before with
    | none =>
      refine .inr ⟨fun _ h => ?_, hquiet _ rfl, _, rfl, hboard⟩
      cases h <;> simp_all
    | some start =>
      cases hlayer : layerAfter before with
      | none =>
        exact .inl ⟨_, .noLayer rfl hcursor (layerAfter_eq_none_iff.1 hlayer), rfl⟩
      | some layer =>
        refine .inr ⟨fun _ h => ?_, hquiet _ rfl, board, ?_, hboard⟩
        · cases h with
          | noLayer _ _ h => simp [layerAfter_eq_none_iff.2 h] at hlayer
          | noCursor h | noGlobalNets h | unknownNet h => cases h
        · dsimp only
          rw [segment_eq_ok hturn, on_bind_of_ok (on_orBreak_ok ..)]
          rfl
  | via =>
    simp only [step, penAfter, stroke?]
    cases hcursor : cursorAfter before with
    | none => exact .inl ⟨_, .noCursor rfl hcursor, rfl⟩
    | some centre =>
      refine .inr ⟨fun _ h => ?_, hquiet _ rfl, board, ?_, hboard⟩
      · cases h <;> simp_all
      · dsimp only
        rw [via_eq_ok hturn, on_bind_of_ok (on_orBreak_ok ..)]
        rfl
  | net name =>
    simp only [step, penAfter, stroke?]
    by_cases hglobal : s.globalNets = true
    · rw [if_pos hglobal]
      by_cases hopen : t.allocate = true ∨ (t.find? name).isSome
      · obtain ⟨hcalled', after, hafter, hnets⟩ := resolve_on hboard hcalled hopen net
        rw [netAfter_snoc] at hafter
        rw [tableAfter_snoc] at hnets
        refine .inr ⟨fun _ h => ?_, hcalled', _, on_bind_of_ok hafter, hnets⟩
        cases h <;> simp_all
      · obtain ⟨hclosed, hnone⟩ := not_or.1 hopen
        have hclosed : t.allocate = false := by simpa using hclosed
        have hnone : t.find? name = none := by simpa using hnone
        exact .inl ⟨_, .unknownNet rfl hglobal hclosed hnone,
          on_bind_of_error (resolve_unknown_on hboard hcalled hclosed hnone)⟩
    · rw [if_neg hglobal]
      exact .inl ⟨_, .noGlobalNets rfl (by simpa using hglobal), rfl⟩

end Setup

/-! ## Whole routes -/

/-- None of `tokens` is refused behind the commands in `before`. -/
def Accepted (globalNets : Bool) (t : NetTable) (route : String) (before : List Command)
    (tokens : List Token) : Prop :=
  ∀ earlier token later fault, tokens = earlier ++ token :: later →
    ¬Refused globalNets t route (before ++ earlier.map Token.command) token fault

theorem accepted_nil (globalNets : Bool) (t : NetTable) (route : String) (before : List Command) :
    Accepted globalNets t route before [] := by
  intro earlier token later _ h
  simp at h

theorem Accepted.cons {globalNets : Bool} {t : NetTable} {route : String} {before : List Command}
    {token : Token} {tokens : List Token}
    (hfirst : ∀ fault, ¬Refused globalNets t route before token fault)
    (h : Accepted globalNets t route (before ++ [token.command]) tokens) :
    Accepted globalNets t route before (token :: tokens) := by
  intro earlier other later fault htokens
  cases earlier with
  | nil =>
    obtain ⟨rfl, -⟩ := List.cons.inj htokens
    simpa using hfirst fault
  | cons first earlier =>
    obtain ⟨rfl, hrest⟩ := List.cons.inj htokens
    simpa using h earlier other later fault hrest

/-- A command of an accepted route belongs to a token that is not refused. -/
theorem Accepted.not_refused {globalNets : Bool} {t : NetTable} {route : String}
    {tokens : List Token} (h : Accepted globalNets t route [] tokens) {before later : List Command}
    {c : Command} (hc : tokens.map Token.command = before ++ c :: later) :
    ∃ token : Token, token.command = c ∧
      ∀ fault, ¬Refused globalNets t route before token fault := by
  obtain ⟨earlier, rest, rfl, rfl, hrest⟩ := List.map_eq_append_iff.1 hc
  obtain ⟨token, behind, rfl, rfl, -⟩ := List.map_eq_cons_iff.1 hrest
  exact ⟨token, rfl, fun fault => h earlier token behind fault rfl⟩

/-- What following `tokens` behind the commands in `before` comes to, and the nets that the board
has then. The first token that is refused decides. -/
inductive Followed (globalNets : Bool) (t : NetTable) (net : Net) (route : String)
    (before : List Command) (tokens : List Token) : Except Fault (List Stroke) → NetTable → Prop
  | refused {earlier token later fault} : tokens = earlier ++ token :: later →
      Accepted globalNets t route before earlier →
      Refused globalNets t route (before ++ earlier.map Token.command) token fault →
      Followed globalNets t net route before tokens (.error fault)
        (tableAfter t (before ++ earlier.map Token.command))
  | through : Accepted globalNets t route before tokens →
      Followed globalNets t net route before tokens
        (.ok (strokesBehind t net before (tokens.map Token.command)))
        (tableAfter t (before ++ tokens.map Token.command))

section

variable {globalNets : Bool} {t : NetTable} {net : Net} {route : String} {before : List Command}
  {token : Token} {tokens : List Token} {nets : NetTable}

theorem Followed.of_refused {fault : Fault} (h : Refused globalNets t route before token fault) :
    Followed globalNets t net route before (token :: tokens) (.error fault)
      (tableAfter t before) := by
  have hrefused : Followed globalNets t net route before ([] ++ token :: tokens) (.error fault) _ :=
    .refused rfl (accepted_nil globalNets t route before) (by rwa [List.map_nil, List.append_nil])
  rwa [List.map_nil, List.append_nil] at hrefused

/-- A token that is not refused draws its stroke before the others. -/
theorem Followed.cons {result : Except Fault (List Stroke)}
    (hfirst : ∀ fault, ¬Refused globalNets t route before token fault)
    (h : Followed globalNets t net route (before ++ [token.command]) tokens result nets) :
    Followed globalNets t net route before (token :: tokens)
      (result.map ((stroke? t net before token.command).toList ++ ·)) nets := by
  cases h with
  | @refused earlier other later fault htokens haccepted hrefused =>
    rw [List.append_assoc, List.singleton_append, ← List.map_cons] at hrefused ⊢
    exact .refused (by rw [htokens, List.cons_append]) (haccepted.cons hfirst) hrefused
  | through haccepted =>
    rw [List.append_assoc, List.singleton_append, ← List.map_cons]
    dsimp only [Except.map]
    rw [← strokesBehind_cons, ← List.map_cons]
    exact .through (haccepted.cons hfirst)

end

/-- What the run of a route comes to, and the nets that the board has then. What stops the scan
counts only if no token is refused. -/
inductive Runs (globalNets : Bool) (t : NetTable) (net : Net) (route : String) :
    Except Fault (List Stroke) → NetTable → Prop
  | refused {earlier token later fault} : (scan route).tokens = earlier ++ token :: later →
      Accepted globalNets t route [] earlier →
      Refused globalNets t route (earlier.map Token.command) token fault →
      Runs globalNets t net route (.error fault) (tableAfter t (earlier.map Token.command))
  | stopped {p cause} : Accepted globalNets t route [] (scan route).tokens →
      (scan route).stop = some (p, cause) →
      Runs globalNets t net route (.error (.route ⟨cause, some route, some p⟩))
        (tableAfter t ((scan route).tokens.map Token.command))
  | finished : Accepted globalNets t route [] (scan route).tokens → (scan route).stop = none →
      Runs globalNets t net route (.ok (strokes t net ((scan route).tokens.map Token.command)))
        (tableAfter t ((scan route).tokens.map Token.command))

namespace Setup

variable {s : Setup} {turn : Rotation}

/-- Following tokens from the pen that the commands before leave. The induction is on the tokens;
what it carries along is that the pen, the board and the calls are those of the commands before. -/
theorem draw_on (hturn : Rotation.ofDegrees s.anchor.angle = .ok turn) {t : NetTable} (net : Net)
    (route : String) {before : List Command} (tokens : List Token) {board : Board}
    (hboard : board.nets = tableAfter t before) (hcalled : Called t before) :
    ∃ result after, Followed s.globalNets t net route before tokens result after.nets ∧
      (s.draw route (penAfter t net before) tokens).on board =
        (result.map (List.map (s.ink turn)), after) := by
  induction tokens generalizing before board with
  | nil =>
    refine ⟨.ok [], board, ?_, rfl⟩
    have hthrough : Followed s.globalNets t net route before [] (.ok []) _ :=
      .through (accepted_nil s.globalNets t route before)
    rwa [List.map_nil, List.append_nil, ← hboard] at hthrough
  | cons token tokens ih =>
    rw [draw]
    rcases step_on hturn net route token hboard hcalled with
      ⟨fault, hrefused, hstep⟩ | ⟨hfirst, hcalled', between, hstep, hbetween⟩
    · exact ⟨.error fault, board, hboard ▸ .of_refused hrefused, on_bind_of_error hstep⟩
    · obtain ⟨result, after, hfollowed, hdraw⟩ := ih hbetween hcalled'
      refine ⟨_, after, hfollowed.cons hfirst, ?_⟩
      rw [on_bind_of_ok hstep]
      dsimp only
      cases result with
      | error fault => rw [on_bind_of_error hdraw]; rfl
      | ok later =>
        rw [on_bind_of_ok hdraw]
        cases stroke? t net before token.command <;> rfl

/-- The run of a route on a board. -/
theorem run_on (hturn : Rotation.ofDegrees s.anchor.angle = .ok turn) (route : String) (net : Net)
    (board : Board) :
    ∃ result after, Runs s.globalNets board.nets net route result after.nets ∧
      (s.run route net).on board = (result.map (List.map (s.ink turn)), after) := by
  have hcalled : Called board.nets [] := fun _ => rfl
  obtain ⟨result, after, hfollowed, hdraw⟩ :=
    draw_on hturn net route (scan route).tokens rfl hcalled
  -- the pen that a run starts with is the one behind no commands
  have hdraw : (s.draw route { net := net } (scan route).tokens).on board = _ := hdraw
  unfold run
  dsimp only
  generalize hnets : after.nets = nets at hfollowed
  cases hfollowed with
  | @refused earlier token later fault htokens haccepted hrefused =>
    refine ⟨.error fault, after, ?_, on_bind_of_error hdraw⟩
    rw [hnets]
    exact .refused htokens haccepted hrefused
  | through haccepted =>
    rw [on_bind_of_ok hdraw]
    cases hstop : (scan route).stop with
    | none =>
      refine ⟨.ok _, { after with log := _ }, ?_, rfl⟩
      rw [hnets]
      exact .finished haccepted hstop
    | some stop =>
      refine ⟨.error _, after, ?_, rfl⟩
      rw [hnets]
      exact .stopped haccepted hstop

/-- An anchor can be turned by every angle but an infinite one. -/
theorem exists_turn_of_ne_infinite
    (h : ∀ negative, Number.exact s.anchor.angle ≠ .infinite negative) :
    ∃ turn, Rotation.ofDegrees s.anchor.angle = .ok turn := by
  unfold Rotation.ofDegrees
  split
  · exact ⟨_, rfl⟩
  · split
    · next negative hexact => exact absurd hexact (h negative)
    · exact ⟨_, rfl⟩

theorem exists_turn (h : Number.isFinite s.anchor.angle = true) :
    ∃ turn, Rotation.ofDegrees s.anchor.angle = .ok turn := by
  refine exists_turn_of_ne_infinite fun negative hexact => ?_
  simp [Number.isFinite, hexact] at h

/-- A run succeeds only if the scan reaches the end and no token is refused. -/
theorem run_eq_ok (hangle : Number.isFinite s.anchor.angle = true) {route : String} {net : Net}
    {board after : Board} {records : List Record}
    (h : (s.run route net).on board = (.ok records, after)) :
    (scan route).stop = none ∧ Accepted s.globalNets board.nets route [] (scan route).tokens ∧
      after.nets = tableAfter board.nets ((scan route).tokens.map Token.command) ∧
      ∃ turn, Rotation.ofDegrees s.anchor.angle = .ok turn ∧
        records = (strokes board.nets net ((scan route).tokens.map Token.command)).map
          (s.ink turn) := by
  obtain ⟨turn, hturn⟩ := exists_turn hangle
  obtain ⟨result, after', hruns, hrun⟩ := run_on hturn route net board
  rw [h] at hrun
  generalize hnets : after'.nets = nets at hruns
  cases hruns with
  | refused | stopped => cases hrun
  | finished haccepted hstop =>
    obtain ⟨hrecords, rfl⟩ := Prod.mk.inj hrun
    exact ⟨hstop, haccepted, hnets, turn, hturn, Except.ok.inj hrecords⟩

/-- What a successful run returns is what its tokens draw, each by what stands before it: every via
token draws one via at the cursor, and every position with a cursor before it draws one trace, on a
layer. A name that is called is answered by the nets as the calls before it left them. Which marks
there are, on which layers and nets, is the same for all anchors and sizes. -/
theorem records_eq_strokes (hangle : Number.isFinite s.anchor.angle = true) {route : String}
    {net : Net} {board after : Board} {records : List Record}
    (h : (s.run route net).on board = (.ok records, after)) :
    let commands := (scan route).tokens.map Token.command
    (scan route).stop = none ∧
    (∃ turn, Rotation.ofDegrees s.anchor.angle = .ok turn ∧
      records = (strokes board.nets net commands).map (s.ink turn)) ∧
    (∀ before later, commands = before ++ .via :: later → (cursorAfter before).isSome) ∧
    (∀ before target later, commands = before ++ .point target :: later →
      (cursorAfter before).isSome → (layerAfter before).isSome) ∧
    (∀ before name later, commands = before ++ .net name :: later →
      (tableAfter board.nets before).resolve name =
        .ok (tableAfter board.nets (before ++ [.net name]),
          netAfter board.nets net (before ++ [.net name]))) ∧
    ∀ other : Setup, other.globalNets = s.globalNets →
      Number.isFinite other.anchor.angle = true →
        ∃ turn after', Rotation.ofDegrees other.anchor.angle = .ok turn ∧
          (other.run route net).on board =
            (.ok ((strokes board.nets net commands).map (other.ink turn)), after') ∧
          after'.nets = after.nets := by
  intro commands
  obtain ⟨hstop, haccepted, hafter, hrecords⟩ := run_eq_ok hangle h
  refine ⟨hstop, hrecords, ?_, ?_, ?_, ?_⟩
  · intro before later hcommands
    obtain ⟨token, htoken, hnot⟩ := haccepted.not_refused hcommands
    by_contra hcursor
    exact hnot _ (.noCursor htoken (by simpa using hcursor))
  · intro before target later hcommands hcursor
    obtain ⟨token, htoken, hnot⟩ := haccepted.not_refused hcommands
    obtain ⟨start, hstart⟩ := Option.isSome_iff_exists.1 hcursor
    by_contra hlayer
    exact hnot _ (.noLayer htoken hstart (layerAfter_eq_none_iff.1 (by simpa using hlayer)))
  · intro before name later hcommands
    obtain ⟨token, htoken, hnot⟩ := haccepted.not_refused hcommands
    exact resolve_tableAfter (answered_of_not_refused htoken hnot).2 net before
  · intro other hglobal hother
    obtain ⟨turn, hturn⟩ := exists_turn hother
    obtain ⟨result, after', hruns, hrun⟩ := run_on hturn route net board
    rw [hglobal] at hruns
    generalize hnets : after'.nets = nets at hruns
    cases hruns with
    | refused htokens _ hrefused => exact absurd hrefused (haccepted _ _ _ _ htokens)
    | stopped _ hsome => exact absurd (hstop.symm.trans hsome) (by simp)
    | finished => exact ⟨turn, after', hturn, hrun, hnets.trans hafter.symm⟩

/-- Two traces and a via between them, on a net that the board takes in on the way. -/
theorem records_eq_strokes_through_via :
    let s : Setup := ⟨{ x := 10, y := 20 }, 0.25, 0.6, 0.3, true⟩
    ∃ records after turn,
      (s.run "f(0,0)<A>(1,1)v(2,1)x" Net.none).on ⟨.empty true, []⟩ = (.ok records, after) ∧
      records.length = 3 ∧ Rotation.ofDegrees s.anchor.angle = .ok turn ∧
      records = (strokes (.empty true) Net.none
        ((scan "f(0,0)<A>(1,1)v(2,1)x").tokens.map Token.command)).map (s.ink turn) := by
  intro s
  have hlength : ((s.run "f(0,0)<A>(1,1)v(2,1)x" Net.none).on ⟨.empty true, []⟩).1.toOption.map
      List.length = some 3 := by decide +kernel
  rcases hrun : (s.run "f(0,0)<A>(1,1)v(2,1)x" Net.none).on ⟨.empty true, []⟩ with
    ⟨fault | records, after⟩
  · rw [hrun] at hlength
    cases hlength
  · rw [hrun] at hlength
    obtain ⟨-, ⟨turn, hturn, hrecords⟩, -⟩ := records_eq_strokes (s := s) (by decide +kernel) hrun
    exact ⟨records, after, turn, rfl, Option.some.inj hlength, hturn, hrecords⟩

end Setup

end CopperRoute.Route
