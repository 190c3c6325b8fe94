import CopperRoute.Proofs.Route.Grammar
import CopperRoute.Proofs.Route.Reading

/-!
# Where a route fails

A route can be wrong in several places and in several ways at once. `Offence` lists all of them,
each with its position, its kind and its fault: the text that stops the scan, and every token that
is `Refused`. Main statement: a run fails exactly if there is an offence, with the fault of the
leftmost one, and the board has then taken in the names that are called to the left of it.
-/

namespace CopperRoute.Route

/-! ## Offences -/

/-- The kind of failure that a refused command is. -/
def refusedKind (globalNets : Bool) : Command → Kind
  | .net _ => if globalNets then .netLookup else .unsupported
  | _ => .notReady

/-- The offences of `route`, by whether names can be called and by the nets of the board at the
start: position, kind and fault. -/
inductive Offence (globalNets : Bool) (t : NetTable) (route : String) : Nat → Kind → Fault → Prop
  /-- what stops the scan -/
  | text {p cause} : (scan route).stop = some (p, cause) →
      Offence globalNets t route p (RouteFault.kind ⟨cause, some route, some p⟩)
        (.route ⟨cause, some route, some p⟩)
  /-- a token that is refused by what stands before it -/
  | token {earlier token later fault} : (scan route).tokens = earlier ++ token :: later →
      Refused globalNets t route (earlier.map Token.command) token fault →
      Offence globalNets t route token.position (refusedKind globalNets token.command) fault

/-- The fault of the offence to the left of all others. -/
def IsLeftmost (globalNets : Bool) (t : NetTable) (route : String) (p : Nat) (fault : Fault) :
    Prop :=
  (∃ kind, Offence globalNets t route p kind fault) ∧
    ∀ q kind other, Offence globalNets t route q kind other → p ≤ q

/-- The names that are called in `route` to the left of position `p`. -/
def namesBefore (route : String) (p : Nat) : List String :=
  namesIn (((scan route).tokens.filter (·.position < p)).map Token.command)

/-- The characters that what a cause is about can start with. -/
def headsOf : RouteCause → List Char
  | .unknownCharacter c => [c]
  | .openPosition | .badPosition _ | .noLayer => ['(']
  | .openNet | .blankNet | .noGlobalNets => ['<']
  | .noCursor => ['v', 'V']

variable {globalNets : Bool} {t : NetTable} {route : String} {p : Nat} {kind : Kind} {fault : Fault}

/-! ## Positions -/

/-- The tokens of a route tile a part of it from its start on. -/
theorem exists_tiles (route : String) :
    ∃ before after, route.toList = before ++ after ∧ Spells 0 before (scan route).tokens := by
  obtain ⟨before, after, hroute, hspell, -⟩ := exists_spelled 0 route.toList
  exact ⟨before, after, hroute, hspell⟩

/-- A token's position is that of its first character. -/
theorem exists_head_of_mem {token : Token} (h : token ∈ (scan route).tokens) :
    ∃ c tail, Item (c :: tail) token.command ∧ route.toList[token.position]? = some c := by
  obtain ⟨before, after, hroute, hspell⟩ := exists_tiles route
  obtain ⟨c, tail, htext, -⟩ := (hspell.exists_item h).exists_cons
  refine ⟨c, tail, htext ▸ hspell.exists_item h, ?_⟩
  obtain ⟨-, -, -, hslice⟩ := hspell.slice [] after rfl token h
  rw [List.nil_append, ← hroute, htext] at hslice
  have hhead := congrArg List.head? hslice
  rw [List.head?_take, if_neg (by rw [← String.length_toList, htext]; simp),
    List.head?_drop] at hhead
  exact hhead

/-- What stops the scan stops it at the first character of the offender. -/
theorem exists_head_of_stop {cause : RouteCause} (h : (scan route).stop = some (p, cause)) :
    ∃ c, route.toList[p]? = some c ∧ c ∈ headsOf cause := by
  obtain ⟨before, c, rest, hroute, rfl, -, -, -, hrefuses⟩ := exists_of_stop h
  refine ⟨c, by simp [hroute], ?_⟩
  cases hrefuses <;> simp [headsOf]

/-- Positions grow from token to token. -/
theorem position_lt_of_split {earlier later : List Token} {token other : Token}
    (h : (scan route).tokens = earlier ++ token :: later) :
    (other ∈ earlier → other.position < token.position) ∧
      (other ∈ later → token.position < other.position) := by
  obtain ⟨before, after, -, hspell⟩ := exists_tiles route
  have hsize : ∀ a ∈ (scan route).tokens, 0 < a.text.length := by
    intro a ha
    obtain ⟨hne, -⟩ := hspell.slice [] [] rfl a ha
    exact Nat.pos_of_ne_zero (by simpa using hne)
  have hapart := hspell.apart
  rw [h, List.pairwise_append, List.pairwise_cons] at hapart
  obtain ⟨-, ⟨hlater, -⟩, hearlier⟩ := hapart
  constructor
  · intro hm
    have hle := hearlier other hm token List.mem_cons_self
    have hpos := hsize other (by simp [h, hm])
    omega
  · intro hm
    have hle := hlater other hm
    have hpos := hsize token (by simp [h])
    omega

/-- Every token ends before the place where the scan stops. -/
theorem position_lt_of_stop {cause : RouteCause} (h : (scan route).stop = some (p, cause))
    {token : Token} (hm : token ∈ (scan route).tokens) : token.position < p := by
  obtain ⟨before, c, rest, -, rfl, hspell, -⟩ := exists_of_stop h
  obtain ⟨hne, -, hend, -⟩ := hspell.slice [] [] rfl token hm
  have hpos : 0 < token.text.length := Nat.pos_of_ne_zero (by simpa using hne)
  omega

/-- Two places in one list are the same, or one of them is to the left of the other. -/
theorem split_cases {α : Type} {earlier later earlier' later' : List α} {a b : α}
    (h : earlier ++ a :: later = earlier' ++ b :: later') :
    b ∈ later ∨ (earlier' = earlier ∧ b = a) ∨ ∃ between, earlier = earlier' ++ b :: between := by
  rcases List.append_eq_append_iff.1 h with ⟨mid, rfl, hmid⟩ | ⟨mid, rfl, hmid⟩
  · cases mid with
    | nil => exact .inr (.inl ⟨by simp, (List.cons.inj hmid).1.symm⟩)
    | cons _ mid =>
      obtain ⟨rfl, rfl⟩ := List.cons.inj hmid
      exact .inl (by simp)
  · cases mid with
    | nil => exact .inr (.inl ⟨by simp, (List.cons.inj hmid).1⟩)
    | cons _ mid =>
      obtain ⟨rfl, rfl⟩ := List.cons.inj hmid
      exact .inr (.inr ⟨mid, rfl⟩)

/-! ## Offences and their faults -/

theorem Refused.kind?_eq {before : List Command} {token : Token}
    (h : Refused globalNets t route before token fault) :
    fault.kind? = some (refusedKind globalNets token.command) := by
  cases h with
  | noCursor hc | noLayer hc => rw [hc]; rfl
  | noGlobalNets hc hg => rw [hc, hg]; rfl
  | unknownNet hc hg => rw [hc, hg]; rfl

/-- An offence lies in the route, and its fault is of its kind. -/
theorem Offence.lt_and_kind?_eq (h : Offence globalNets t route p kind fault) :
    p < route.length ∧ fault.kind? = some kind := by
  rw [← String.length_toList]
  cases h with
  | text hstop =>
    obtain ⟨c, hc, -⟩ := exists_head_of_stop hstop
    exact ⟨(List.getElem?_eq_some_iff.1 hc).1, rfl⟩
  | @token earlier token later fault htokens hrefused =>
    have hm : token ∈ (scan route).tokens := by simp [htokens]
    obtain ⟨c, tail, -, hc⟩ := exists_head_of_mem hm
    exact ⟨(List.getElem?_eq_some_iff.1 hc).1, hrefused.kind?_eq⟩

/-- The fault of a route's offence tells the whole route and the place of the offender's first
character. -/
theorem Offence.place {f : RouteFault} (h : Offence globalNets t route p kind (.route f)) :
    f.route = some route ∧ f.position = some p ∧
      ∃ c, route.toList[p]? = some c ∧ c ∈ headsOf f.cause := by
  generalize hfault : Fault.route f = fault at h
  cases h with
  | text hstop =>
    obtain rfl := Fault.route.inj hfault
    exact ⟨rfl, rfl, exists_head_of_stop hstop⟩
  | @token earlier token later fault htokens hrefused =>
    have hm : token ∈ (scan route).tokens := by simp [htokens]
    obtain ⟨c, tail, hitem, hc⟩ := exists_head_of_mem hm
    cases hrefused with
    | noCursor hcommand =>
      obtain rfl := Fault.route.inj hfault
      rw [hcommand] at hitem
      cases hitem with
      | via hv => exact ⟨rfl, rfl, c, hc, by simpa [headsOf] using hv⟩
    | noLayer hcommand =>
      obtain rfl := Fault.route.inj hfault
      rw [hcommand] at hitem
      cases hitem
      exact ⟨rfl, rfl, _, hc, by simp [headsOf]⟩
    | noGlobalNets hcommand =>
      obtain rfl := Fault.route.inj hfault
      rw [hcommand] at hitem
      cases hitem
      exact ⟨rfl, rfl, _, hc, by simp [headsOf]⟩
    | unknownNet => cases hfault

/-! ## The leftmost offence -/

/-- A token is refused for one reason only. -/
theorem Refused.unique {before : List Command} {token : Token} {other : Fault}
    (h : Refused globalNets t route before token fault)
    (h' : Refused globalNets t route before token other) : fault = other := by
  cases h <;> cases h' <;> simp_all

/-- Of the offences to the left of all others there is one only. -/
theorem IsLeftmost.unique {q : Nat} {other : Fault} (h : IsLeftmost globalNets t route p fault)
    (h' : IsLeftmost globalNets t route q other) : p = q ∧ fault = other := by
  obtain ⟨⟨kind, hoffence⟩, hleft⟩ := h
  obtain ⟨⟨kind', hoffence'⟩, hleft'⟩ := h'
  obtain rfl : p = q := Nat.le_antisymm (hleft q _ _ hoffence') (hleft' p _ _ hoffence)
  refine ⟨rfl, ?_⟩
  cases hoffence with
  | text hstop =>
    cases hoffence' with
    | text hstop' =>
      obtain ⟨-, rfl⟩ := Prod.mk.inj (Option.some.inj (hstop.symm.trans hstop'))
      rfl
    | token htokens =>
      exact absurd (position_lt_of_stop hstop (by simp [htokens])) (Nat.lt_irrefl _)
  | token htokens hrefused =>
    -- two refused tokens at one position are one token
    generalize hposition : Token.position _ = q at hoffence'
    cases hoffence' with
    | text hstop =>
      have hlt := position_lt_of_stop hstop (by rw [htokens]; exact List.mem_append_cons_self)
      exact absurd hposition (Nat.ne_of_lt hlt)
    | token htokens' hrefused' =>
      rcases split_cases (htokens.symm.trans htokens') with hlater | ⟨rfl, rfl⟩ | ⟨between, rfl⟩
      · exact absurd hposition (Nat.ne_of_lt ((position_lt_of_split htokens).2 hlater))
      · exact hrefused.unique hrefused'
      · have hlt := (position_lt_of_split htokens).1 (List.mem_append_cons_self)
        exact absurd hposition.symm (Nat.ne_of_lt hlt)

theorem isLeftmost_of_refused {earlier later : List Token} {token : Token}
    (htokens : (scan route).tokens = earlier ++ token :: later)
    (haccepted : Accepted globalNets t route [] earlier)
    (hrefused : Refused globalNets t route (earlier.map Token.command) token fault) :
    IsLeftmost globalNets t route token.position fault := by
  refine ⟨⟨_, .token htokens hrefused⟩, fun q kind other hother => ?_⟩
  cases hother with
  | text hstop => exact Nat.le_of_lt (position_lt_of_stop hstop (by simp [htokens]))
  | token htokens' hrefused' =>
    rcases split_cases (htokens.symm.trans htokens') with hlater | ⟨-, rfl⟩ | ⟨between, rfl⟩
    · exact Nat.le_of_lt ((position_lt_of_split htokens).2 hlater)
    · exact Nat.le_refl _
    -- a refused token further left would not have been accepted
    · exact absurd hrefused' (haccepted _ _ _ _ rfl)

theorem isLeftmost_of_stop {cause : RouteCause}
    (haccepted : Accepted globalNets t route [] (scan route).tokens)
    (hstop : (scan route).stop = some (p, cause)) :
    IsLeftmost globalNets t route p (.route ⟨cause, some route, some p⟩) := by
  refine ⟨⟨_, .text hstop⟩, fun q kind other hother => ?_⟩
  cases hother with
  | text hstop' => exact Nat.le_of_eq (Prod.mk.inj (Option.some.inj (hstop.symm.trans hstop'))).1
  | token htokens hrefused => exact absurd hrefused (haccepted _ _ _ _ htokens)

theorem not_offence_of_accepted (haccepted : Accepted globalNets t route [] (scan route).tokens)
    (hstop : (scan route).stop = none) : ¬Offence globalNets t route p kind fault := by
  intro h
  cases h with
  | text hsome => exact absurd (hstop.symm.trans hsome) (by simp)
  | token htokens hrefused => exact haccepted _ _ _ _ htokens hrefused

/-! ## Calls to the left of a place -/

theorem namesBefore_of_split {earlier later : List Token} {token : Token}
    (h : (scan route).tokens = earlier ++ token :: later) :
    namesBefore route token.position = namesIn (earlier.map Token.command) := by
  have hearlier : earlier.filter (·.position < token.position) = earlier := by
    rw [List.filter_eq_self]
    exact fun a ha => by simpa using (position_lt_of_split h).1 ha
  have hlater : (token :: later).filter (·.position < token.position) = [] := by
    rw [List.filter_eq_nil_iff]
    intro a ha
    rcases List.mem_cons.1 ha with rfl | ha
    · simp
    · have hlt := (position_lt_of_split h).2 ha
      simp
      omega
  rw [namesBefore, h, List.filter_append, hearlier, hlater, List.append_nil]

theorem namesBefore_of_stop {cause : RouteCause} (h : (scan route).stop = some (p, cause)) :
    namesBefore route p = namesIn ((scan route).tokens.map Token.command) := by
  rw [namesBefore, List.filter_eq_self.2 fun a ha => by simpa using position_lt_of_stop h ha]

/-! ## Runs -/

namespace Setup

variable {s : Setup}

/-- A run either fails with the leftmost offence, or there is none and it comes to records. -/
theorem run_cases (hangle : Number.isFinite s.anchor.angle = true) (route : String) (net : Net)
    (board : Board) :
    (∃ p fault, IsLeftmost s.globalNets board.nets route p fault ∧
      ((s.run route net).on board).1 = .error fault ∧
      ((s.run route net).on board).2.nets = board.nets.insertAll (namesBefore route p)) ∨
    (∀ p kind fault, ¬Offence s.globalNets board.nets route p kind fault) ∧
      (∃ records, ((s.run route net).on board).1 = .ok records) ∧
      ((s.run route net).on board).2.nets =
        board.nets.insertAll (namesIn ((scan route).tokens.map Token.command)) := by
  obtain ⟨turn, hturn⟩ := exists_turn hangle
  obtain ⟨result, after, hruns, hrun⟩ := run_on hturn route net board
  rw [hrun]
  generalize hnets : after.nets = nets at hruns
  cases hruns with
  | @refused earlier token later fault htokens haccepted hrefused =>
    refine .inl ⟨_, fault, isLeftmost_of_refused htokens haccepted hrefused, rfl, ?_⟩
    rw [namesBefore_of_split htokens]
    rfl
  | stopped haccepted hstop =>
    refine .inl ⟨_, _, isLeftmost_of_stop haccepted hstop, rfl, ?_⟩
    rw [namesBefore_of_stop hstop]
    rfl
  | finished haccepted hstop =>
    exact .inr ⟨fun _ _ _ => not_offence_of_accepted haccepted hstop, ⟨_, rfl⟩, rfl⟩

/-- A run fails with the fault of the leftmost offence and with no other. -/
theorem run_eq_error_iff (hangle : Number.isFinite s.anchor.angle = true) (route : String)
    (net : Net) (board : Board) (fault : Fault) :
    ((s.run route net).on board).1 = .error fault ↔
      ∃ p, IsLeftmost s.globalNets board.nets route p fault := by
  rcases run_cases hangle route net board with ⟨p, first, hleft, herror, -⟩ | ⟨hno, ⟨_, hok⟩, -⟩
  · constructor
    · intro h
      obtain rfl := Except.error.inj (herror.symm.trans h)
      exact ⟨p, hleft⟩
    · rintro ⟨q, hother⟩
      rw [← (hleft.unique hother).2]
      exact herror
  · constructor
    · intro h
      cases hok.symm.trans h
    · rintro ⟨q, ⟨kind, hoffence⟩, -⟩
      exact absurd hoffence (hno q kind fault)

/-- A run fails exactly if the route has an offence, with the fault of the leftmost one. Whatever
the offence, it lies in the route and its fault is of its kind; a fault of the route tells the whole
route and the place of the character that the offender starts with. The board takes in the names
that are called to the left of the offence, and all names if there is none. -/
theorem run_fails_at_leftmost_offence (hangle : Number.isFinite s.anchor.angle = true)
    (route : String) (net : Net) (board : Board) :
    let outcome := (s.run route net).on board
    ((∃ fault, outcome.1 = .error fault) ↔
      ∃ p kind fault, Offence s.globalNets board.nets route p kind fault) ∧
    (∀ fault, outcome.1 = .error fault ↔
      ∃ p, IsLeftmost s.globalNets board.nets route p fault) ∧
    (∀ p kind fault, Offence s.globalNets board.nets route p kind fault →
      p < route.length ∧ fault.kind? = some kind) ∧
    (∀ p cause, (scan route).stop = some (p, cause) →
      (⟨cause, some route, some p⟩ : RouteFault).kind ∈ [Kind.malformed, .badValue]) ∧
    (∀ p kind f, Offence s.globalNets board.nets route p kind (.route f) →
      f.route = some route ∧ f.position = some p ∧
        ∃ c, route.toList[p]? = some c ∧ c ∈ headsOf f.cause) ∧
    (∀ p fault, IsLeftmost s.globalNets board.nets route p fault →
      outcome.2.nets = board.nets.insertAll (namesBefore route p)) ∧
    ((∀ p kind fault, ¬Offence s.globalNets board.nets route p kind fault) →
      outcome.2.nets =
        board.nets.insertAll (namesIn ((scan route).tokens.map Token.command))) := by
  intro outcome
  have hiff := run_eq_error_iff hangle route net board
  refine ⟨?_, hiff, fun _ _ _ h => h.lt_and_kind?_eq, ?_, fun _ _ _ h => h.place, ?_, ?_⟩
  · constructor
    · rintro ⟨fault, h⟩
      obtain ⟨p, ⟨kind, hoffence⟩, -⟩ := (hiff fault).1 h
      exact ⟨p, kind, fault, hoffence⟩
    · rintro ⟨p, kind, fault, hoffence⟩
      rcases run_cases hangle route net board with ⟨_, first, -, herror, -⟩ | ⟨hno, -⟩
      · exact ⟨first, herror⟩
      · exact absurd hoffence (hno p kind fault)
  · intro p cause hstop
    obtain ⟨before, c, rest, -, -, -, -, -, hrefuses⟩ := exists_of_stop hstop
    rw [hrefuses.kind]
    split <;> simp
  · intro p fault hleft
    rcases run_cases hangle route net board with ⟨q, first, hfirst, -, hnets⟩ | ⟨hno, -⟩
    · rw [(hleft.unique hfirst).1]
      exact hnets
    · obtain ⟨⟨kind, hoffence⟩, -⟩ := hleft
      exact absurd hoffence (hno p kind fault)
  · intro hno
    rcases run_cases hangle route net board with ⟨p, fault, ⟨⟨kind, hoffence⟩, -⟩, -⟩ | ⟨-, -, h⟩
    · exact absurd hoffence (hno p kind fault)
    · exact h

/-- A via with the pen lifted stands before an unclosed name: it decides, and of the two names only
the one to the left of it is taken in. -/
theorem run_fails_at_leftmost_offence_before_others :
    let s : Setup := ⟨{ x := 10, y := 20 }, 0.25, 0.6, 0.3, true⟩
    let outcome := (s.run "f(0,0)<A>xv<B>(" Net.none).on ⟨.empty true, []⟩
    let first : Fault := .route ⟨.noCursor, some "f(0,0)<A>xv<B>(", some 10⟩
    outcome.1 = .error first ∧
      IsLeftmost true (.empty true) "f(0,0)<A>xv<B>(" 10 first ∧
      outcome.2.nets = (NetTable.empty true).insertAll ["A"] := by
  intro s outcome first
  obtain ⟨-, hiff, -, -, hplace, hnets, -⟩ :=
    run_fails_at_leftmost_offence (s := s) (by decide +kernel) "f(0,0)<A>xv<B>(" Net.none
      ⟨.empty true, []⟩
  have hoffender : (match outcome.1 with
      | .error (.route f) => decide (f = ⟨.noCursor, some "f(0,0)<A>xv<B>(", some 10⟩)
      | _ => false) = true := by decide +kernel
  split at hoffender
  · next f hfails =>
    obtain rfl := of_decide_eq_true hoffender
    obtain ⟨p, hleft⟩ := (hiff first).1 hfails
    obtain ⟨kind, hoffence⟩ := hleft.1
    obtain ⟨-, hposition, -⟩ := hplace p kind _ hoffence
    obtain rfl : 10 = p := Option.some.inj hposition
    have hbefore : namesBefore "f(0,0)<A>xv<B>(" 10 = ["A"] := by decide +kernel
    exact ⟨hfails, hleft, by rw [hnets 10 first hleft, hbefore]⟩
  · cases hoffender

end Setup

end CopperRoute.Route
