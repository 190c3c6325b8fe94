import CopperRoute.Proofs.Text.Trim
import CopperRoute.Route.Scan

/-!
# The grammar of routes

    Item text command      `text` is one item and stands for `command`
    Spells p cs tokens     `cs`, which starts at position `p`, is items and blanks, read as `tokens`
    Refuses c rest cause   `c` with `rest` behind it starts no item, because of `cause`

The scan of a route is described by these three relations, none of which looks at how the scan
advances. `scanFrom_append` says that a spelled part is read on its own, whatever follows it; from
there `scan_eq_iff` (what is accepted), `Tiles` (how the tokens lie in the route) and the longest
spelled part before the place where a scan stops.
-/

namespace CopperRoute.Route

open CopperRoute.Text

/-! ## The relations -/

/-- The text of an item and the command that it stands for. -/
inductive Item : List Char → Command → Prop
  | front {c} : c = 'f' ∨ c = 'F' → Item [c] (.layer .front)
  | back {c} : c = 'b' ∨ c = 'B' → Item [c] (.layer .back)
  | via {c} : c = 'v' ∨ c = 'V' → Item [c] .via
  | penUp {c} : c = 'x' ∨ c = 'X' ∨ c = '|' → Item [c] .penUp
  /-- a position reaches to the first closing parenthesis -/
  | point {body target} : ')' ∉ body → position? ('(' :: (body ++ [')'])) = some target →
      Item ('(' :: (body ++ [')'])) (.point target)
  /-- a net name reaches to the first closing angle bracket -/
  | net {body name} : '>' ∉ body → (∃ c ∈ body, isBlank c = false) → Stripped body name →
      Item ('<' :: (body ++ ['>'])) (.net (String.ofList name))

/-- Items and blanks from position `p` on, and the tokens that they are. -/
inductive Spells : Nat → List Char → List Token → Prop
  | nil {p} : Spells p [] []
  | blank {p c cs tokens} : isBlank c = true → Spells (p + 1) cs tokens → Spells p (c :: cs) tokens
  | item {p text command cs tokens} : Item text command → Spells (p + text.length) cs tokens →
      Spells p (text ++ cs) (⟨p, String.ofList text, command⟩ :: tokens)

/-- Why the character `c` with `rest` behind it starts no item. -/
inductive Refuses : Char → List Char → RouteCause → Prop
  | openPosition {rest} : ')' ∉ rest → Refuses '(' rest .openPosition
  | badPosition {body rest} : ')' ∉ body → position? ('(' :: (body ++ [')'])) = none →
      Refuses '(' (body ++ ')' :: rest) (.badPosition (String.ofList ('(' :: (body ++ [')']))))
  | openNet {rest} : '>' ∉ rest → Refuses '<' rest .openNet
  | blankNet {body rest} : (∀ c ∈ body, isBlank c = true) →
      Refuses '<' (body ++ '>' :: rest) .blankNet
  | unknownCharacter {c rest} : c ∉ ['f', 'F', 'b', 'B', 'v', 'V', 'x', 'X', '|', '(', '<'] →
      Refuses c rest (.unknownCharacter c)

/-- How tokens lie in a text: each is the part of the text at its position, none reaches into the
next one, and outside of them there are only blanks. -/
structure Tiles (cs : List Char) (tokens : List Token) : Prop where
  slice : ∀ token ∈ tokens, token.text ≠ "" ∧
    (cs.drop token.position).take token.text.length = token.text.toList
  apart : tokens.Pairwise fun a b => a.position + a.text.length ≤ b.position
  blank : ∀ i (h : i < cs.length),
    (∀ token ∈ tokens, ¬(token.position ≤ i ∧ i < token.position + token.text.length)) →
      isBlank cs[i] = true

/-- `before` is the longest part of `cs` from its start on that is spelled. -/
def IsLongestSpelled (cs before : List Char) : Prop :=
  (before <+: cs ∧ ∃ tokens, Spells 0 before tokens) ∧
    ∀ other tokens, other <+: cs → Spells 0 other tokens → other.length ≤ before.length

/-! ## Items -/

/-- The part before the first closing character is split off. -/
theorem splitAtClose_append {close : Char} {body : List Char} (h : close ∉ body)
    (rest : List Char) : splitAtClose close (body ++ close :: rest) = some (body, rest) := by
  induction body with
  | nil => simp [splitAtClose]
  | cons c cs ih =>
    obtain ⟨hc, hcs⟩ : close ≠ c ∧ close ∉ cs := by simpa using h
    rw [List.cons_append, splitAtClose, if_neg (by simpa using Ne.symm hc), ih hcs]
    rfl

/-- An item starts with a character that is not blank. -/
theorem Item.exists_cons {text : List Char} {command : Command} (h : Item text command) :
    ∃ c tail, text = c :: tail ∧ isBlank c = false := by
  cases h with
  | front h => rcases h with rfl | rfl <;> exact ⟨_, [], rfl, by decide⟩
  | back h => rcases h with rfl | rfl <;> exact ⟨_, [], rfl, by decide⟩
  | via h => rcases h with rfl | rfl <;> exact ⟨_, [], rfl, by decide⟩
  | penUp h => rcases h with rfl | rfl | rfl <;> exact ⟨_, [], rfl, by decide⟩
  | point => exact ⟨'(', _, rfl, by decide⟩
  | net => exact ⟨'<', _, rfl, by decide⟩

/-- What `item` reads is an item of the grammar, or it tells why there is none. -/
theorem item_spec (c : Char) (cs : List Char) :
    (∃ command rest text, item c cs = .ok (command, rest) ∧ Item text command ∧
      c :: cs = text ++ rest.1) ∨
    ∃ cause, item c cs = .error cause ∧ Refuses c cs cause := by
  unfold item
  split
  · next h => exact .inl ⟨_, _, [c], rfl, .front (by simpa using h), rfl⟩
  split
  · next h => exact .inl ⟨_, _, [c], rfl, .back (by simpa using h), rfl⟩
  split
  · next h => exact .inl ⟨_, _, [c], rfl, .via (by simpa using h), rfl⟩
  split
  · next h => exact .inl ⟨_, _, [c], rfl, .penUp (by simpa [or_assoc] using h), rfl⟩
  split
  · next h =>
    obtain rfl := beq_iff_eq.1 h
    split
    · next hs => exact .inr ⟨_, rfl, .openPosition (splitAtClose_eq_none_iff.1 hs)⟩
    · next body rest hs =>
      obtain ⟨rfl, hbody⟩ := splitAtClose_eq_some hs
      dsimp only [List.cons_append]
      cases hp : position? ('(' :: (body ++ [')'])) with
      | some target => exact .inl ⟨_, _, '(' :: (body ++ [')']), rfl, .point hbody hp, by simp⟩
      | none => exact .inr ⟨_, rfl, .badPosition hbody hp⟩
  split
  · next h =>
    obtain rfl := beq_iff_eq.1 h
    split
    · next hs => exact .inr ⟨_, rfl, .openNet (splitAtClose_eq_none_iff.1 hs)⟩
    · next body rest hs =>
      obtain ⟨rfl, hbody⟩ := splitAtClose_eq_some hs
      have hblank : (trim body).isEmpty = true ↔ ∀ c ∈ body, isBlank c = true := by
        rw [List.isEmpty_iff, trim_eq_nil_iff, List.all_eq_true]
      by_cases hb : (trim body).isEmpty = true
      · rw [if_pos hb]
        exact .inr ⟨_, rfl, .blankNet (hblank.1 hb)⟩
      · rw [if_neg hb]
        have hgiven : ∃ c ∈ body, isBlank c = false := by simpa [hblank] using hb
        exact .inl ⟨_, _, '<' :: (body ++ ['>']), rfl, .net hbody hgiven (stripped_trim body),
          by simp⟩
  · refine .inr ⟨_, rfl, .unknownCharacter ?_⟩
    simp_all

/-- Every item of the grammar is read as the command it stands for, whatever follows it. -/
theorem item_append {text : List Char} {command : Command} (h : Item text command)
    (rest : List Char) :
    ∃ c tail le, text = c :: tail ∧ item c (tail ++ rest) = .ok (command, ⟨rest, le⟩) := by
  cases h with
  | front h => rcases h with rfl | rfl <;> exact ⟨_, [], Nat.le_refl _, rfl, rfl⟩
  | back h => rcases h with rfl | rfl <;> exact ⟨_, [], Nat.le_refl _, rfl, rfl⟩
  | via h => rcases h with rfl | rfl <;> exact ⟨_, [], Nat.le_refl _, rfl, rfl⟩
  | penUp h => rcases h with rfl | rfl | rfl <;> exact ⟨_, [], Nat.le_refl _, rfl, rfl⟩
  | @point body target hbody hp =>
    refine ⟨'(', body ++ [')'], by simp; omega, rfl, ?_⟩
    -- the body holds no closing character, so the split is behind the item whatever follows
    have hsplit : splitAtClose ')' (body ++ [')'] ++ rest) = some (body, rest) := by
      simpa using splitAtClose_append hbody rest
    unfold item
    rw [if_neg (by decide), if_neg (by decide), if_neg (by decide), if_neg (by decide),
      if_pos (by decide)]
    split
    · next hs => simp only [hsplit, reduceCtorEq] at hs
    · next hs =>
      simp only [hsplit, Option.some.injEq, Prod.mk.injEq] at hs
      obtain ⟨rfl, rfl⟩ := hs
      dsimp only [List.cons_append]
      rw [hp]
  | @net body name hbody hgiven hname =>
    refine ⟨'<', body ++ ['>'], by simp; omega, rfl, ?_⟩
    have hsplit : splitAtClose '>' (body ++ ['>'] ++ rest) = some (body, rest) := by
      simpa using splitAtClose_append hbody rest
    obtain ⟨a, ha, hblank⟩ := hgiven
    have hempty : ¬(trim body).isEmpty = true := by
      rw [List.isEmpty_iff, trim_eq_nil_iff, List.all_eq_true]
      exact fun hall => by simp [hall a ha] at hblank
    unfold item
    rw [if_neg (by decide), if_neg (by decide), if_neg (by decide), if_neg (by decide),
      if_neg (by decide), if_pos (by decide)]
    split
    · next hs => simp only [hsplit, reduceCtorEq] at hs
    · next hs =>
      simp only [hsplit, Option.some.injEq, Prod.mk.injEq] at hs
      obtain ⟨rfl, rfl⟩ := hs
      dsimp only
      rw [if_neg hempty, trim_eq_of_stripped hname]

/-- Where `item` reads nothing, no item of the grammar starts. -/
theorem not_prefix_of_item_error {c : Char} {cs text : List Char} {cause : RouteCause}
    {command : Command} (h : item c cs = .error cause) (ht : Item text command) :
    ¬text <+: c :: cs := by
  rintro ⟨rest, hrest⟩
  obtain ⟨a, tail, le, rfl, hitem⟩ := item_append ht rest
  rw [List.cons_append] at hrest
  obtain ⟨rfl, rfl⟩ := List.cons.inj hrest
  rw [hitem] at h
  cases h

/-! ## Unfolding the scan -/

@[simp] theorem scanFrom_nil (p : Nat) : scanFrom p [] = ⟨[], none⟩ := by
  rw [scanFrom.eq_def]

theorem scanFrom_blank {p : Nat} {c : Char} {cs : List Char} (h : isBlank c = true) :
    scanFrom p (c :: cs) = scanFrom (p + 1) cs := by
  rw [scanFrom.eq_def]
  dsimp only
  rw [if_pos h]

theorem scanFrom_error {p : Nat} {c : Char} {cs : List Char} {cause : RouteCause}
    (hc : isBlank c = false) (h : item c cs = .error cause) :
    scanFrom p (c :: cs) = ⟨[], some (p, cause)⟩ := by
  rw [scanFrom.eq_def]
  dsimp only
  rw [if_neg (by simp [hc]), h]

/-- An item gives one token, and the scan goes on right behind it. -/
theorem scanFrom_item {p : Nat} {text rest : List Char} {command : Command}
    (h : Item text command) :
    scanFrom p (text ++ rest) =
      ⟨⟨p, String.ofList text, command⟩ :: (scanFrom (p + text.length) rest).tokens,
        (scanFrom (p + text.length) rest).stop⟩ := by
  obtain ⟨c, tail, hc, hblank⟩ := h.exists_cons
  obtain ⟨c', tail', le, hc', hitem⟩ := item_append h rest
  obtain ⟨rfl, rfl⟩ := List.cons.inj (hc.symm.trans hc')
  have hsize : (tail ++ rest).length + 1 - rest.length = text.length := by
    simp [hc]
    omega
  have htake : (c :: (tail ++ rest)).take text.length = text := by
    rw [← List.cons_append, ← hc, List.take_left]
  rw [hc, List.cons_append, scanFrom.eq_def]
  dsimp only
  rw [if_neg (by simp [hblank]), hitem]
  dsimp only
  rw [hsize, htake, ← hc]

/-! ## Spelled parts -/

/-- A spelled part is read on its own, and the scan goes on behind it as if it started there. -/
theorem scanFrom_append {p : Nat} {cs : List Char} {tokens : List Token} (h : Spells p cs tokens)
    (rest : List Char) :
    scanFrom p (cs ++ rest) =
      ⟨tokens ++ (scanFrom (p + cs.length) rest).tokens,
        (scanFrom (p + cs.length) rest).stop⟩ := by
  induction h with
  | nil => rfl
  | @blank p c cs tokens hc _ ih =>
    rw [List.cons_append, scanFrom_blank hc, ih, List.length_cons, Nat.add_right_comm,
      Nat.add_assoc]
  | @item p text command cs tokens ht _ ih =>
    rw [List.append_assoc, scanFrom_item ht, ih, List.length_append, Nat.add_assoc]
    rfl

/-- A spelled text is accepted, with the tokens that it spells. -/
theorem scanFrom_of_spells {p : Nat} {cs : List Char} {tokens : List Token}
    (h : Spells p cs tokens) : scanFrom p cs = ⟨tokens, none⟩ := by
  simpa using scanFrom_append h []

/-- Every scan reads a spelled part, and either that is all or what follows is refused. -/
theorem exists_spelled (p : Nat) (cs : List Char) :
    ∃ before after, cs = before ++ after ∧ Spells p before (scanFrom p cs).tokens ∧
      (after = [] ∧ (scanFrom p cs).stop = none ∨
        ∃ c rest cause, after = c :: rest ∧ isBlank c = false ∧ item c rest = .error cause ∧
          Refuses c rest cause ∧ (scanFrom p cs).stop = some (p + before.length, cause)) := by
  -- by length, since an item takes several characters at once
  induction hn : cs.length using Nat.strongRecOn generalizing p cs with
  | _ n ih =>
    cases cs with
    | nil =>
      rw [scanFrom_nil]
      exact ⟨[], [], rfl, .nil, .inl ⟨rfl, rfl⟩⟩
    | cons c cs =>
      by_cases hc : isBlank c = true
      · obtain ⟨before, after, hcs, hspell, hend⟩ := ih cs.length (by simp [← hn]) (p + 1) cs rfl
        rw [scanFrom_blank hc]
        refine ⟨c :: before, after, by rw [hcs, List.cons_append], .blank hc hspell, ?_⟩
        simpa [Nat.add_comm, Nat.add_left_comm] using hend
      · have hc : isBlank c = false := by simpa using hc
        rcases item_spec c cs with ⟨command, rest, text, hitem, htext, hsplit⟩ | ⟨cause, hitem, hr⟩
        · obtain ⟨a, tail, rfl, -⟩ := htext.exists_cons
          have hlen : rest.1.length < n := by
            rw [← hn, hsplit]
            simp only [List.length_append, List.length_cons]
            omega
          obtain ⟨before, after, hrest, hspell, hend⟩ :=
            ih rest.1.length hlen (p + (a :: tail).length) rest.1 rfl
          rw [Nat.add_assoc, ← List.length_append] at hend
          rw [hsplit, scanFrom_item htext]
          exact ⟨a :: tail ++ before, after, by rw [List.append_assoc, ← hrest],
            .item htext hspell, hend⟩
        · rw [scanFrom_error hc hitem]
          exact ⟨[], c :: cs, rfl, .nil, .inr ⟨c, cs, cause, rfl, hc, hitem, hr, rfl⟩⟩

/-! ## Where the tokens lie -/

/-- The tokens of a spelled part tile any text that has the part at its place. -/
theorem Spells.slice {p : Nat} {cs : List Char} {tokens : List Token} (h : Spells p cs tokens)
    (left right : List Char) (hp : left.length = p) :
    ∀ token ∈ tokens, token.text ≠ "" ∧ p ≤ token.position ∧
      token.position + token.text.length ≤ p + cs.length ∧
      ((left ++ cs ++ right).drop token.position).take token.text.length = token.text.toList := by
  induction h generalizing left with
  | nil => simp
  | @blank p c cs tokens _ _ ih =>
    intro token hm
    obtain ⟨hne, hlo, hhi, htake⟩ := ih (left ++ [c]) (by simp [hp]) token hm
    exact ⟨hne, by omega, by simp; omega, by simpa using htake⟩
  | @item p text command cs tokens ht _ ih =>
    obtain ⟨c, tail, hc, -⟩ := ht.exists_cons
    intro token hm
    rcases List.mem_cons.1 hm with rfl | hm
    · refine ⟨by simp [hc], Nat.le_refl p, by simp, ?_⟩
      simp [← hp]
    · obtain ⟨hne, hlo, hhi, htake⟩ := ih (left ++ text) (by simp [hp]) token hm
      exact ⟨hne, by omega, by simp; omega, by simpa using htake⟩

/-- The text of a token is an item for its command. -/
theorem Spells.exists_item {p : Nat} {cs : List Char} {tokens : List Token} (h : Spells p cs tokens)
    {token : Token} (hm : token ∈ tokens) : Item token.text.toList token.command := by
  induction h with
  | nil => cases hm
  | blank _ _ ih => exact ih hm
  | item ht _ ih =>
    rcases List.mem_cons.1 hm with rfl | hm
    · simpa using ht
    · exact ih hm

theorem Spells.apart {p : Nat} {cs : List Char} {tokens : List Token} (h : Spells p cs tokens) :
    tokens.Pairwise fun a b => a.position + a.text.length ≤ b.position := by
  induction h with
  | nil => exact .nil
  | blank _ _ ih => exact ih
  | @item p text command cs tokens _ hs ih =>
    refine .cons (fun token hm => ?_) ih
    -- only the length of what stands to the left counts
    simpa using (hs.slice (List.replicate (p + text.length) ' ') [] (by simp) token hm).2.1

/-- Outside of its tokens a spelled part is blank. -/
theorem Spells.blank_outside {p : Nat} {cs : List Char} {tokens : List Token}
    (h : Spells p cs tokens) (i : Nat) (hi : i < cs.length)
    (hout : ∀ token ∈ tokens,
      ¬(token.position ≤ p + i ∧ p + i < token.position + token.text.length)) :
    isBlank cs[i] = true := by
  induction h generalizing i with
  | nil => simp at hi
  | @blank p c cs tokens hc _ ih =>
    cases i with
    | zero => exact hc
    | succ i =>
      rw [List.getElem_cons_succ]
      exact ih i (by simpa using hi) fun token hm h => hout token hm (by omega)
  | @item p text command cs tokens _ _ ih =>
    -- the first token covers the item itself
    have hfar : text.length ≤ i := by
      have := hout _ List.mem_cons_self
      simp at this
      omega
    rw [List.getElem_append_right hfar]
    refine ih (i - text.length) (by simp at hi; omega) fun token hm h => ?_
    exact hout token (List.mem_cons_of_mem _ hm) (by omega)

/-- The tokens of a spelled text tile it. -/
theorem Spells.tiles {cs : List Char} {tokens : List Token} (h : Spells 0 cs tokens) :
    Tiles cs tokens where
  slice token hm := by
    obtain ⟨hne, -, -, htake⟩ := h.slice [] [] rfl token hm
    exact ⟨hne, by simpa using htake⟩
  apart := h.apart
  blank i hi hout := h.blank_outside i hi (by simpa using hout)

/-! ## What is accepted, and where a scan stops -/

/-- A route is accepted with certain tokens exactly if it spells them. -/
theorem scan_eq_iff {route : String} {tokens : List Token} :
    scan route = ⟨tokens, none⟩ ↔ Spells 0 route.toList tokens := by
  constructor
  · intro h
    obtain ⟨before, after, hcs, hspell, hend⟩ := exists_spelled 0 route.toList
    rw [show scanFrom 0 route.toList = ⟨tokens, none⟩ from h] at hspell hend
    obtain rfl : after = [] := by simpa using hend
    rwa [hcs, List.append_nil]
  · exact scanFrom_of_spells

/-- Where the scan of a route stops, a spelled part ends before a character that is refused. -/
theorem exists_of_stop {route : String} {p : Nat} {cause : RouteCause}
    (h : (scan route).stop = some (p, cause)) :
    ∃ before c rest, route.toList = before ++ c :: rest ∧ before.length = p ∧
      Spells 0 before (scan route).tokens ∧ isBlank c = false ∧ item c rest = .error cause ∧
      Refuses c rest cause := by
  obtain ⟨before, after, hcs, hspell, ⟨-, hnone⟩ | ⟨c, rest, cause', rfl, hc, hi, hr, hstop⟩⟩ :=
    exists_spelled 0 route.toList
  · rw [show (scanFrom 0 route.toList).stop = some (p, cause) from h] at hnone
    cases hnone
  · rw [show (scanFrom 0 route.toList).stop = some (p, cause) from h] at hstop
    obtain ⟨rfl, rfl⟩ : p = before.length ∧ cause = cause' := by simpa using hstop
    exact ⟨before, c, rest, hcs, rfl, hspell, hc, hi, hr⟩

/-- A spelled part never reaches past the place where the scan stops. -/
theorem length_le_of_spells {route : String} {p : Nat} {cause : RouteCause}
    (h : (scan route).stop = some (p, cause)) {other : List Char} {tokens : List Token}
    (hpre : other <+: route.toList) (hs : Spells 0 other tokens) : other.length ≤ p := by
  obtain ⟨rest, hrest⟩ := hpre
  have hstop : (scanFrom other.length rest).stop = some (p, cause) := by
    have hscan := scanFrom_append hs rest
    rw [hrest, Nat.zero_add] at hscan
    rw [← h, scan, hscan]
  obtain ⟨before, after, -, -, ⟨-, hnone⟩ | ⟨c, tail, cause', -, -, -, -, hsome⟩⟩ :=
    exists_spelled other.length rest
  · rw [hstop] at hnone
    cases hnone
  · rw [hstop] at hsome
    obtain ⟨rfl, -⟩ : p = other.length + before.length ∧ _ := by simpa using hsome
    exact Nat.le_add_right ..

/-- Only a closed position that cannot be read is a bad value; all else that is refused is
malformed. -/
theorem Refuses.kind {c : Char} {rest : List Char} {cause : RouteCause} (h : Refuses c rest cause)
    (route : Option String) (position : Option Nat) :
    (⟨cause, route, position⟩ : RouteFault).kind =
      if c = '(' ∧ ')' ∈ rest then .badValue else .malformed := by
  cases h with
  | openPosition h => rw [if_neg (fun hc => h hc.2)]; rfl
  | badPosition => rw [if_pos ⟨rfl, by simp⟩]; rfl
  | openNet => rw [if_neg (by simp)]; rfl
  | blankNet => rw [if_neg (by simp)]; rfl
  | unknownCharacter h => rw [if_neg (fun hc => h (by simp [hc.1]))]; rfl

/-- The scan accepts a route exactly if it is spelled by the grammar, with the tokens that it
spells, and tokens of a spelled text tile it. Otherwise the tokens are those of the longest spelled
part, and the scan stops right behind it, at a character that starts no item. -/
theorem scan_spells_or_stops (route : String) :
    ((scan route).stop = none ↔ ∃ tokens, Spells 0 route.toList tokens) ∧
    (∀ tokens, Spells 0 route.toList tokens → (scan route).tokens = tokens) ∧
    (∀ part tokens, Spells 0 part tokens → Tiles part tokens) ∧
    ∀ p cause, (scan route).stop = some (p, cause) →
      (∀ before, IsLongestSpelled route.toList before ↔ before = route.toList.take p) ∧
      Spells 0 (route.toList.take p) (scan route).tokens ∧
      ∃ c rest, route.toList.drop p = c :: rest ∧ isBlank c = false ∧
        (∀ text command, Item text command → ¬text <+: c :: rest) ∧ Refuses c rest cause ∧
        ∀ f : RouteFault, f.cause = cause →
          f.kind = if c = '(' ∧ ')' ∈ rest then .badValue else .malformed := by
  refine ⟨⟨fun h => ⟨(scan route).tokens, scan_eq_iff.1 ?_⟩, ?_⟩, ?_, fun _ _ h => h.tiles, ?_⟩
  · rw [← h]
  · rintro ⟨tokens, h⟩
    rw [scan_eq_iff.2 h]
  · intro tokens h
    rw [scan_eq_iff.2 h]
  intro p cause hstop
  obtain ⟨before, c, rest, hcs, rfl, hspell, hc, hitem, hrefuse⟩ := exists_of_stop hstop
  have htake : route.toList.take before.length = before := by rw [hcs, List.take_left]
  have hdrop : route.toList.drop before.length = c :: rest := by rw [hcs, List.drop_left]
  have hpre : before <+: route.toList := ⟨_, hcs.symm⟩
  rw [htake]
  refine ⟨fun other => ⟨?_, ?_⟩, hspell, c, rest, hdrop, hc,
    fun _ _ => not_prefix_of_item_error hitem, hrefuse, ?_⟩
  · rintro ⟨⟨hother, tokens, htokens⟩, hlongest⟩
    have hle : other.length ≤ before.length := length_le_of_spells hstop hother htokens
    have hge : before.length ≤ other.length := hlongest before _ hpre hspell
    exact (List.prefix_of_prefix_length_le hother hpre hle).eq_of_length (Nat.le_antisymm hle hge)
  · rintro rfl
    exact ⟨⟨hpre, _, hspell⟩, fun _ _ hp hs => length_le_of_spells hstop hp hs⟩
  · rintro ⟨cause', position, place⟩ rfl
    exact hrefuse.kind position place

end CopperRoute.Route
