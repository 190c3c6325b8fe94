import CopperRoute.Proofs.Route.Grammar
import CopperRoute.Proofs.Route.Lockstep
import CopperRoute.Proofs.Text.Runs

/-!
# Spelling a route in another way

    Respelled text text'   `text'` is the item `text` with other letters, separators or blanks
    Variant cs ds          `ds` is `cs` with items respelled and with other blanks between them

A text that is accepted and its variants are read as the same commands, at other places
(`Variant.scanFrom`), and tokens with the same commands run in lockstep. Main statement:
`run_variant`.
-/

namespace CopperRoute.Route

open CopperRoute.Text Session

/-! ## The relations -/

/-- `body` holds the words `x` and `y`, with separators between them and perhaps around them. -/
inductive Pair (x y : List Char) : List Char → Prop
  | intro {left gap right} : (∀ c ∈ left, isSeparator c = true) →
      (∀ c ∈ gap, isSeparator c = true) → gap ≠ [] → (∀ c ∈ right, isSeparator c = true) →
      Pair x y (left ++ x ++ gap ++ y ++ right)

/-- `body` is `name` with blanks around it, or without. -/
inductive Padded (name : List Char) : List Char → Prop
  | intro {left right} : (∀ c ∈ left, isBlank c = true) → (∀ c ∈ right, isBlank c = true) →
      Padded name (left ++ name ++ right)

/-- A word that stands in a position: separators end it, and so does the closing parenthesis. -/
structure PositionWord (word : List Char) : Prop where
  ne_nil : word ≠ []
  plain : ∀ c ∈ word, isSeparator c = false ∧ c ≠ ')'

/-- `text'` spells the same item as `text`, if `text` spells one. -/
inductive Respelled : List Char → List Char → Prop
  | front {c d} : c ∈ ['f', 'F'] → d ∈ ['f', 'F'] → Respelled [c] [d]
  | back {c d} : c ∈ ['b', 'B'] → d ∈ ['b', 'B'] → Respelled [c] [d]
  | via {c d} : c ∈ ['v', 'V'] → d ∈ ['v', 'V'] → Respelled [c] [d]
  | penUp {c d} : c ∈ ['x', 'X', '|'] → d ∈ ['x', 'X', '|'] → Respelled [c] [d]
  /-- other separators between the two words of a position and around them -/
  | point {x y body body'} : PositionWord x → PositionWord y → Pair x y body → Pair x y body' →
      Respelled ('(' :: (body ++ [')'])) ('(' :: (body' ++ [')']))
  /-- other blanks around a net name -/
  | net {name body body'} : '>' ∉ name → Padded name body → Padded name body' →
      Respelled ('<' :: (body ++ ['>'])) ('<' :: (body' ++ ['>']))

/-- The second text is a variant of the first: the same items, each perhaps respelled, and any
blanks between them. -/
inductive Variant : List Char → List Char → Prop
  | nil : Variant [] []
  | delete {c cs ds} : isBlank c = true → Variant cs ds → Variant (c :: cs) ds
  | insert {c cs ds} : isBlank c = true → Variant cs ds → Variant cs (c :: ds)
  | item {text text' cs ds} : Respelled text text' → Variant cs ds →
      Variant (text ++ cs) (text' ++ ds)

/-! ## Bodies -/

variable {x y name body body' : List Char}

/-- The runs of a pair are its words. -/
theorem Pair.splitRuns_eq (h : Pair x y body) (hx : PositionWord x) (hy : PositionWord y) :
    splitRuns isSeparator body = [x, y] := by
  cases h with
  | @intro left gap right hleft hgap hne hright =>
    have hplain {word : List Char} (hword : PositionWord word) :
        ∀ c ∈ word, isSeparator c = false := fun c hc => (hword.plain c hc).1
    have hbehindX : ∀ c ∈ (gap ++ (y ++ right)).head?, isSeparator c = true := by
      obtain ⟨a, rest, rfl⟩ := List.exists_cons_of_ne_nil hne
      simpa using hgap a List.mem_cons_self
    have hbehindY : ∀ c ∈ right.head?, isSeparator c = true :=
      fun c hc => hright c (List.mem_of_mem_head? hc)
    simp only [List.append_assoc]
    rw [splitRuns_append_of_all hleft, splitRuns_word_append hx.ne_nil (hplain hx) hbehindX,
      splitRuns_append_of_all hgap, splitRuns_word_append hy.ne_nil (hplain hy) hbehindY,
      splitRuns_eq_nil_of_all hright]

/-- A position depends on the runs in its parentheses only. -/
theorem position?_congr (h : splitRuns isSeparator body = splitRuns isSeparator body') :
    position? ('(' :: (body ++ [')'])) = position? ('(' :: (body' ++ [')'])) := by
  have hinner (cs : List Char) : dropClosing (dropOpening ('(' :: (cs ++ [')']))) = cs := by
    simp [dropOpening, dropClosing]
  rw [position?, position?, hinner, hinner, h]

/-- A character outside of a class is none of a text of the class. -/
theorem notMem_of_class {p : Char → Bool} {cs : List Char} {c : Char} (hc : p c = false)
    (h : ∀ a ∈ cs, p a = true) : c ∉ cs := by
  intro hm
  rw [h c hm] at hc
  cases hc

theorem Pair.close_notMem (h : Pair x y body) (hx : PositionWord x) (hy : PositionWord y) :
    ')' ∉ body := by
  have hclose : isSeparator ')' = false := by decide
  have hword {word : List Char} (hword : PositionWord word) : ')' ∉ word :=
    fun hm => (hword.plain ')' hm).2 rfl
  cases h with
  | intro hleft hgap _ hright =>
    simp [notMem_of_class hclose hleft, notMem_of_class hclose hgap,
      notMem_of_class hclose hright, hword hx, hword hy]

theorem Padded.close_notMem (h : Padded name body) (hname : '>' ∉ name) : '>' ∉ body := by
  have hclose : isBlank '>' = false := by decide
  cases h with
  | intro hleft hright =>
    simp [notMem_of_class hclose hleft, notMem_of_class hclose hright, hname]

theorem Padded.trim_eq (h : Padded name body) : trim body = trim name := by
  cases h with
  | intro hleft hright => exact trim_between hleft hright name

/-! ## Items -/

/-- What closes at one character has one body. -/
theorem body_unique {close : Char} {rest rest' : List Char} (h : close ∉ body) (h' : close ∉ body')
    (heq : body ++ close :: rest = body' ++ close :: rest') : body = body' ∧ rest = rest' := by
  have hsplit := splitAtClose_append h rest
  rw [heq, splitAtClose_append h' rest'] at hsplit
  obtain ⟨rfl, rfl⟩ := Prod.mk.inj (Option.some.inj hsplit)
  exact ⟨rfl, rfl⟩

/-- Where a scan does not stop, an item starts at every character that is not blank. -/
theorem exists_item_of_stop_eq_none {p : Nat} {c : Char} {cs : List Char}
    (hc : isBlank c = false) (h : (scanFrom p (c :: cs)).stop = none) :
    ∃ text command rest, Item text command ∧ text ++ rest = c :: cs := by
  rcases item_spec c cs with ⟨command, rest, text, -, htext, hsplit⟩ | ⟨cause, herror, -⟩
  · exact ⟨text, command, rest.1, htext, hsplit.symm⟩
  · rw [scanFrom_error hc herror] at h
    cases h

/-- Where a scan reads what can be respelled and does not stop, that is an item, and the text
respelled is one for the same command. -/
theorem Respelled.exists_item {text text' rest : List Char} (h : Respelled text text') {p : Nat}
    (hstop : (scanFrom p (text ++ rest)).stop = none) :
    ∃ command, Item text command ∧ Item text' command := by
  cases h with
  | front hc hd => exact ⟨_, .front (by simpa using hc), .front (by simpa using hd)⟩
  | back hc hd => exact ⟨_, .back (by simpa using hc), .back (by simpa using hd)⟩
  | via hc hd => exact ⟨_, .via (by simpa using hc), .via (by simpa using hd)⟩
  | penUp hc hd => exact ⟨_, .penUp (by simpa using hc), .penUp (by simpa using hd)⟩
  | @point x y body body' hx hy hbody hbody' =>
    have hclose := hbody.close_notMem hx hy
    obtain ⟨text, command, rest', hitem, heq⟩ := exists_item_of_stop_eq_none (by decide) hstop
    cases hitem with
    | @point other target hother htarget =>
      have heq' : other ++ ')' :: rest' = body ++ ')' :: rest := by simpa using heq
      obtain ⟨rfl, -⟩ := body_unique hother hclose heq'
      have hruns : splitRuns isSeparator other = splitRuns isSeparator body' := by
        rw [hbody.splitRuns_eq hx hy, hbody'.splitRuns_eq hx hy]
      exact ⟨_, .point hother htarget,
        .point (hbody'.close_notMem hx hy) (position?_congr hruns ▸ htarget)⟩
    | front h | back h | via h | penUp h => simp_all
    | net => simp at heq
  | @net name body body' hname hbody hbody' =>
    obtain ⟨text, command, rest', hitem, heq⟩ := exists_item_of_stop_eq_none (by decide) hstop
    cases hitem with
    | @net other stripped hother hgiven hstripped =>
      have heq' : other ++ '>' :: rest' = body ++ '>' :: rest := by simpa using heq
      obtain ⟨rfl, -⟩ := body_unique hother (hbody.close_notMem hname) heq'
      -- both bodies are trimmed to what is left of the name
      have htrim : trim body' = trim other := hbody'.trim_eq.trans hbody.trim_eq.symm
      have hgiven' : ∃ c ∈ body', isBlank c = false := by
        rwa [← trim_ne_nil_iff, htrim, trim_ne_nil_iff]
      have hstripped' : Stripped body' stripped := by rwa [← trim_eq_iff, htrim, trim_eq_iff]
      exact ⟨_, .net hother hgiven hstripped,
        .net (hbody'.close_notMem hname) hgiven' hstripped'⟩
    | front h | back h | via h | penUp h => simp_all
    | point => simp at heq

/-! ## Texts -/

/-- A variant of an accepted text is accepted, as the same commands. The induction is on how the
variant comes about; an item stands at the head of both texts, a blank perhaps of one only. -/
theorem Variant.scanFrom {cs ds : List Char} (h : Variant cs ds) {p : Nat} (p' : Nat)
    (hstop : (scanFrom p cs).stop = none) :
    (Route.scanFrom p' ds).stop = none ∧
      (Route.scanFrom p' ds).tokens.map Token.command =
        (Route.scanFrom p cs).tokens.map Token.command := by
  induction h generalizing p p' with
  | nil => simp
  | delete hc _ ih =>
    rw [scanFrom_blank hc] at hstop ⊢
    exact ih p' hstop
  | insert hc _ ih =>
    rw [scanFrom_blank hc]
    exact ih (p' + 1) hstop
  | item htext _ ih =>
    obtain ⟨command, hitem, hitem'⟩ := htext.exists_item hstop
    rw [scanFrom_item hitem] at hstop ⊢
    rw [scanFrom_item hitem']
    obtain ⟨hstop', hcommands⟩ := ih (p' + _) hstop
    exact ⟨hstop', by simp only [List.map_cons, hcommands]⟩

/-! ## Runs -/

/-- The run of an accepted route comes to what is drawn. -/
theorem Setup.run_of_draw_ok {s : Setup} {route : String} {net : Net} {board after : Board}
    {records : List Record} (hstop : (scan route).stop = none)
    (h : (s.draw route { net := net } (scan route).tokens).on board = (.ok records, after)) :
    ∃ final, (s.run route net).on board = (.ok records, final) ∧ final.nets = after.nets := by
  unfold run
  dsimp only
  rw [on_bind_of_ok h, hstop]
  exact ⟨_, rfl, rfl⟩

/-- A variant of an accepted route is accepted as the same commands, and is run like it: from the
same net, with the same anchor and sizes and on a board with the same nets it draws the same records
and leaves the same nets, or both fail at tokens of the same number, with corresponding faults. -/
theorem Setup.run_variant {route route' : String} (hvariant : Variant route.toList route'.toList)
    (hscan : (scan route).stop = none) :
    (scan route').stop = none ∧
    (scan route').tokens.map Token.command = (scan route).tokens.map Token.command ∧
    ∀ (s : Setup) (net : Net) (board board' : Board), board.nets = board'.nets →
      (∃ records after after',
        (s.run route net).on board = (.ok records, after) ∧
        (s.run route' net).on board' = (.ok records, after') ∧ after.nets = after'.nets) ∨
      ∃ i token token' fault fault' after after',
        (scan route).tokens[i]? = some token ∧ (scan route').tokens[i]? = some token' ∧
        FailsAt s route { net := net } board (scan route).tokens i fault after ∧
        FailsAt s route' { net := net } board' (scan route').tokens i fault' after' ∧
        (s.run route net).on board = (.error fault, after) ∧
        (s.run route' net).on board' = (.error fault', after') ∧
        fault.kind? = fault'.kind? ∧
        Corresponds route token.position route' token'.position fault fault' ∧
        after.nets = after'.nets := by
  obtain ⟨hscan', hcommands⟩ := hvariant.scanFrom 0 hscan
  refine ⟨hscan', hcommands, fun s net board board' hnets => ?_⟩
  rcases s.draw_inStep route route' { net := net } hcommands.symm hnets with
    ⟨records, after, after', hdraw, hdraw', hafter⟩ |
    ⟨i, token, token', fault, fault', after, after', hat, hat', hfails, hfails', hfault, hafter⟩
  · obtain ⟨final, hrun, hfinal⟩ := run_of_draw_ok hscan hdraw
    obtain ⟨final', hrun', hfinal'⟩ := run_of_draw_ok hscan' hdraw'
    exact .inl ⟨records, final, final', hrun, hrun', hfinal.trans (hafter.trans hfinal'.symm)⟩
  · exact .inr ⟨i, token, token', fault, fault', after, after', hat, hat', hfails, hfails',
      on_bind_of_error hfails.draw_eq, on_bind_of_error hfails'.draw_eq, hfault.kind?_eq, hfault,
      hafter⟩

/-- Where no nets are offered, a route and its variant fail at the token that calls one, with one
cause, each at its own place. -/
theorem Setup.run_variant_without_nets :
    let route := "f(0,0)<A>v"
    let route' := " F( 0,, 0)\n< A >V"
    let s : Setup := ⟨{ x := 10, y := 20 }, 0.25, 0.6, 0.3, false⟩
    let board : Board := ⟨.empty true, []⟩
    Variant route.toList route'.toList ∧ (scan route).stop = none ∧ (scan route').stop = none ∧
      ((s.run route Net.none).on board).1 = .error (.route ⟨.noGlobalNets, some route, some 6⟩) ∧
      ∃ (i : Nat) (token token' : Token), token.position = 6 ∧
        (scan route).tokens[i]? = some token ∧ (scan route').tokens[i]? = some token' ∧
        ((s.run route' Net.none).on board).1 =
          .error (.route ⟨.noGlobalNets, some route', some token'.position⟩) := by
  intro route route' s board
  have hvariant : Variant route.toList route'.toList := by
    have hall {p : Char → Bool} {cs : List Char} (h : cs.all p = true) : ∀ c ∈ cs, p c = true :=
      List.all_eq_true.1 h
    have hzero : PositionWord ['0'] :=
      ⟨by decide, List.forall_mem_singleton.2 ⟨by decide, by decide⟩⟩
    have hfront : Respelled ['f'] ['F'] := .front (by decide) (by decide)
    have horigin : Respelled ['(', '0', ',', '0', ')'] ['(', ' ', '0', ',', ',', ' ', '0', ')'] :=
      .point hzero hzero
        (@Pair.intro _ _ [] [','] [] (hall rfl) (hall rfl) (by decide) (hall rfl))
        (@Pair.intro _ _ [' '] [',', ',', ' '] [] (hall rfl) (hall rfl) (by decide) (hall rfl))
    have hnet : Respelled ['<', 'A', '>'] ['<', ' ', 'A', ' ', '>'] :=
      .net (by decide) (@Padded.intro ['A'] [] [] (hall rfl) (hall rfl))
        (@Padded.intro ['A'] [' '] [' '] (hall rfl) (hall rfl))
    have hvia : Respelled ['v'] ['V'] := .via (by decide) (by decide)
    have hroute : route.toList = ['f'] ++ (['(', '0', ',', '0', ')'] ++
        (['<', 'A', '>'] ++ (['v'] ++ []))) := by decide +kernel
    have hroute' : route'.toList = ' ' :: (['F'] ++ (['(', ' ', '0', ',', ',', ' ', '0', ')'] ++
        ('\n' :: (['<', ' ', 'A', ' ', '>'] ++ (['V'] ++ []))))) := by decide +kernel
    rw [hroute, hroute']
    exact .insert (c := ' ') (by decide) (.item hfront (.item horigin
      (.insert (c := '\n') (by decide) (.item hnet (.item hvia .nil)))))
  have hscan : (scan route).stop = none := by decide +kernel
  obtain ⟨hscan', -, hruns⟩ := run_variant hvariant hscan
  have hfails : (match ((s.run route Net.none).on board).1 with
      | .error (.route f) => decide (f = ⟨.noGlobalNets, some route, some 6⟩)
      | _ => false) = true := by decide +kernel
  refine ⟨hvariant, hscan, hscan', ?_⟩
  rcases hruns s Net.none board board rfl with ⟨records, after, after', hrun, -⟩ |
    ⟨i, token, token', fault, fault', after, after', hat, hat', -, -, hrun, hrun', -, hfault, -⟩
  · rw [hrun] at hfails
    cases hfails
  · rw [hrun] at hfails ⊢
    rw [hrun']
    cases hfault with
    | route =>
      obtain ⟨rfl, -, hposition⟩ := RouteFault.mk.inj (of_decide_eq_true hfails)
      exact ⟨by rw [Option.some.inj hposition], i, token, token', Option.some.inj hposition, hat,
        hat', rfl⟩
    | other hother =>
      cases fault with
      | route f => exact absurd rfl (hother f)
      | _ => cases hfails

end CopperRoute.Route
