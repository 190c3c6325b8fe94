import CopperRoute.Proofs.Route.Grammar

/-!
# Reading nodes

The text of a board is a row of nodes: atoms, and lists of nodes between parentheses. The reader here
knows nothing of records, only parentheses, blanks, bare atoms and atoms between double quotes:

    text ──tokens?──▶ tokens ──gather──▶ nodes

It takes a text as a whole or not at all. What it makes of a written text is proved piece by piece:
`Spells cs ts` says that `cs` comes to the tokens `ts` whatever follows it, pieces that spell tokens
are put together by `Spells.append`, and `read_of_spells` gets from the tokens to the nodes.
-/

namespace CopperRoute

/-- A node: an atom, bare or between double quotes, or a list of nodes. -/
inductive Sexp where
  | bare (text : String)
  | quoted (text : String)
  | list (items : List Sexp)

namespace Sexp

open CopperRoute.Text

/-! ## The reader -/

inductive Token where
  | opening
  | closing
  | bare (text : String)
  | quoted (text : String)

def isDelimiter (c : Char) : Bool := isBlank c || c == '(' || c == ')' || c == '"'

/-- The tokens of a text. There are none if an atom misses its closing quote. -/
def tokens? (cs : List Char) : Option (List Token) :=
  match cs with
  | [] => some []
  | c :: rest =>
    if isBlank c then tokens? rest
    else if c == '(' then (tokens? rest).map (.opening :: ·)
    else if c == ')' then (tokens? rest).map (.closing :: ·)
    else if c == '"' then
      match _h : Route.splitAtClose '"' rest with
      | none => none
      | some (body, behind) => (tokens? behind).map (.quoted (String.ofList body) :: ·)
    else
      let word := c :: rest.takeWhile fun a => !isDelimiter a
      (tokens? (rest.dropWhile fun a => !isDelimiter a)).map (.bare (String.ofList word) :: ·)
termination_by cs.length
decreasing_by
  · simp
  · simp
  · simp
  · have hle := Route.length_of_splitAtClose _h
    simp only [List.length_cons]
    omega
  · have hle := length_dropWhile_le (fun a => !isDelimiter a) rest
    simp only [List.length_cons]
    omega

/-- Gathers tokens to nodes. Kept back to front are the nodes so far, `items`, and those around each
list that is still open, `outer`. -/
def gather (items : List Sexp) (outer : List (List Sexp)) : List Token → Option (List Sexp)
  | [] => if outer.isEmpty then some items.reverse else none
  | .opening :: ts => gather [] (items :: outer) ts
  | .closing :: ts =>
    match outer with
    | [] => none
    | around :: outer => gather (.list items.reverse :: around) outer ts
  | .bare s :: ts => gather (.bare s :: items) outer ts
  | .quoted s :: ts => gather (.quoted s :: items) outer ts

/-- The nodes of a text. There are none unless it is read to its end and all its lists are closed. -/
def read (s : String) : Option (List Sexp) := (tokens? s.toList).bind (gather [] [])

/-! ## The tokens of nodes -/

mutual

def tokens : Sexp → List Token
  | bare s => [.bare s]
  | quoted s => [.quoted s]
  | list items => .opening :: (allTokens items ++ [.closing])

def allTokens : List Sexp → List Token
  | [] => []
  | node :: rest => node.tokens ++ allTokens rest

end

@[simp] theorem tokens_bare (s : String) : (bare s).tokens = [.bare s] := by rw [tokens]

@[simp] theorem tokens_quoted (s : String) : (quoted s).tokens = [.quoted s] := by rw [tokens]

@[simp] theorem tokens_list (items : List Sexp) :
    (list items).tokens = .opening :: (allTokens items ++ [.closing]) := by rw [tokens]

@[simp] theorem allTokens_nil : allTokens [] = [] := by rw [allTokens]

@[simp] theorem allTokens_cons (node : Sexp) (rest : List Sexp) :
    allTokens (node :: rest) = node.tokens ++ allTokens rest := by rw [allTokens]

@[simp] theorem allTokens_append (nodes rest : List Sexp) :
    allTokens (nodes ++ rest) = allTokens nodes ++ allTokens rest := by
  induction nodes with
  | nil => simp
  | cons node nodes ih => simp [ih]

mutual

/-- The tokens of a node are gathered to that node. -/
theorem gather_tokens (node : Sexp) (items : List Sexp) (outer : List (List Sexp))
    (ts : List Token) : gather items outer (node.tokens ++ ts) = gather (node :: items) outer ts := by
  cases node with
  | bare s => rw [tokens_bare]; rfl
  | quoted s => rw [tokens_quoted]; rfl
  | list inner =>
    rw [tokens_list, List.cons_append, List.append_assoc]
    show gather [] (items :: outer) (allTokens inner ++ _) = _
    rw [gather_allTokens, List.append_nil]
    show gather (.list inner.reverse.reverse :: items) outer ts = _
    rw [List.reverse_reverse]

theorem gather_allTokens (nodes items : List Sexp) (outer : List (List Sexp)) (ts : List Token) :
    gather items outer (allTokens nodes ++ ts) = gather (nodes.reverse ++ items) outer ts := by
  cases nodes with
  | nil => rw [allTokens]; rfl
  | cons node rest =>
    rw [allTokens, List.append_assoc, gather_tokens, gather_allTokens, List.reverse_cons,
      List.append_assoc]
    rfl

end

/-! ## Pieces of text -/

/-- A text that can stand as a bare atom. -/
structure IsWord (cs : List Char) : Prop where
  ne_nil : cs ≠ []
  plain : ∀ c ∈ cs, isDelimiter c = false

instance (cs : List Char) : Decidable (IsWord cs) :=
  decidable_of_iff (cs ≠ [] ∧ cs.all (isDelimiter · == false) = true)
    ⟨fun h => ⟨h.1, fun c hc => beq_iff_eq.1 (List.all_eq_true.1 h.2 c hc)⟩,
      fun h => ⟨h.ne_nil, List.all_eq_true.2 fun c hc => beq_iff_eq.2 (h.plain c hc)⟩⟩

/-- `cs` comes to the tokens `ts`, whatever follows it. -/
def Spells (cs : List Char) (ts : List Token) : Prop :=
  ∀ rest, tokens? (cs ++ rest) = (tokens? rest).map (ts ++ ·)

theorem Spells.append {cs ds : List Char} {ts us : List Token} (h : Spells cs ts)
    (h' : Spells ds us) : Spells (cs ++ ds) (ts ++ us) := by
  intro rest
  rw [List.append_assoc, h, h', Option.map_map]
  simp only [Function.comp_def, List.append_assoc]

theorem spells_nil : Spells [] [] := by
  intro rest
  simp

theorem spells_blank {cs : List Char} (h : ∀ c ∈ cs, isBlank c = true) : Spells cs [] := by
  induction cs with
  | nil => exact spells_nil
  | cons c cs ih =>
    intro rest
    rw [List.cons_append, tokens?, if_pos (h c List.mem_cons_self)]
    exact ih (fun a ha => h a (List.mem_cons_of_mem c ha)) rest

theorem spells_space : Spells [' '] [] := spells_blank (List.forall_mem_singleton.2 rfl)

theorem spells_break : Spells ['\n'] [] := spells_blank (List.forall_mem_singleton.2 rfl)

theorem spells_opening : Spells ['('] [.opening] := by
  intro rest
  rw [List.singleton_append, tokens?, if_neg (by decide), if_pos (by decide)]
  rfl

theorem spells_closing : Spells [')'] [.closing] := by
  intro rest
  rw [List.singleton_append, tokens?, if_neg (by decide), if_neg (by decide), if_pos (by decide)]
  rfl

theorem spells_quoted {body : List Char} (h : '"' ∉ body) :
    Spells ('"' :: body ++ ['"']) [.quoted (String.ofList body)] := by
  intro rest
  have hsplit := Route.splitAtClose_append h rest
  rw [List.append_assoc, List.cons_append, List.singleton_append, tokens?, if_neg (by decide),
    if_neg (by decide), if_neg (by decide), if_pos (by decide)]
  split
  · next hnone =>
    rw [hsplit] at hnone
    cases hnone
  · next body' behind hsome =>
    rw [hsplit] at hsome
    obtain ⟨rfl, rfl⟩ := Prod.mk.inj (Option.some.inj hsome)
    rfl

/-- A bare atom ends at the delimiter behind it. -/
theorem Spells.bare {w ds : List Char} {d : Char} {ts : List Token} (h : Spells (d :: ds) ts)
    (hw : IsWord w) (hd : isDelimiter d = true) :
    Spells (w ++ d :: ds) (.bare (String.ofList w) :: ts) := by
  intro rest
  obtain ⟨hne, hplain⟩ := hw
  obtain ⟨c, w, rfl⟩ := List.exists_cons_of_ne_nil hne
  obtain ⟨hc, hw⟩ := List.forall_mem_cons.1 hplain
  have hc : isBlank c = false ∧ (c == '(') = false ∧ (c == ')') = false ∧ (c == '"') = false := by
    simpa [isDelimiter, and_assoc] using hc
  have hplain : ∀ a ∈ w, (!isDelimiter a) = true := fun a ha => by rw [hw a ha]; rfl
  have htake : (w ++ d :: (ds ++ rest)).takeWhile (fun a => !isDelimiter a) = w := by
    rw [List.takeWhile_append_of_pos hplain, List.takeWhile_cons_of_neg (by simp [hd]),
      List.append_nil]
  have hdrop : (w ++ d :: (ds ++ rest)).dropWhile (fun a => !isDelimiter a) =
      d :: (ds ++ rest) := by
    rw [List.dropWhile_append_of_pos hplain, List.dropWhile_cons_of_neg (by simp [hd])]
  rw [List.append_assoc, List.cons_append, List.cons_append, tokens?]
  simp only [hc, Bool.false_eq_true, if_false]
  rw [htake, hdrop, ← List.cons_append, h rest, Option.map_map]
  rfl

/-- A text that spells the tokens of nodes is read as these nodes. -/
theorem read_of_spells {s : String} {nodes : List Sexp} (h : Spells s.toList (allTokens nodes)) :
    read s = some nodes := by
  have htokens := h []
  rw [List.append_nil, tokens?] at htokens
  rw [read, htokens]
  show gather [] [] (allTokens nodes ++ []) = some nodes
  rw [gather_allTokens]
  show some (nodes.reverse ++ []).reverse = some nodes
  rw [List.append_nil, List.reverse_reverse]

end Sexp

end CopperRoute
