import CopperRoute.Proofs.Footprint.Nets
import CopperRoute.Proofs.Record.Figure

/-!
# Written records are read back

The text of records is read by a reader that knows only nodes, and each node is then taken for what
it says, `contents?`: a head, named fields, and a lock that is a flag, a field or left out. What a
record says is `Record.contents`, and it depends on neither format nor indent:

    records ──chunk──▶ text ──read──▶ nodes ──contents?──▶ contents

Main statement (`chunks_read_back`): the way through the text loses nothing and adds nothing.
-/

namespace CopperRoute

open Sexp

/-! ## What a node says -/

/-- What the node of a record says: its head, its fields in order, and whether it is locked. -/
structure Contents where
  head : String
  fields : List (String × List String)
  locked : Bool
deriving DecidableEq

namespace Sexp

def atom? : Sexp → Option String
  | bare s | quoted s => some s
  | list _ => none

/-- The lock that an item tells, as a flag or as a field. -/
def lock? : Sexp → Option Bool
  | bare word => if word == "locked" then some true else none
  | list [bare name, bare value] =>
    if name != "locked" then none
    else if value == "yes" then some true
    else if value == "no" then some false
    else none
  | _ => none

def field? : Sexp → Option (String × List String)
  | list (bare name :: atoms) => (atoms.mapM atom?).map (name, ·)
  | _ => none

/-- What a node says. Each of its items is a field, but for the lock, which is told once at most and
otherwise is open. -/
def contents? : Sexp → Option Contents
  | list (bare head :: items) =>
    let locks := items.filterMap lock?
    let fields := (items.filter fun item => (lock? item).isNone).mapM field?
    if locks.length ≤ 1 then fields.map (⟨head, ·, locks.head?.getD false⟩) else none
  | _ => none

end Sexp

/-! ## What a record says -/

namespace Record

def sizes : Record → List Float
  | segment s => [s.width]
  | via v => [v.size, v.drill]

def pointTexts (p : Point) (places : Nat) : List String :=
  [coordinateText p.x places, coordinateText p.y places]

/-- What a record says, its coordinates with `places` decimals. -/
def contents (places : Nat) (locked : Bool) : Record → Except Breakdown Contents
  | segment s => do
    let width ← sizeText s.width
    pure ⟨"segment",
      [("start", pointTexts s.start places), ("end", pointTexts s.stop places), ("width", [width]),
        ("layer", [s.layer.name]), ("net", [toString s.net.index])], locked⟩
  | via v => do
    let size ← sizeText v.size
    let drill ← sizeText v.drill
    pure ⟨"via",
      [("at", pointTexts v.centre places), ("size", [size]), ("drill", [drill]),
        ("layers", v.layers.map Layer.name), ("net", [toString v.net.index])], locked⟩

end Record

/-! ## Atoms -/

namespace Sexp

def isQuoted (s : String) : Bool := s.toList.head? == some '"'

def unquoted (s : String) : String :=
  if isQuoted s then String.ofList s.toList.tail.dropLast else s

def ofAtom (s : String) : Sexp := if isQuoted s then .quoted (unquoted s) else .bare s

/-- A text that stands as one atom. -/
inductive IsAtom : String → Prop
  | word {s : String} : IsWord s.toList → IsAtom s
  | quoted {s : String} : '"' ∉ s.toList → IsAtom ("\"" ++ s ++ "\"")

theorem isQuoted_of_isWord {s : String} (h : IsWord s.toList) : isQuoted s = false := by
  obtain ⟨hne, hplain⟩ := h
  obtain ⟨c, cs, hs⟩ := List.exists_cons_of_ne_nil hne
  have hc := hplain c (by simp [hs])
  simp only [isDelimiter, Bool.or_eq_false_iff] at hc
  simpa [isQuoted, hs] using hc.2

theorem unquoted_of_isWord {s : String} (h : IsWord s.toList) : unquoted s = s := by
  simp [unquoted, isQuoted_of_isWord h]

theorem unquoted_quoted (s : String) : unquoted ("\"" ++ s ++ "\"") = s := by
  simp [unquoted, isQuoted]

theorem atom?_ofAtom (s : String) : (ofAtom s).atom? = some (unquoted s) := by
  unfold ofAtom
  split
  · rfl
  · next h => simp [atom?, unquoted, h]

/-- An atom is read in front of any delimiter. -/
theorem Spells.atom {s : String} {ds : List Char} {d : Char} {ts : List Token}
    (h : Spells (d :: ds) ts) (hs : IsAtom s) (hd : isDelimiter d = true) :
    Spells (s.toList ++ d :: ds) ((ofAtom s).tokens ++ ts) := by
  cases hs with
  | word hw =>
    rw [ofAtom, isQuoted_of_isWord hw]
    simpa using h.bare hw hd
  | @quoted t ht =>
    have hquoted : ofAtom ("\"" ++ t ++ "\"") = .quoted t := by
      rw [ofAtom, unquoted_quoted]
      simp [isQuoted]
    rw [hquoted]
    simpa using (spells_quoted ht).append h

/-- Atoms with blanks between them, up to the end of their list. -/
theorem spells_atoms {atoms : List String} (h : ∀ s ∈ atoms, IsAtom s) :
    Spells ((" ".intercalate atoms).toList ++ [')'])
      (allTokens (atoms.map ofAtom) ++ [.closing]) := by
  induction atoms with
  | nil => exact spells_closing
  | cons s atoms ih =>
    obtain ⟨hs, hatoms⟩ := List.forall_mem_cons.1 h
    cases atoms with
    | nil => simpa using spells_closing.atom hs (by decide)
    | cons t atoms =>
      simpa using (spells_space.append (ih hatoms)).atom hs (by decide)

/-- A list whose first atom is a word. -/
theorem spells_list {head : String} {ds : List Char} {d : Char} {items : List Sexp}
    (hhead : IsWord head.toList) (hd : isDelimiter d = true)
    (h : Spells (d :: ds) (allTokens items ++ [.closing])) :
    Spells ('(' :: (head.toList ++ d :: ds)) (Sexp.list (.bare head :: items)).tokens := by
  have hspells := spells_opening.append (h.bare hhead hd)
  simpa using hspells

end Sexp

/-! ## Fields -/

namespace Field

def node (f : Field) : Sexp := .list (.bare f.name :: f.atoms.map ofAtom)

/-- A field that can be read: its name is a word, and each of its atoms is one atom. -/
structure IsFit (f : Field) : Prop where
  name : IsWord f.name.toList
  atoms : ∀ s ∈ f.atoms, IsAtom s

/-- A field that is read as `entry`, a name and the texts of atoms. The lock is told apart by its
name. -/
structure Tells (f : Field) (entry : String × List String) : Prop where
  isFit : f.IsFit
  entry_eq : (f.name, f.atoms.map unquoted) = entry
  ne_lock : f.name ≠ "locked"

variable {f : Field} {entry : String × List String}

theorem IsFit.spells (h : f.IsFit) : Spells f.text.toList f.node.tokens := by
  have hspells := spells_list h.name (by decide) (spells_space.append (spells_atoms h.atoms))
  simpa [text, node] using hspells

theorem field?_node (f : Field) : f.node.field? = some (f.name, f.atoms.map unquoted) := by
  have hatoms (atoms : List String) :
      (atoms.map ofAtom).mapM atom? = some (atoms.map unquoted) := by
    induction atoms with
    | nil => rfl
    | cons s atoms ih => simp [atom?_ofAtom, ih]
  simp [node, field?, hatoms]

theorem Tells.lock?_node (h : f.Tells entry) : f.node.lock? = none := by
  unfold node lock?
  split
  · next heq => cases heq
  · next heq =>
    obtain ⟨hname, -⟩ := List.cons.inj (Sexp.list.inj heq)
    obtain rfl := Sexp.bare.inj hname
    simp [h.ne_lock]
  · rfl

/-! ### The fields of records -/

theorem tells_word (name : String) {text : String} (hname : IsWord name.toList ∧ name ≠ "locked")
    (htext : IsWord text.toList) : Tells ⟨name, [text]⟩ (name, [text]) := by
  refine ⟨⟨hname.1, fun s hs => ?_⟩, by simp [unquoted_of_isWord htext], hname.2⟩
  obtain rfl := List.mem_singleton.1 hs
  exact .word htext

theorem tells_pointField (name : String) (hname : IsWord name.toList ∧ name ≠ "locked") (p : Point)
    (places : Nat) :
    (Record.pointField name p places).Tells (name, Record.pointTexts p places) := by
  have hx := Record.isWord_coordinateText p.x places
  have hy := Record.isWord_coordinateText p.y places
  refine ⟨⟨hname.1, fun s hs => ?_⟩, ?_, hname.2⟩
  · simp only [Record.pointField, List.mem_cons, List.not_mem_nil, or_false] at hs
    rcases hs with rfl | rfl
    · exact .word hx
    · exact .word hy
  · simp [Record.pointField, Record.pointTexts, unquoted_of_isWord hx, unquoted_of_isWord hy]

/-- The layers of a via stand between quotes. -/
theorem tells_layers (layers : List Layer) :
    Tells ⟨"layers", layers.map fun l => "\"" ++ l.name ++ "\""⟩
      ("layers", layers.map Layer.name) := by
  have hname : IsWord "layers".toList ∧ "layers" ≠ "locked" := by decide
  refine ⟨⟨hname.1, fun s hs => ?_⟩, by simp [unquoted_quoted], hname.2⟩
  obtain ⟨l, -, rfl⟩ := List.mem_map.1 hs
  exact .quoted (by cases l <;> decide)

end Field

/-! ## Outlines -/

namespace Record.Outline

/-- The field that tells whether a block is locked. -/
def lockField (locked : Bool) : Field := ⟨"locked", [if locked then "yes" else "no"]⟩

def node (o : Outline) (locked : Bool) : RecordFormat → Sexp
  | .kicad8 => .list (.bare o.head :: (o.front ++ lockField locked :: o.back).map Field.node)
  | .legacy => .list (.bare o.head ::
      ((if locked then [.bare "locked"] else []) ++ (o.front ++ o.back).map Field.node))

/-- An outline that is read as the head `head` with the fields `fields`. -/
structure Tells (o : Outline) (head : String) (fields : List (String × List String)) : Prop where
  head_eq : o.head = head
  isWord : IsWord head.toList
  fields : List.Forall₂ Field.Tells (o.front ++ o.back) fields

variable {o : Outline} {head : String} {fields : List (String × List String)}

theorem isFit_lockField (locked : Bool) : (lockField locked).IsFit := by
  have hname : IsWord "locked".toList := by decide
  refine ⟨hname, fun s hs => ?_⟩
  obtain rfl := List.mem_singleton.1 hs
  cases locked <;> exact .word (by decide)

theorem isFit_of_forall₂ {fs : List Field} (h : List.Forall₂ Field.Tells fs fields) :
    ∀ f ∈ fs, f.IsFit := by
  induction h with
  | nil => exact fun f hf => nomatch hf
  | cons hfirst _ ih => exact List.forall_mem_cons.2 ⟨hfirst.isFit, ih⟩

/-! ### From texts to nodes -/

/-- The fields of a block, each on a line of its own. -/
theorem spells_lines {fs : List Field} {indent : String} (hfs : ∀ f ∈ fs, f.IsFit)
    (hindent : ∀ c ∈ indent.toList, Text.isBlank c = true) :
    Spells (String.join (fs.map fun f => indent ++ indent ++ f.text ++ "\n")).toList
      (allTokens (fs.map Field.node)) := by
  induction fs with
  | nil => exact spells_nil
  | cons f fs ih =>
    obtain ⟨hf, hfs⟩ := List.forall_mem_cons.1 hfs
    have hbefore : Spells (indent ++ indent).toList [] := by
      rw [String.toList_append]
      exact (spells_blank hindent).append (spells_blank hindent)
    have hline := ((hbefore.append hf.spells).append spells_break).append (ih hfs)
    simpa using hline

/-- The fields of a line, with blanks between them. -/
theorem spells_row {fs : List Field} (hfs : ∀ f ∈ fs, f.IsFit) :
    Spells (" ".intercalate (fs.map Field.text)).toList (allTokens (fs.map Field.node)) := by
  induction fs with
  | nil => exact spells_nil
  | cons f fs ih =>
    obtain ⟨hf, hfs⟩ := List.forall_mem_cons.1 hfs
    cases fs with
    | nil => simpa using hf.spells
    | cons g fs =>
      simpa using hf.spells.append (spells_space.append (ih hfs))

theorem Tells.spells_block (h : o.Tells head fields) (locked : Bool) {indent : String}
    (hindent : ∀ c ∈ indent.toList, Text.isBlank c = true) :
    Spells (o.block locked indent).toList (o.node locked .kicad8).tokens := by
  obtain ⟨rfl, hhead, hfields⟩ := h
  have hfit : ∀ f ∈ o.front ++ lockField locked :: o.back, f.IsFit := by
    obtain ⟨hfront, hback⟩ := List.forall_mem_append.1 (isFit_of_forall₂ hfields)
    exact List.forall_mem_append.2 ⟨hfront, List.forall_mem_cons.2 ⟨isFit_lockField locked, hback⟩⟩
  have hend := (spells_blank hindent).append spells_closing
  have hlist := spells_list hhead (by decide)
    (spells_break.append ((spells_lines hfit hindent).append hend))
  have hspells := (spells_blank hindent).append hlist
  simpa [block, node, lockField] using hspells

theorem Tells.spells_line (h : o.Tells head fields) (locked : Bool) :
    Spells (o.line locked).toList (o.node locked .legacy).tokens := by
  obtain ⟨rfl, hhead, hfields⟩ := h
  have hrow := spells_space.append ((spells_row (isFit_of_forall₂ hfields)).append spells_closing)
  cases locked with
  | false => simpa [line, node] using spells_list hhead (by decide) hrow
  | true =>
    have hflag : Spells (' ' :: ("locked".toList ++ ' ' ::
        ((" ".intercalate ((o.front ++ o.back).map Field.text)).toList ++ [')'])))
        (allTokens (.bare "locked" :: (o.front ++ o.back).map Field.node) ++ [.closing]) := by
      have hword : IsWord "locked".toList := by decide
      simpa using spells_space.append (hrow.bare hword (by decide))
    simpa [line, node] using spells_list hhead (by decide) hflag

/-! ### From nodes to contents -/

theorem mapM_field? {fs : List Field} (h : List.Forall₂ Field.Tells fs fields) :
    (fs.map Field.node).mapM field? = some fields := by
  induction h with
  | nil => rfl
  | cons hfirst _ ih => simp [Field.field?_node, hfirst.entry_eq, ih]

theorem lock?_of_forall₂ {fs : List Field} (h : List.Forall₂ Field.Tells fs fields) :
    ∀ item ∈ fs.map Field.node, item.lock? = none := by
  induction h with
  | nil => exact fun item h => nomatch h
  | cons hfirst _ ih => exact List.forall_mem_cons.2 ⟨hfirst.lock?_node, ih⟩

/-- The lock stands anywhere among the fields. -/
theorem contents?_list (before : List Sexp) {after : List Sexp} {lock : Sexp} {locked : Bool}
    (hread : (before ++ after).mapM field? = some fields)
    (hopen : ∀ item ∈ before ++ after, item.lock? = none) (hlock : lock.lock? = some locked) :
    (list (.bare head :: (before ++ lock :: after))).contents? = some ⟨head, fields, locked⟩ := by
  obtain ⟨hbefore, hafter⟩ := List.forall_mem_append.1 hopen
  have hlocks : (before ++ lock :: after).filterMap lock? = [locked] := by
    rw [List.filterMap_append, List.filterMap_cons_some hlock,
      List.filterMap_eq_nil_iff.2 hbefore, List.filterMap_eq_nil_iff.2 hafter]
    rfl
  have hkept : (before ++ lock :: after).filter (fun item => (lock? item).isNone) =
      before ++ after := by
    rw [List.filter_append, List.filter_cons_of_neg (by simp [hlock]),
      List.filter_eq_self.2 fun item hi => by rw [hbefore item hi]; rfl,
      List.filter_eq_self.2 fun item hi => by rw [hafter item hi]; rfl]
  rw [contents?, hlocks, hkept, hread]
  rfl

/-- Without a lock a node is open. -/
theorem contents?_list_open {items : List Sexp} (hread : items.mapM field? = some fields)
    (hopen : ∀ item ∈ items, item.lock? = none) :
    (list (.bare head :: items)).contents? = some ⟨head, fields, false⟩ := by
  rw [contents?, List.filterMap_eq_nil_iff.2 hopen,
    List.filter_eq_self.2 fun item hi => by rw [hopen item hi]; rfl, hread]
  rfl

/-- Both formats of an outline say the same. -/
theorem Tells.contents?_node (h : o.Tells head fields) (locked : Bool) (format : RecordFormat) :
    (o.node locked format).contents? = some ⟨head, fields, locked⟩ := by
  obtain ⟨rfl, -, hfields⟩ := h
  have hread := mapM_field? hfields
  have hopen := lock?_of_forall₂ hfields
  cases format with
  | kicad8 =>
    have hfield : (lockField locked).node.lock? = some locked := by cases locked <;> decide +kernel
    rw [List.map_append] at hread hopen
    rw [node, List.map_append, List.map_cons]
    exact contents?_list _ hread hopen hfield
  | legacy =>
    cases locked with
    | false => exact contents?_list_open hread hopen
    | true =>
      have hflag : (Sexp.bare "locked").lock? = some true := by decide
      exact contents?_list [] hread hopen hflag

end Record.Outline

/-! ## Records -/

namespace Record

theorem sizeField_eq {name : String} {x : Float} {text : String} (h : sizeText x = .ok text) :
    sizeField name x = .ok ⟨name, [text]⟩ := by
  rw [sizeField, h]
  rfl

theorem netField_eq {net : Net} (h : Number.isWritable net.index = true) :
    netField net = .ok ⟨"net", [toString net.index]⟩ := by
  rw [netField, if_pos h]

theorem isWord_layerName (l : Layer) : IsWord l.name.toList := by
  cases l <;> decide

/-- A record with finite sizes and a net that can be written has an outline, and it is read as what
the record says. -/
theorem exists_outline {r : Record} (hsizes : ∀ x ∈ r.sizes, Number.isFinite x = true)
    (hnet : Number.isWritable r.net.index = true) (places : Nat) :
    ∃ o head fields, r.outline places = .ok o ∧ o.Tells head fields ∧
      ∀ locked, r.contents places locked = .ok ⟨head, fields, locked⟩ := by
  have hindex := Field.tells_word "net" (by decide) (Number.isWord_toString r.net.index)
  cases r with
  | segment s =>
    have hnet : netField s.net = _ := netField_eq hnet
    obtain ⟨width, hwidth⟩ := sizeText_of_isFinite (hsizes s.width (by simp [sizes]))
    have hstart := Field.tells_pointField "start" (by decide) s.start places
    have hend := Field.tells_pointField "end" (by decide) s.stop places
    have hword := Field.tells_word "width" (by decide) (isWord_sizeText hwidth)
    have hlayer := Field.tells_word "layer" (by decide) (isWord_layerName s.layer)
    have houtline : (segment s).outline places = .ok ⟨"segment",
        [pointField "start" s.start places, pointField "end" s.stop places, ⟨"width", [width]⟩],
        [⟨"layer", [s.layer.name]⟩, ⟨"net", [toString s.net.index]⟩]⟩ := by
      rw [outline, sizeField_eq hwidth, hnet]
      rfl
    have hfields := List.Forall₂.cons hstart (.cons hend (.cons hword (.cons hlayer
      (.cons hindex .nil))))
    refine ⟨_, "segment", _, houtline, ⟨rfl, by decide, hfields⟩, fun locked => ?_⟩
    rw [contents, hwidth]
    rfl
  | via v =>
    have hnet : netField v.net = _ := netField_eq hnet
    obtain ⟨size, hsize⟩ := sizeText_of_isFinite (hsizes v.size (by simp [sizes]))
    obtain ⟨drill, hdrill⟩ := sizeText_of_isFinite (hsizes v.drill (by simp [sizes]))
    have hcentre := Field.tells_pointField "at" (by decide) v.centre places
    have hword := Field.tells_word "size" (by decide) (isWord_sizeText hsize)
    have hword' := Field.tells_word "drill" (by decide) (isWord_sizeText hdrill)
    have hlayers := Field.tells_layers v.layers
    have houtline : (via v).outline places = .ok ⟨"via",
        [pointField "at" v.centre places, ⟨"size", [size]⟩, ⟨"drill", [drill]⟩,
          ⟨"layers", v.layers.map fun l => "\"" ++ l.name ++ "\""⟩],
        [⟨"net", [toString v.net.index]⟩]⟩ := by
      rw [outline, sizeField_eq hsize, sizeField_eq hdrill, hnet]
      rfl
    have hfields := List.Forall₂.cons hcentre (.cons hword (.cons hword' (.cons hlayers
      (.cons hindex .nil))))
    refine ⟨_, "via", _, houtline, ⟨rfl, by decide, hfields⟩, fun locked => ?_⟩
    rw [contents, hsize, hdrill]
    rfl

variable {r : Record} {o : Outline} {style : RecordStyle} {places : Nat} {head : String}
  {fields : List (String × List String)}

/-- The indent of a block leaves no trace. -/
theorem spells_node (hplaces : style.places = .ok places) (houtline : r.outline places = .ok o)
    (h : o.Tells head fields) {indent : String}
    (hindent : ∀ c ∈ indent.toList, Text.isBlank c = true) :
    ∃ text, r.node style indent = .ok text ∧
      Spells text.toList (o.node style.locked style.format).tokens := by
  obtain ⟨format, locked, precision⟩ := style
  rw [Record.node, hplaces]
  show ∃ text, (r.outline places >>= fun outline => _) = Except.ok text ∧ _
  rw [houtline]
  cases format with
  | kicad8 => exact ⟨_, rfl, h.spells_block locked hindent⟩
  | legacy => exact ⟨_, rfl, h.spells_line locked⟩

theorem spells_chunk (hplaces : style.places = .ok places) (houtline : r.outline places = .ok o)
    (h : o.Tells head fields) :
    ∃ text, r.chunk style = .ok text ∧
      Spells text.toList (o.node style.locked style.format).tokens := by
  have hindent : ∀ c ∈ "  ".toList, Text.isBlank c = true := List.all_eq_true.1 (by decide)
  obtain ⟨text, htext, hspells⟩ := spells_node hplaces houtline h hindent
  obtain ⟨format, locked, precision⟩ := style
  rw [chunk, htext]
  cases format with
  | kicad8 => exact ⟨_, rfl, by simpa using (spells_break.append hspells).append spells_break⟩
  | legacy => exact ⟨_, rfl, by simpa using hspells.append spells_break⟩

/-! ## Texts -/

/-- The number of decimals is the one that was asked for, or that of the format. Past the limit of
decimals no record is written. -/
theorem places_cases (style : RecordStyle) (hprecision : ∀ p ∈ style.precision, 0 ≤ p) :
    style.places = .ok ((style.precision.map Int.toNat).getD style.format.places) ∨
      (∃ p ∈ style.precision, placesLimit < p) ∧
        ∀ r : Record, r.chunk style = .error .unfitValue := by
  obtain ⟨format, locked, precision⟩ := style
  cases precision with
  | none => exact .inl rfl
  | some p =>
    have hp : 0 ≤ p := hprecision p rfl
    by_cases hlimit : p ≤ placesLimit
    · exact .inl (if_pos ⟨hp, hlimit⟩)
    · have hplaces : RecordStyle.places ⟨format, locked, some p⟩ = .error .unfitValue :=
        if_neg fun h => hlimit h.2
      refine .inr ⟨⟨p, rfl, by omega⟩, fun r => ?_⟩
      rw [chunk, node, hplaces]
      rfl

/-- The chunks of records in a row come to one node for each record. -/
theorem exists_chunks {records : List Record} (hplaces : style.places = .ok places)
    (hsizes : ∀ r ∈ records, ∀ x ∈ r.sizes, Number.isFinite x = true)
    (hnets : ∀ r ∈ records, Number.isWritable r.net.index = true) :
    ∃ contents chunks nodes,
      records.mapM (fun r => r.contents places style.locked) = .ok contents ∧
      records.mapM (fun r => r.chunk style) = .ok chunks ∧
      Spells (String.join chunks).toList (allTokens nodes) ∧
      nodes.map contents? = contents.map some := by
  induction records with
  | nil => exact ⟨[], [], [], rfl, rfl, spells_nil, rfl⟩
  | cons r records ih =>
    obtain ⟨hsize, hsizes⟩ := List.forall_mem_cons.1 hsizes
    obtain ⟨hnet, hnets⟩ := List.forall_mem_cons.1 hnets
    obtain ⟨contents, chunks, nodes, hcontents, hchunks, hspells, hsaid⟩ := ih hsizes hnets
    obtain ⟨o, head, fields, houtline, htells, hcontent⟩ := exists_outline hsize hnet places
    obtain ⟨text, htext, hspell⟩ := spells_chunk hplaces houtline htells
    refine ⟨⟨head, fields, style.locked⟩ :: contents, text :: chunks,
      o.node style.locked style.format :: nodes, ?_, ?_, ?_, ?_⟩
    · rw [List.mapM_cons, hcontent, hcontents]
      rfl
    · rw [List.mapM_cons, htext, hchunks]
      rfl
    · simpa using hspell.append hspells
    · rw [List.map_cons, List.map_cons, hsaid, htells.contents?_node]

/-- The text of records is read to its end and comes to one node for each record, in order, which
says what the record says. What it says depends neither on the format nor on the indent: at the same
number of decimals every style that locks alike writes the record as a single node that says the
same, and any blanks in the place of the indent leave the node as it is. Only where more decimals are
asked for than can be written there is no text. -/
theorem chunks_read_back (style : RecordStyle) (records : List Record)
    (hsizes : ∀ r ∈ records, ∀ x ∈ r.sizes, Number.isFinite x = true)
    (hnets : ∀ r ∈ records, Number.isWritable r.net.index = true)
    (hprecision : ∀ p ∈ style.precision, 0 ≤ p) :
    let places := (style.precision.map Int.toNat).getD style.format.places
    (∃ contents text nodes,
      records.mapM (fun r => r.contents places style.locked) = .ok contents ∧
      Footprint.recordsText style records = .ok text ∧
      read text = some nodes ∧ nodes.map contents? = contents.map some ∧
      ∀ r ∈ records, ∃ content, r.contents places style.locked = .ok content ∧
        ∀ other : RecordStyle, other.places = .ok places → other.locked = style.locked →
          ∃ node, node.contents? = some content ∧
            ∀ indent : String, (∀ c ∈ indent.toList, Text.isBlank c = true) →
              ∃ alone, r.node other indent = .ok alone ∧ read alone = some [node]) ∨
    (∃ p ∈ style.precision, placesLimit < p) ∧
      ∀ r : Record, r.chunk style = .error .unfitValue := by
  intro places
  refine (places_cases style hprecision).imp_left fun hplaces => ?_
  obtain ⟨contents, chunks, nodes, hcontents, hchunks, hspells, hsaid⟩ :=
    exists_chunks hplaces hsizes hnets
  refine ⟨contents, String.join chunks, nodes, hcontents, ?_, read_of_spells hspells, hsaid, ?_⟩
  · rw [Footprint.recordsText, hchunks]
    rfl
  · intro r hr
    obtain ⟨o, head, fields, houtline, htells, hcontent⟩ :=
      exists_outline (hsizes r hr) (hnets r hr) places
    refine ⟨⟨head, fields, style.locked⟩, hcontent style.locked, fun other hother hlocked => ?_⟩
    refine ⟨o.node other.locked other.format, ?_, fun indent hindent => ?_⟩
    · rw [htells.contents?_node, hlocked]
    · obtain ⟨alone, halone, hspell⟩ := spells_node hother houtline htells hindent
      exact ⟨alone, halone, read_of_spells (by simpa using hspell)⟩

/-- A segment and a via on the line format: trailing zeros and the sign of zero are gone, the quotes
of the layers are not part of what is said, and the flag stands for the lock. -/
theorem chunks_read_back_locked_line :
    let records : List Record :=
      [.segment ⟨⟨1.5, -0.0⟩, ⟨-2.25, 0.125⟩, 0.25, .back, ⟨3, "<odd name>"⟩⟩,
        .via ⟨⟨100.0, -2.25⟩, 1.0, 0.3, Layer.viaPair, Net.none⟩]
    let said : List Contents :=
      [⟨"segment", [("start", ["1.5", "0"]), ("end", ["-2.2", "0.1"]), ("width", ["0.25"]),
          ("layer", ["B.Cu"]), ("net", ["3"])], true⟩,
        ⟨"via", [("at", ["100", "-2.2"]), ("size", ["1"]), ("drill", ["0.3"]),
          ("layers", ["F.Cu", "B.Cu"]), ("net", ["0"])], true⟩]
    ∃ text nodes, Footprint.recordsText ⟨.legacy, true, some 1⟩ records = .ok text ∧
      read text = some nodes ∧ nodes.map contents? = said.map some := by
  intro records said
  obtain ⟨contents, text, nodes, hcontents, htext, hread, hsaid, -⟩ | ⟨⟨p, hp, hlimit⟩, -⟩ :=
    chunks_read_back ⟨.legacy, true, some 1⟩ records (by decide +kernel) (by decide +kernel)
      (by decide)
  · have hsays : (records.mapM fun r : Record => r.contents 1 true).toOption = some said := by
      decide +kernel
    obtain rfl : contents = said := by
      rw [show records.mapM (fun r : Record => r.contents 1 true) = .ok contents from hcontents]
        at hsays
      exact Option.some.inj hsays
    exact ⟨text, nodes, htext, hread, hsaid⟩
  · cases hp
    exact absurd hlimit (by decide)

/-- One decimal more than the limit, and of a plain segment nothing is left to read: there is no
text, in either format. -/
theorem chunks_not_read_back :
    let segment : Record := .segment ⟨⟨1.5, 2.0⟩, ⟨3.0, 4.25⟩, 0.25, .front, ⟨2, "ROW0"⟩⟩
    let style (format : RecordFormat) : RecordStyle := ⟨format, false, some 2147483648⟩
    (∀ x ∈ segment.sizes, Number.isFinite x = true) ∧
      Number.isWritable segment.net.index = true ∧
      ∀ format, ¬∃ text, Footprint.recordsText (style format) [segment] = .ok text := by
  intro segment style
  refine ⟨by decide +kernel, by decide +kernel, fun format => ?_⟩
  rintro ⟨text, htext⟩
  have hnone : Footprint.recordsText (style format) [segment] = .error .unfitValue := by
    cases format <;> rfl
  cases hnone.symm.trans htext

end Record

end CopperRoute
