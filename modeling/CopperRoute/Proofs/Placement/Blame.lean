import CopperRoute.Proofs.Fault.Context
import CopperRoute.Proofs.Placement.Isolation
import CopperRoute.Proofs.Settings.Agreement

/-!
# Which footprint is blamed

The footprints of a document are checked one after another, and of each footprint first its shape,
then its parameters and then its place:

    definition ─▶ a table? ─▶ parameters ─▶ name ─▶ place ─▶ instance

All of them work on one board, so that whether a footprint is accepted can depend on those before
it, never on those behind. Main statement (`ofValue_blames_first`): a document is accepted exactly if
its footprints are, each on the board that those before it left (`AllAccepted`), and of a document
that is not, the first footprint that is refused is told, by its own name (`Refused`).

One kind of name cannot be told: a whole number that is too long to be written. Under such a name no
footprint is accepted. Refused parameters are still blamed on it, but the report cannot be told.
-/

namespace CopperRoute

open Session

/-! ## Reports -/

namespace Report

/-- The text of the report shows `text` under `name`, on a line of its own. -/
def Shows (r : Report) (name text : String) : Prop :=
  ∃ front rest, r.fullText = front ++ ("\n  " ++ s!"{name}: {text}") ++ rest

/-- A section holds each of its lines. -/
theorem titled_of_mem {line : String} {lines : List String} (h : line ∈ lines) (title : String) :
    ∃ front rest, titled title lines = front ++ ("\n  " ++ line) ++ rest := by
  obtain ⟨earlier, later, rfl⟩ := List.append_of_mem h
  refine ⟨s!"\n\n{title}:" ++ String.join (earlier.map ("\n  " ++ ·)),
    String.join (later.map ("\n  " ++ ·)), ?_⟩
  rw [titled, if_neg (by simp), List.map_append, List.map_cons, String.join_append,
    String.join_cons]
  simp only [String.append_assoc]

/-- The text of a report shows all that its context holds. -/
theorem shows_of_mem {r : Report} {name : String} {value : Value}
    (h : (name, value) ∈ r.context) : r.Shows name value.shown := by
  let line (e : String × Value) : String := s!"{e.1}: {e.2.shown}"
  have hline : line (name, value) ∈ r.context.map line := List.mem_map_of_mem h
  obtain ⟨front, rest, hlines⟩ := titled_of_mem hline "Context"
  unfold Shows fullText
  rw [hlines]
  exact ⟨r.message ++ front, rest ++ titled "Suggestions" (r.suggestions.map ("- " ++ ·)),
    by simp only [line, String.append_assoc]⟩

end Report

/-! ## Faults of parameters -/

/-- A fault that says nothing of a footprint: the report on a parameter, or a breakdown. -/
def Fault.IsNameless : Fault → Prop
  | parameter _ none | breakdown _ => True
  | _ => False

namespace Footprint

variable {α : Type} {fault : Fault} {board after : Board}

theorem isNameless_of_refuse {cause : ParameterCause}
    (h : (refuse cause : Except Fault α) = .error fault) : fault.IsNameless := by
  unfold refuse Fault.ofWritable at h
  split at h <;> cases h <;> trivial

theorem isNameless_of_judged {takes breaks : Prop} {x : Except Fault α}
    (h : Judged takes breaks x) (hx : x = .error fault) : fault.IsNameless := by
  cases h with
  | taken a _ => cases hx
  | refused cause _ _ =>
    cases hx
    trivial
  | broken cause _ _ =>
    cases hx
    trivial

theorem isNameless_of_refuseNames {unknown : List Value}
    (h : (refuseNames unknown : Except Fault α) = .error fault) : fault.IsNameless := by
  unfold refuseNames at h
  split at h
  · exact isNameless_of_refuse h
  · cases h
    trivial

theorem isNameless_of_refuseItems {items : List Value}
    (h : (refuseItems items : Except Fault α) = .error fault) : fault.IsNameless := by
  unfold refuseItems at h
  dsimp only at h
  split at h
  · cases h
    trivial
  · exact isNameless_of_refuseNames h

theorem isNameless_of_named {params : Value} (h : named params = .error fault) :
    fault.IsNameless := by
  unfold named at h
  generalize params.bare = bare at h
  cases bare with
  | table t =>
    dsimp only at h
    split at h
    · cases h
    · exact isNameless_of_refuseNames h
  | list _ | pair _ _ | set _ | text _ | bytes _ => exact isNameless_of_refuseItems h
  | _ =>
    cases h
    trivial

/-- On a board that takes names in, the faults of parameters do not yet say of which footprint they
are. -/
theorem isNameless_of_ofParameters {params : Value} {settings : Settings}
    (hopen : board.nets.allocate = true)
    (h : (ofParameters params settings).on board = (.error fault, after)) : fault.IsNameless := by
  cases hnamed : named params with
  | error other =>
    unfold ofParameters at h
    rw [hnamed, on_bind_of_error (on_lift ..)] at h
    cases h
    exact isNameless_of_named hnamed
  | ok t =>
    rcases ofParameters_eq_error hnamed h with hx | hx | ⟨k, hx⟩ | hx
    · exact isNameless_of_judged (judged_route t) hx
    · exact isNameless_of_judged (judged_routes t) hx
    · exact isNameless_of_judged (judged_taken k _) hx
    · exact isNameless_of_judged (judged_net hopen t) (congrArg Prod.fst hx)

end Footprint

/-! ## Faults of places -/

/-- A fault of the place of the footprint `name`: a report that names it, or a breakdown. -/
inductive Fault.OfPlace (name : String) : Fault → Prop
  | text (s : String) : OfPlace name (anchor (.badText name s))
  | value (v : Value) : OfPlace name (anchor (.badValue name v))
  | breakdown (cause : Breakdown) : OfPlace name (.breakdown cause)

/-- What is told of a place names the footprint. -/
theorem Fault.OfPlace.report {name : String} {fault : Fault} (h : fault.OfPlace name) :
    (∃ cause, fault = .breakdown cause) ∨
      ∃ (told : Report) (rest : String), fault.report? = some told ∧ told.kind = .configuration ∧
        told.message = s!"Invalid placement for footprint '{name}': {rest}" := by
  cases h with
  | text s => exact .inr ⟨_, s, rfl, rfl, rfl⟩
  | value v => exact .inr ⟨_, v.written, rfl, rfl, rfl⟩
  | breakdown cause => exact .inl ⟨cause, rfl⟩

namespace Anchor

variable {fault : Fault} {name : String}

theorem ofPlace_of_refuse {v : Value}
    (h : (.error (.ofWritable v.isWritable (.anchor (.badValue name v))) : Except Fault Anchor) =
      .error fault) : fault.OfPlace name := by
  unfold Fault.ofWritable at h
  split at h
  · cases h
    exact .value v
  · cases h
    exact .breakdown .unfitValue

/-- No number is refused, it can only be past the range of doubles. -/
theorem breakdown_of_number {v : Value} (h : number v = .error fault) :
    ∃ cause, fault = .breakdown cause := by
  unfold number at h
  split at h
  · split at h
    · cases h
    · cases h
      exact ⟨_, rfl⟩
  · cases h
  · cases h
    exact ⟨_, rfl⟩

/-- All faults of an anchor that stands under a footprint are faults of its place. -/
theorem ofPlace_of_ofValue {v : Value} (h : ofValue v name = .error fault) :
    fault.OfPlace name := by
  unfold ofValue at h
  split at h
  · cases h
  · next s =>
    cases hs : ofExpression s with
    | ok anchor =>
      rw [hs] at h
      cases h
    | error cause =>
      rw [hs] at h
      cases h
      exact .text s
  · dsimp only at h
    split at h
    · exact ofPlace_of_refuse h
    · next parts _ =>
      split at h
      · rcases bind_eq_error h with hnumbers | ⟨numbers, -, h⟩
        · obtain ⟨part, -, hpart⟩ := mapM_eq_error hnumbers
          obtain ⟨cause, rfl⟩ := breakdown_of_number hpart
          exact .breakdown cause
        · split at h
          · cases h
          · exact ofPlace_of_refuse h
      · exact ofPlace_of_refuse h

end Anchor

/-! ## Single footprints -/

namespace Instance

/-- The parameters that a definition gives. Without any they are an empty table. -/
def paramsOf (definition : Value) : Value :=
  let params := (definition.entries.get? "params").getD .null
  if params.isGiven then params else .table []

def placeOf (definition : Value) : Value := (definition.entries.get? "at").getD .null

/-- A definition is a table if there is one at all. -/
def IsTable (definition : Value) : Prop :=
  definition.isGiven = true → ∃ t, definition.bare = .table t

/-- The footprint under `key` is accepted on `board` as the instance `i`, and leaves `after`. -/
structure Accepted (settings : Settings) (board : Board) (key : Key) (definition : Value)
    (i : Instance) (after : Board) : Prop where
  shape : IsTable definition
  footprint :
    (Footprint.ofParameters (paramsOf definition) settings).on board = (.ok i.footprint, after)
  writable : key.isWritable = true
  name : i.name = key.shown
  anchor : Anchor.ofValue (placeOf definition) key.shown = .ok i.anchor

/-- The footprint under `key` is refused on `board` with a fault, and leaves a board: the first of
its checks that fails says what is told. -/
inductive Refused (settings : Settings) (board : Board) (key : Key) (definition : Value) :
    Fault → Board → Prop
  /-- the definition is no table, as is told of the footprint -/
  | shape {fault : Fault} {told : Report} :
      ¬IsTable definition → key.isWritable = true → fault.report? = some told →
      told.kind = .fileFormat → told.message = s!"Footprint '{key.shown}' must be a mapping" →
      Refused settings board key definition fault board
  /-- the parameters are refused, and their report has the footprint behind all that it had: it names
  the footprint, and can be told if the name can -/
  | parameters {own fault : Fault} {report told : Report} {after : Board} :
      IsTable definition →
      (Footprint.ofParameters (paramsOf definition) settings).on board = (.error own, after) →
      own.report? = some report → report.kind = .configuration → fault.report? = some told →
      told = { report with context := report.context ++ [("footprint", key.toValue)] } →
      told.Shows "footprint" key.shown →
      told.told = (if key.isWritable then .ok told.fullText else .error .unfitValue) →
      Refused settings board key definition fault after
  /-- the parameters are accepted and the place is refused, as is told of the footprint -/
  | place {f : Footprint} {fault : Fault} {told : Report} {after : Board} (rest : String) :
      IsTable definition → key.isWritable = true →
      (Footprint.ofParameters (paramsOf definition) settings).on board = (.ok f, after) →
      Anchor.ofValue (placeOf definition) key.shown = .error fault → fault.report? = some told →
      told.kind = .configuration →
      told.message = s!"Invalid placement for footprint '{key.shown}': {rest}" →
      Refused settings board key definition fault after
  /-- the work on the parameters breaks down -/
  | brokenParameters {cause : Breakdown} {after : Board} :
      IsTable definition →
      (Footprint.ofParameters (paramsOf definition) settings).on board =
        (.error (.breakdown cause), after) →
      Refused settings board key definition (.breakdown cause) after
  /-- the parameters are accepted and the work on the place breaks down -/
  | brokenPlace {f : Footprint} {cause : Breakdown} {after : Board} :
      IsTable definition → key.isWritable = true →
      (Footprint.ofParameters (paramsOf definition) settings).on board = (.ok f, after) →
      Anchor.ofValue (placeOf definition) key.shown = .error (.breakdown cause) →
      Refused settings board key definition (.breakdown cause) after
  /-- the definition is no table, and the name cannot be written into a message -/
  | brokenShape :
      ¬IsTable definition → key.isWritable = false →
      Refused settings board key definition (.breakdown .unfitValue) board
  /-- the parameters are accepted, and the name cannot be written for an instance -/
  | brokenName {f : Footprint} {after : Board} :
      IsTable definition →
      (Footprint.ofParameters (paramsOf definition) settings).on board = (.ok f, after) →
      key.isWritable = false → Refused settings board key definition (.breakdown .unfitValue) after

variable {settings : Settings} {file : String} {key : Key} {definition : Value} {i : Instance}
  {fault : Fault} {board after : Board}

theorem bare_of_isTable (h : IsTable definition) :
    (if definition.isGiven then definition else .table []).bare = .table definition.entries := by
  by_cases hgiven : definition.isGiven = true
  · obtain ⟨t, ht⟩ := h hgiven
    rw [if_pos hgiven, Value.entries, ht]
  · rw [if_neg hgiven, Value.entries_of_not_given (by simpa using hgiven)]
    rfl

theorem ofEntry_of_isTable (h : IsTable definition) (settings : Settings) (file : String)
    (key : Key) :
    ofEntry settings file key definition = (do
      let footprint ← tryCatch (Footprint.ofParameters (paramsOf definition) settings) fun fault =>
        throw (blame key fault)
      if !key.isWritable then throw (.breakdown .unfitValue)
      let anchor ← Anchor.ofValue (placeOf definition) key.shown
      pure ⟨key.shown, anchor, footprint⟩) := by
  unfold ofEntry
  dsimp only
  rw [bare_of_isTable h]
  rfl

/-- A definition that is no table is refused before anything else is looked at. -/
theorem on_ofEntry_of_not_isTable (h : ¬IsTable definition) (settings : Settings) (file : String)
    (key : Key) (board : Board) :
    (ofEntry settings file key definition).on board =
      (.error (.ofWritable key.isWritable (.placement (.footprint key) file)), board) := by
  obtain ⟨hgiven, hbare⟩ := Classical.not_imp.1 h
  unfold ofEntry
  dsimp only
  rw [if_pos hgiven]
  split
  · next t ht => exact absurd ⟨t, ht⟩ hbare
  · rfl

/-- Refused parameters are blamed on the footprint. -/
theorem on_ofEntry_of_error (h : IsTable definition)
    (hparams : (Footprint.ofParameters (paramsOf definition) settings).on board =
      (.error fault, after)) (file : String) (key : Key) :
    (ofEntry settings file key definition).on board = (.error (blame key fault), after) := by
  rw [ofEntry_of_isTable h]
  apply on_bind_of_error
  rw [on_tryCatch, hparams]
  rfl

/-- Behind its parameters come the name of a footprint and its place. -/
theorem on_ofEntry_of_ok {f : Footprint} (h : IsTable definition)
    (hparams : (Footprint.ofParameters (paramsOf definition) settings).on board = (.ok f, after))
    (file : String) (key : Key) :
    (ofEntry settings file key definition).on board =
      (if key.isWritable then
        (Anchor.ofValue (placeOf definition) key.shown).map (⟨key.shown, ·, f⟩)
      else .error (.breakdown .unfitValue), after) := by
  have hretold : (tryCatch (Footprint.ofParameters (paramsOf definition) settings)
      fun fault => throw (blame key fault)).on board = (.ok f, after) := by
    rw [on_tryCatch, hparams]
  rw [ofEntry_of_isTable h, on_bind_of_ok hretold]
  cases key.isWritable with
  | false => rfl
  | true =>
    cases Anchor.ofValue (placeOf definition) key.shown with
    | error fault => rfl
    | ok anchor => rfl

/-- An entry makes an instance exactly if it is accepted. -/
theorem on_ofEntry_eq_ok_iff :
    (ofEntry settings file key definition).on board = (.ok i, after) ↔
      Accepted settings board key definition i after := by
  constructor
  · intro h
    by_cases hshape : IsTable definition
    · rcases hparams : (Footprint.ofParameters (paramsOf definition) settings).on board with
        ⟨fault | f, between⟩
      · rw [on_ofEntry_of_error hshape hparams] at h
        cases h
      · rw [on_ofEntry_of_ok hshape hparams] at h
        cases hwritable : key.isWritable with
        | false =>
          rw [hwritable] at h
          cases h
        | true =>
          cases hplace : Anchor.ofValue (placeOf definition) key.shown with
          | error fault =>
            rw [hwritable, hplace] at h
            cases h
          | ok anchor =>
            rw [hwritable, hplace] at h
            cases h
            exact ⟨hshape, hparams, hwritable, rfl, hplace⟩
    · rw [on_ofEntry_of_not_isTable hshape] at h
      cases h
  · intro h
    rw [on_ofEntry_of_ok h.shape h.footprint, h.writable, h.anchor, ← h.name]
    rfl

/-- The report on refused parameters, with the footprint noted. -/
theorem report_of_blame (key : Key) (cause : ParameterCause) :
    (blame key (.parameter cause none)).report? =
      some { cause.report with context := cause.report.context ++ [("footprint", key.toValue)] } :=
  congrArg some (cause.note_report key)

/-- Parameters that are refused are blamed on the footprint. -/
theorem refused_of_parameters {own : Fault} (hshape : IsTable definition)
    (hparams : (Footprint.ofParameters (paramsOf definition) settings).on board =
      (.error own, after)) (hown : own.IsNameless) :
    Refused settings board key definition (blame key own) after := by
  cases own with
  | breakdown cause => exact .brokenParameters hshape hparams
  | parameter cause footprint =>
    cases footprint with
    | some other => cases hown
    | none =>
      have hnoted : ("footprint", key.toValue) ∈
          cause.report.context ++ [("footprint", key.toValue)] := by simp
      have hreport := report_of_blame key cause
      exact .parameters hshape hparams rfl rfl hreport rfl (Report.shows_of_mem hnoted)
        (Fault.told_of_report hreport (by rintro f ⟨⟩))
  | _ => cases hown

/-- An entry that makes no instance is refused. -/
theorem refused_of_on_ofEntry (hopen : board.nets.allocate = true)
    (h : (ofEntry settings file key definition).on board = (.error fault, after)) :
    Refused settings board key definition fault after := by
  by_cases hshape : IsTable definition
  · rcases hparams : (Footprint.ofParameters (paramsOf definition) settings).on board with
      ⟨own | f, between⟩
    · rw [on_ofEntry_of_error hshape hparams] at h
      cases h
      exact refused_of_parameters hshape hparams
        (Footprint.isNameless_of_ofParameters hopen hparams)
    · rw [on_ofEntry_of_ok hshape hparams] at h
      cases hwritable : key.isWritable with
      | false =>
        rw [hwritable] at h
        cases h
        exact .brokenName hshape hparams hwritable
      | true =>
        cases hplace : Anchor.ofValue (placeOf definition) key.shown with
        | error own =>
          rw [hwritable, hplace] at h
          cases h
          rcases (Anchor.ofPlace_of_ofValue hplace).report with
            ⟨cause, rfl⟩ | ⟨told, rest, htold, hkind, hmessage⟩
          · exact .brokenPlace hshape hwritable hparams hplace
          · exact .place rest hshape hwritable hparams hplace htold hkind hmessage
        | ok anchor =>
          rw [hwritable, hplace] at h
          cases h
  · rw [on_ofEntry_of_not_isTable hshape] at h
    cases h
    cases hwritable : key.isWritable with
    | false => exact .brokenShape hshape hwritable
    | true => exact .shape hshape hwritable rfl rfl rfl

end Instance

/-! ## All footprints of a document -/

namespace Placement

/-- The footprints are accepted one after another as the instances, each on the board that those
before it left. -/
inductive AllAccepted (settings : Settings) : Board → Table → List Instance → Board → Prop
  | nil (board : Board) : AllAccepted settings board [] [] board
  | cons {key : Key} {definition : Value} {i : Instance} {entries : Table}
      {instances : List Instance} {board between after : Board} :
      Instance.Accepted settings board key definition i between →
      AllAccepted settings between entries instances after →
      AllAccepted settings board ((key, definition) :: entries) (i :: instances) after

variable {settings : Settings} {data : Value} {file : String} {names : List String}
  {entries : Table} {instances : List Instance} {board after : Board}

theorem allAccepted_iff :
    AllAccepted settings board entries instances after ↔
      Through (fun e : Key × Value => Instance.ofEntry settings file e.1 e.2) board entries
        instances after := by
  constructor
  · intro h
    induction h with
    | nil board => exact .nil board
    | cons hfirst _ ih => exact .cons (Instance.on_ofEntry_eq_ok_iff.2 hfirst) ih
  · intro h
    induction h with
    | nil board => exact .nil board
    | cons hfirst _ ih => exact .cons (Instance.on_ofEntry_eq_ok_iff.1 hfirst) ih

/-- A document that lists nets and footprints, each footprint by its name. The board starts with the
listed nets. The document is accepted exactly if its footprints are, one after another in their
order, and then it has one instance for each of them. In every other case it fails as the first
footprint does that is refused: those before it are accepted, it is refused on the board that they
left, and what is told of it names it. -/
theorem ofValue_blames_first (hlists : Lists data file names entries) (settings : Settings)
    (log : List Log.Event) :
    ∃ registered : Board, registered.nets = .ofList names true ∧
      let outcome := (ofValue data settings file).on ⟨.empty true, log⟩
      (∀ placement, (∃ parsed, outcome = (.ok placement, parsed)) ↔
        ∃ built, AllAccepted settings registered entries placement.instances built) ∧
      ∀ fault parsed, outcome = (.error fault, parsed) →
        ∃ front key definition rest instances between,
          entries = front ++ (key, definition) :: rest ∧
          AllAccepted settings registered front instances between ∧
          Instance.Refused settings between key definition fault parsed := by
  obtain ⟨registered, hregistered, hon⟩ := on_ofValue hlists settings ⟨.empty true, log⟩
  refine ⟨registered, hregistered, fun placement => ?_, fun fault parsed h => ?_⟩
  · rw [hon]
    constructor
    · rintro ⟨parsed, h⟩
      split at h
      · next instances built hbuilt =>
        obtain ⟨hplacement, -⟩ := Prod.mk.inj h
        obtain rfl := Except.ok.inj hplacement
        exact ⟨built, allAccepted_iff.2 (through_of_mapM_eq_ok hbuilt)⟩
      · cases h
    · rintro ⟨built, h⟩
      rw [on_mapM_eq_ok.2 (allAccepted_iff.1 h)]
      exact ⟨_, rfl⟩
  · rw [hon] at h
    split at h
    · cases h
    · next other after hfailed =>
      cases h
      obtain ⟨front, e, rest, instances, between, hentries, hfront, hfirst⟩ :=
        on_mapM_eq_error.1 hfailed
      -- the footprints before it left a board that still takes names in
      obtain ⟨hnets, -⟩ := nets_of_entries hfront
      have hopen : between.nets.allocate = true := by
        rw [hnets, hregistered, NetTable.allocate_insertAll, NetTable.allocate_insertAll]
        rfl
      exact ⟨front, e.1, e.2, rest, instances, between, hentries, allAccepted_iff.2 hfront,
        Instance.refused_of_on_ofEntry hopen hfirst⟩

/-- Of three footprints the second has a fault in its parameters and one in its place, and the third
is no table: what is told is the fault in the parameters of the second. -/
theorem ofValue_blames_second :
    let left : Value := .table [(.text "params", .table [(.text "net", .text "GND")])]
    let right : Value := .table [(.text "at", .text "here"),
      (.text "params", .table [(.text "width", .int 0)])]
    let entries : Table := [(.text "left", left), (.int 2, right), (.text "third", .int 5)]
    let outcome := (ofValue (documentOf ["VCC"] entries) {} "board.yaml").on ⟨.empty true, []⟩
    ∃ fault parsed registered front key definition rest instances between,
      outcome = (.error fault, parsed) ∧ registered.nets = .ofList ["VCC"] true ∧
      entries = front ++ (key, definition) :: rest ∧
      AllAccepted {} registered front instances between ∧
      Instance.Refused {} between key definition fault parsed ∧
      fault.report?.map (·.fullText) =
        some "'width' must be a positive number, got 0\n\nContext:\n  footprint: 2" := by
  intro left right entries outcome
  have hlists := lists_documentOf ["VCC"] entries "board.yaml"
  obtain ⟨registered, hregistered, -, hfails⟩ := ofValue_blames_first hlists {} []
  have htext : (match outcome.1 with
      | .ok _ => none
      | .error fault => fault.report?.map (·.fullText)) =
        some "'width' must be a positive number, got 0\n\nContext:\n  footprint: 2" := by
    decide +kernel
  rcases houtcome : outcome with ⟨fault | placement, parsed⟩
  · rw [houtcome] at htext
    obtain ⟨front, key, definition, rest, instances, between, hentries, hfront, hrefused⟩ :=
      hfails fault parsed houtcome
    exact ⟨fault, parsed, registered, front, key, definition, rest, instances, between, rfl,
      hregistered, hentries, hfront, hrefused, htext⟩
  · rw [houtcome] at htext
    cases htext

/-- A document with a single footprint fails as the footprint does on every board. -/
theorem ofValue_eq_error_of_entry {key : Key} {definition : Value} {fault : Fault}
    (h : ∀ board : Board, ∃ after,
      (Instance.ofEntry settings file key definition).on board = (.error fault, after)) :
    ((ofValue (documentOf names [(key, definition)]) settings file).on board).1 = .error fault := by
  obtain ⟨registered, -, hon⟩ :=
    on_ofValue (lists_documentOf names [(key, definition)] file) settings board
  obtain ⟨after, hentry⟩ := h registered
  let work (e : Key × Value) : Session Instance := Instance.ofEntry settings file e.1 e.2
  have hfails : ([(key, definition)].mapM work).on registered = (.error fault, after) :=
    on_mapM_cons_of_error work hentry []
  rw [hon, hfails]

/-- A whole number with more digits than are ever written cannot be told as a name. With refused
parameters under it there is a report, but not its text. With a definition under it that is no table,
or with one that has nothing to refuse, the work breaks down: there is neither a report nor an
instance. -/
theorem unwritable_name_not_told :
    let name : Key := .int (10 ^ Number.digitLimit)
    let outcome (definition : Value) :=
      ((ofValue (documentOf [] [(name, definition)]) {} "board.yaml").on ⟨.empty true, []⟩).1
    let params : Value := .table [(.text "q", .null)]
    (∃ fault report, outcome (.table [(.text "params", params)]) = .error fault ∧
        fault.report? = some report ∧ report.kind = .configuration ∧
        report.told = .error .unfitValue) ∧
      ∀ definition ∈ [.int 5, .table []],
        ∃ cause, outcome definition = .error (.breakdown cause) := by
  intro name outcome params
  have hname : name.isWritable = false := by decide +kernel
  constructor
  · let cause : ParameterCause := .unknownNames (Footprint.ordered ["q"])
    have hrefused (board : Board) : ∃ after,
        (Instance.ofEntry {} "board.yaml" name (.table [(.text "params", params)])).on board =
          (.error (Instance.blame name (.parameter cause none)), after) :=
      ⟨board, Instance.on_ofEntry_of_error (fun _ => ⟨_, rfl⟩) rfl _ _⟩
    have hreport := Instance.report_of_blame name cause
    have htold := Fault.told_of_report hreport (by rintro f ⟨⟩)
    have hcannot : ¬name.isWritable = true := by simp [hname]
    exact ⟨_, _, ofValue_eq_error_of_entry hrefused, hreport, rfl, htold.trans (if_neg hcannot)⟩
  · intro definition hdefinition
    refine ⟨.unfitValue, ofValue_eq_error_of_entry fun board => ⟨board, ?_⟩⟩
    simp only [List.mem_cons, List.not_mem_nil, or_false] at hdefinition
    rcases hdefinition with rfl | rfl
    · have hshape : ¬Instance.IsTable (.int 5) := by
        simp [Instance.IsTable, Value.bare, Value.isGiven]
      rw [Instance.on_ofEntry_of_not_isTable hshape, hname]
      rfl
    · rw [Instance.on_ofEntry_of_ok (f := {}) (fun _ => ⟨_, rfl⟩) rfl, hname]
      rfl

end Placement

end CopperRoute
