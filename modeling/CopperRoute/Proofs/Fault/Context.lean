import CopperRoute.Fault
import Mathlib.Data.List.Infix

/-!
# What stands in the context of a report

The entries of a context come from four sides, one after the other:

    given to the report ─▶ particular of its kind ─▶ route, position ─▶ noted later

Whatever side an entry comes from, it goes to the end if its key is not taken, and nowhere if it is.
So the context is what was given to the report, followed by the first entry under each key that is
new (`Context.noteAll_eq`). Main statement: `told_of_notes`, which says so and has the text of the
report hold just these entries, as far as they can be written at all.
-/

namespace CopperRoute

/-! ## Entries under new keys -/

namespace Context

variable {c : Context} {key : String} {value : Value} {entries : List (String × Value)}

/-- The entries whose key is not taken in a context, and of several under one key the first. -/
def fresh (c : Context) (entries : List (String × Value)) : Context :=
  (entries.filter fun e => !c.any (·.1 == e.1)).eraseDupsBy fun e e' => e.1 == e'.1

theorem noteAll_append (c : Context) (front back : List (String × Value)) :
    c.noteAll (front ++ back) = (c.noteAll front).noteAll back :=
  List.foldl_append

theorem fresh_cons_of_taken (h : c.any (·.1 == key) = true) :
    fresh c ((key, value) :: entries) = fresh c entries := by
  rw [fresh, List.filter_cons_of_neg (by simp [h])]
  rfl

theorem fresh_cons_of_free (h : c.any (·.1 == key) = false) :
    fresh c ((key, value) :: entries) = (key, value) :: fresh (c ++ [(key, value)]) entries := by
  rw [fresh, List.filter_cons_of_pos (by simp [h]), List.eraseDupsBy_cons, List.filter_filter, fresh]
  congr 2
  apply List.filter_congr
  intro e _
  by_cases hkey : e.1 = key
  · simp [hkey]
  · simp [hkey, Ne.symm hkey]

/-- What notes add to a context. -/
theorem noteAll_eq (c : Context) (entries : List (String × Value)) :
    c.noteAll entries = c ++ fresh c entries := by
  induction entries generalizing c with
  | nil => simp [noteAll, fresh, List.eraseDupsBy, List.eraseDupsBy.loop]
  | cons e entries ih =>
    obtain ⟨key, value⟩ := e
    show (c.note key value).noteAll entries = _
    cases h : c.any (·.1 == key) with
    | true => rw [note, if_pos h, ih, fresh_cons_of_taken h]
    | false =>
      rw [note, if_neg (by simp [h]), ih, fresh_cons_of_free h, List.append_assoc]
      rfl

/-- No entry is lost or moved by notes. -/
theorem prefix_noteAll (c : Context) (entries : List (String × Value)) : c <+: c.noteAll entries :=
  ⟨_, (noteAll_eq c entries).symm⟩

theorem note?_eq_noteAll (c : Context) (key : String) (value : Option Value) :
    c.note? key value = c.noteAll (value.map fun v => (key, v)).toList := by
  cases value <;> rfl

end Context

/-! ## Entries of a report's own -/

namespace Particulars

/-- The particular that a report of this kind enters, if it is given. An empty file name is none. -/
def own (p : Particulars) : Kind → Option (String × Value)
  | .malformed => p.character.map fun c => ("character", .text (Text.quoted c))
  | .badValue => p.text.map fun text => ("text", .text text)
  | .fileFormat => (p.file.filter (· ≠ "")).map fun file => ("file", .text file)
  | _ => none

def place (p : Particulars) : List (String × Value) :=
  (p.route.map fun route => ("route", .text route)).toList ++
    (p.position.map fun position => ("position", .int position)).toList

/-- All that a report of this kind enters, in order: the failure of a route enters its place too. -/
def offered (p : Particulars) (kind : Kind) : List (String × Value) :=
  (p.own kind).toList ++ if kind.isRoute then p.place else []

end Particulars

namespace Report

variable (kind : Kind) (message : String) (p : Particulars) (context : Context)
  (suggestions : List String) (later : List (String × Value))

/-- The context of a report is made by notes alone. -/
theorem contextOf_eq : contextOf kind context p = context.noteAll (p.offered kind) := by
  have hplace (c : Context) :
      (c.note? "route" (p.route.map .text)).note? "position" (p.position.map .int) =
        c.noteAll p.place := by
    rw [Context.note?_eq_noteAll, Context.note?_eq_noteAll, ← Context.noteAll_append,
      Option.map_map, Option.map_map]
    rfl
  cases kind with
  | malformed =>
    rw [contextOf, if_pos (by decide), hplace, Context.note?_eq_noteAll, ← Context.noteAll_append,
      Option.map_map]
    rfl
  | badValue =>
    rw [contextOf, if_pos (by decide), hplace, Context.note?_eq_noteAll, ← Context.noteAll_append,
      Option.map_map]
    rfl
  | fileFormat =>
    rw [contextOf, if_neg (by decide), Context.note?_eq_noteAll, Option.map_map,
      Particulars.offered, if_neg (by decide), List.append_nil]
    rfl
  | route | notReady | unsupported => exact hplace context
  | general | netLookup | configuration | fileMissing | settings => rfl

theorem context_make :
    (make kind message p context suggestions).context =
      context ++ context.fresh (p.offered kind) := by
  rw [make, contextOf_eq, Context.noteAll_eq]

theorem context_noteAll_make :
    ((make kind message p context suggestions).noteAll later).context =
      context ++ context.fresh (p.offered kind ++ later) := by
  show (contextOf kind context p).noteAll later = _
  rw [contextOf_eq, ← Context.noteAll_append, Context.noteAll_eq]

/-! ## The text -/

/-- The text of a message, of the entries of a context and of suggestions, each on its own line. -/
def textOf (message : String) (context : Context) (suggestions : List String) : String :=
  message ++
    (if context = [] then ""
      else "\n\nContext:" ++ String.join (context.map fun e => "\n  " ++ (e.1 ++ ": " ++ e.2.shown))) ++
    (if suggestions = [] then ""
      else "\n\nSuggestions:" ++ String.join (suggestions.map fun s => "\n  " ++ ("- " ++ s)))

theorem titled_map {α : Type} (title : String) (lines : α → String) (items : List α) :
    titled title (items.map lines) =
      if items = [] then ""
      else "\n\n" ++ title ++ ":" ++ String.join (items.map fun i => "\n  " ++ lines i) := by
  cases items with
  | nil => rfl
  | cons item items =>
    rw [titled, if_neg (by simp), if_neg (by simp), List.map_map]
    rfl

theorem fullText_eq (r : Report) : r.fullText = textOf r.message r.context r.suggestions := by
  rw [fullText, titled_map, titled_map]
  rfl

theorem told_eq (r : Report) :
    r.told = if ∀ e ∈ r.context, e.2.isWritable = true
      then .ok (textOf r.message r.context r.suggestions) else .error .unfitValue := by
  rw [told, fullText_eq]
  exact if_congr (by simp [Context.isWritable]) rfl rfl

theorem create_eq :
    create kind message p context suggestions =
      if ∀ e ∈ (make kind message p context suggestions).context, e.2.isWritable = true
      then .ok (make kind message p context suggestions) else .error .unfitValue := by
  rw [create, told_eq]
  split <;> rfl

/-! ## Entries that can be written -/

theorem isWritable_note {c : Context} {value : Value} (hc : c.isWritable = true)
    (hvalue : value.isWritable = true) (key : String) : (c.note key value).isWritable = true := by
  unfold Context.note
  split
  · exact hc
  · simpa [Context.isWritable, hvalue] using hc

theorem isWritable_note? {c : Context} {value : Option Value} (hc : c.isWritable = true)
    (hvalue : ∀ v ∈ value, v.isWritable = true) (key : String) :
    (c.note? key value).isWritable = true := by
  cases value with
  | none => exact hc
  | some v => exact isWritable_note hc (hvalue v rfl) key

/-- Of all that a report enters on its own account only the position can be too long to be
written. -/
theorem isWritable_make {p : Particulars} {context : Context} (hcontext : context.isWritable = true)
    (hposition : ∀ i ∈ p.position, Number.isWritable i = true) (kind : Kind) (message : String)
    (suggestions : List String) :
    (make kind message p context suggestions).context.isWritable = true := by
  have htexts {c : Context} {text : Option String} (hc : c.isWritable = true) (f : String → String)
      (key : String) : (c.note? key (text.map fun s => .text (f s))).isWritable = true :=
    isWritable_note? hc (by simp +contextual [Value.isWritable, Value.isWritableIn]) key
  unfold make contextOf
  dsimp only
  have hown : (match kind with
      | .malformed => context.note? "character" (p.character.map fun c => .text (Text.quoted c))
      | .badValue => context.note? "text" (p.text.map .text)
      | .fileFormat => context.note? "file" ((p.file.filter (· ≠ "")).map .text)
      | _ => context).isWritable = true := by
    cases kind with
    | malformed => exact htexts hcontext Text.quoted _
    | badValue => exact htexts hcontext id _
    | fileFormat => exact htexts hcontext id _
    | _ => exact hcontext
  split
  · refine isWritable_note? (htexts hown id _) ?_ _
    rintro v hv
    obtain ⟨i, hi, rfl⟩ := Option.map_eq_some_iff.1 hv
    exact hposition i hi
  · exact hown

/-! ## Main statement -/

/-- A report of any kind with any message, particulars, context and suggestions, and any notes on it
later. Its context is what was given to it, then the entries that are offered under new keys, of
several under one key the first: the particular of its kind, the route and the position, and the
notes in their order. So no note ever removes, moves or replaces an entry. The text is the message,
the entries as they stand and the suggestions. An entry that cannot be written is the only thing in
the way of it: with one among the entries there is no text, and no report to begin with. -/
theorem told_of_notes (kind : Kind) (message : String) (p : Particulars) (context : Context)
    (suggestions : List String) (later : List (String × Value)) :
    let made := make kind message p context suggestions
    let noted := made.noteAll later
    noted.context = context ++ context.fresh (p.offered kind ++ later) ∧
      (∀ front back, later = front ++ back → (made.noteAll front).context <+: noted.context) ∧
      create kind message p context suggestions =
        (if ∀ e ∈ made.context, e.2.isWritable = true then .ok made else .error .unfitValue) ∧
      noted.told =
        if ∀ e ∈ noted.context, e.2.isWritable = true
        then .ok (textOf message noted.context suggestions) else .error .unfitValue := by
  refine ⟨context_noteAll_make .., ?_, create_eq .., told_eq _⟩
  rintro front back rfl
  show _ <+: (contextOf kind context p).noteAll (front ++ back)
  rw [Context.noteAll_append]
  exact Context.prefix_noteAll _ _

/-- A whole number that is too long to be written takes away the text of a report that has it noted,
and there is no report that is made with it. -/
theorem not_told_of_long_number :
    let entry : String × Value := ("footprint", .int (Nat.pow 10 Number.digitLimit))
    (∃ report text, create .configuration "Unfit parameters" {} [] [] = .ok report ∧
        report.told = .ok text ∧ ¬∃ text, (report.noteAll [entry]).told = .ok text) ∧
      ¬∃ report, create .general "Unfit parameters" {} [entry] [] = .ok report := by
  intro entry
  have hlong : ¬ entry.2.isWritable = true := by decide +kernel
  have hnone {c : Context} (h : entry ∈ c) : ¬ ∀ e ∈ c, e.2.isWritable = true :=
    fun hall => hlong (hall entry h)
  refine ⟨⟨_, _, rfl, rfl, ?_⟩, ?_⟩
  · rintro ⟨text, h⟩
    rw [told_eq, if_neg (hnone (by rw [noteAll]; exact List.mem_singleton_self _))] at h
    cases h
  · rintro ⟨report, h⟩
    rw [create_eq, if_neg (hnone (by rw [context_make]; exact List.mem_append_left _ (by simp)))] at h
    cases h

end Report

/-! ## Reports of faults -/

theorem Key.isWritable_toValue (key : Key) : key.toValue.isWritable = key.isWritable := by
  cases key <;> rfl

theorem Value.isWritable_texts (texts : List String) :
    (Value.list (texts.map .text)).isWritable = true := by
  unfold isWritable isWritableIn
  induction texts with
  | nil => rfl
  | cons text texts ih => exact ih

theorem ParameterCause.isWritable_report (cause : ParameterCause) :
    cause.report.context.isWritable = true := by
  cases cause <;> rfl

/-- A footprint noted in a report on parameters goes to the end of its context. -/
theorem ParameterCause.note_report (cause : ParameterCause) (key : Key) :
    cause.report.note "footprint" key.toValue =
      { cause.report with context := cause.report.context ++ [("footprint", key.toValue)] } := by
  have hnew : cause.report.context.any (·.1 == "footprint") = false := by
    cases cause <;> rfl
  rw [Report.note, Context.note, if_neg (by simp [hnew])]

/-- The context of a report can be written exactly if the fault says that it can be told. -/
theorem Fault.isWritable_context {fault : Fault} {report : Report} (h : fault.report? = some report)
    (hplace : ∀ f, fault = .route f → ∀ i ∈ f.position, Number.isWritable i = true) :
    report.context.isWritable = fault.canTell := by
  have hmade (kind : Kind) (message : String) (p : Particulars) (suggestions : List String)
      (hp : p.position = none) :
      (Report.make kind message p [] suggestions).context.isWritable = true :=
    Report.isWritable_make rfl (by simp [hp]) kind message suggestions
  cases fault with
  | route f =>
    cases h
    refine Report.isWritable_make rfl ?_ _ _ _
    rintro i hi
    obtain ⟨n, hn, rfl⟩ := Option.map_eq_some_iff.1 hi
    exact hplace f rfl n hn
  | anchor cause => cases cause <;> cases h <;> exact hmade _ _ _ _ rfl
  | unknownNet name known =>
    cases h
    simp [Report.make, Report.contextOf, Kind.isRoute, Kind.parent?, Context.isWritable, canTell,
      Value.isWritable_texts]
    rfl
  | parameter cause key =>
    cases key with
    | none =>
      cases h
      exact cause.isWritable_report
    | some key =>
      cases h
      have hreport := cause.isWritable_report
      rw [Context.isWritable] at hreport
      rw [cause.note_report]
      simp [Context.isWritable, canTell, Key.isWritable_toValue, hreport]
  | placement cause file => cases h; exact hmade _ _ _ _ rfl
  | missingFile file => cases h; rfl
  | settings cause source => cases h; rfl
  | breakdown cause => cases h

/-- The report of a fault is told exactly if the fault says that it can be. -/
theorem Fault.told_of_report {fault : Fault} {report : Report} (h : fault.report? = some report)
    (hplace : ∀ f, fault = .route f → ∀ i ∈ f.position, Number.isWritable i = true) :
    report.told = if fault.canTell then .ok report.fullText else .error .unfitValue := by
  rw [Report.told, Fault.isWritable_context h hplace]

end CopperRoute
