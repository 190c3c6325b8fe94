import CopperRoute.Proofs.Footprint.Nets
import CopperRoute.Proofs.Footprint.Validation
import CopperRoute.Proofs.Settings.Merge
import CopperRoute.Proofs.Toml.Values

/-!
# Settings files and parameters take the same values

A value for a setting is checked in two places: when a file with it is merged, and when a footprint is
built from it. `taken` says what the second makes of it, in the form in which the first keeps it, so
that both can be compared (`accept_alike`).

Main statement (`merge_agrees_with_parameters`): of what TOML can express, and so of all that a file
can set (`isToml_of_defined?`), both places take the same values and refuse the same, and a value that
a file has set does what it does as a parameter of every footprint that leaves it out.
-/

namespace CopperRoute

namespace Footprint

open Session

/-! ## What a footprint makes of a setting -/

/-- What the check of a setting makes of its value, in the form in which settings are kept. -/
def taken (k : Setting) (v : Value) : Except Fault Value :=
  match k with
  | .precision => (precisionOf v).map fun places => (places.map .int).getD .null
  | .format => (formatOf v).map fun format => .text format.name
  | .locked => (lockedOf v).map .bool
  | .width | .viaSize | .viaDrill => (sizeOf k.name v).map .float

theorem map_inj {α β : Type} {f : α → β} (hf : Function.Injective f) {x y : Except Fault α}
    (h : x.map f = y.map f) : x = y := by
  cases x with
  | error fault =>
    cases y with
    | error fault' => exact congrArg _ (Except.error.inj h)
    | ok b => cases h
  | ok a =>
    cases y with
    | error fault' => cases h
    | ok b => rw [hf (Except.ok.inj h)]

theorem map_eq_ok {α β : Type} {f : α → β} {x : Except Fault α} {b : β} (h : x.map f = .ok b) :
    ∃ a, x = .ok a ∧ f a = b := by
  cases x with
  | error fault => cases h
  | ok a => exact ⟨a, rfl, Except.ok.inj h⟩

theorem map_eq_error {α β : Type} {f : α → β} {x : Except Fault α} {fault : Fault} :
    x.map f = .error fault ↔ x = .error fault := by
  cases x <;> simp [Except.map]

variable {t t' : Table} {settings settings' : Settings} {params params' : Value} {f : Footprint}
  {board after : Board} {fault : Fault} {k : Setting} {v kept : Value}

/-- A positive finite double passes for every size. -/
theorem sizeOf_float (name : String) {x : Float} (h : Number.isFinite x = true ∧ 0 < x) :
    sizeOf name (.float x) = .ok x := by
  rw [sizeOf, if_pos (by simpa using h)]

/-- What a check takes is kept as it is when it is checked again. -/
theorem taken_kept (h : taken k v = .ok kept) : taken k kept = .ok kept := by
  cases k with
  | precision =>
    obtain ⟨places, hplaces, rfl⟩ := map_eq_ok h
    rcases precisionOf_eq_ok hplaces with ⟨-, rfl⟩ | ⟨i, -, rfl, hi⟩
    · rfl
    · simp [taken, precisionOf, hi, Except.map]
  | format =>
    obtain ⟨format, -, rfl⟩ := map_eq_ok h
    simp [taken, formatOf, format.ofName?_name, Except.map]
  | locked =>
    obtain ⟨b, -, rfl⟩ := map_eq_ok h
    rfl
  | _ =>
    -- the three sizes
    obtain ⟨x, hx, rfl⟩ := map_eq_ok h
    rw [taken, sizeOf_float _ (sizeOf_eq_ok hx).2]
    rfl

theorem judged_taken (k : Setting) (v : Value) :
    Judged ((Parameter.setting k).Takes v) ((Parameter.setting k).Breaks v) (taken k v) := by
  cases k with
  | width => exact (judged_size (by decide : Setting.width ∈ Setting.sizes) v).map _
  | viaSize => exact (judged_size (by decide : Setting.viaSize ∈ Setting.sizes) v).map _
  | viaDrill => exact (judged_size (by decide : Setting.viaDrill ∈ Setting.sizes) v).map _
  | locked => exact (judged_locked v).map _
  | precision => exact (judged_precision v).map _
  | format => exact (judged_format v).map _

/-- What a setting is unless it is set passes its check. -/
theorem taken_default (k : Setting) : ∃ kept, taken k (({} : Settings).get k) = .ok kept := by
  cases k with
  | precision => exact ⟨_, rfl⟩
  | locked => exact ⟨_, rfl⟩
  | format =>
    have hname : RecordFormat.ofName? "kicad8" = some .kicad8 := RecordFormat.ofName?_name .kicad8
    rw [taken, Settings.get, formatOf, hname]
    exact ⟨_, rfl⟩
  | width | viaSize | viaDrill =>
    rw [taken, Settings.get, sizeOf_float _ (by decide +kernel)]
    exact ⟨_, rfl⟩

theorem Built.exists_taken (h : Built t settings f) (k : Setting) :
    ∃ kept, taken k (valueOf t settings k) = .ok kept := by
  cases k with
  | width => rw [taken, h.width]; exact ⟨_, rfl⟩
  | viaSize => rw [taken, h.viaSize]; exact ⟨_, rfl⟩
  | viaDrill => rw [taken, h.viaDrill]; exact ⟨_, rfl⟩
  | locked => rw [taken, h.locked]; exact ⟨_, rfl⟩
  | precision => rw [taken, h.precision]; exact ⟨_, rfl⟩
  | format => rw [taken, h.format]; exact ⟨_, rfl⟩

/-- What comes of parameters is told by their names, their routes and their net, and by what is made
of the settings. -/
theorem ofParameters_congr (hnamed : named params = .ok t) (hnamed' : named params' = .ok t')
    (hsame : ∀ name ∈ ["route", "routes", "net"], t.get? name = t'.get? name)
    (htaken : ∀ k, taken k (valueOf t settings k) = taken k (valueOf t' settings' k))
    (board : Board) :
    (ofParameters params settings).on board = (ofParameters params' settings').on board := by
  have hroute : route? t = route? t' := by rw [route?, route?, hsame "route" (by simp)]
  have hroutes : routes? t = routes? t' := by rw [routes?, routes?, hsame "routes" (by simp)]
  have hprecision : precisionOf (valueOf t settings .precision) =
      precisionOf (valueOf t' settings' .precision) := by
    refine map_inj (fun a b hab => ?_) (htaken .precision)
    cases a <;> cases b <;> simp_all
  have hformat : formatOf (valueOf t settings .format) = formatOf (valueOf t' settings' .format) := by
    refine map_inj (fun a b hab => ?_) (htaken .format)
    cases a <;> cases b <;> simp_all [RecordFormat.name]
  have hlocked : lockedOf (valueOf t settings .locked) = lockedOf (valueOf t' settings' .locked) :=
    map_inj (fun _ _ => Value.bool.inj) (htaken .locked)
  have hsize (k : Setting) (hk : k = .width ∨ k = .viaSize ∨ k = .viaDrill) :
      sizeOf k.name (valueOf t settings k) = sizeOf k.name (valueOf t' settings' k) := by
    have hk' := htaken k
    rcases hk with rfl | rfl | rfl
    all_goals exact map_inj (fun _ _ => Value.float.inj) hk'
  have hok {a : Table} {next : Table → Session Footprint} :
      ((liftM (Except.ok a : Except Fault Table) : Session Table) >>= next).on board =
        (next a).on board := on_bind_of_ok (on_lift ..)
  unfold ofParameters
  rw [hnamed, hnamed', hok, hok, hroute, hroutes, hprecision, hformat, hlocked,
    hsame "net" (by simp), hsize .width (by simp), hsize .viaSize (by simp),
    hsize .viaDrill (by simp)]

/-- A footprint that cannot be built is refused by a check of its parameters. -/
theorem ofParameters_eq_error (hnamed : named params = .ok t)
    (h : (ofParameters params settings).on board = (.error fault, after)) :
    route? t = .error fault ∨ routes? t = .error fault ∨
      (∃ k, taken k (valueOf t settings k) = .error fault) ∨
      (netOf ((t.get? "net").getD .null)).on board = (.error fault, after) := by
  unfold ofParameters at h
  rw [hnamed] at h
  rcases on_lift_bind_eq_error h with h | ⟨t', ht, h⟩
  · cases h
  obtain rfl := Except.ok.inj ht
  rcases on_lift_bind_eq_error h with h | ⟨route, -, h⟩
  · exact .inl h
  rcases on_lift_bind_eq_error h with h | ⟨routes, -, h⟩
  · exact .inr (.inl h)
  refine .inr (.inr ?_)
  rcases on_lift_bind_eq_error h with h | ⟨precision, -, h⟩
  · exact .inl ⟨.precision, map_eq_error.2 h⟩
  rcases on_lift_bind_eq_error h with h | ⟨format, -, h⟩
  · exact .inl ⟨.format, map_eq_error.2 h⟩
  rcases on_lift_bind_eq_error h with h | ⟨locked, -, h⟩
  · exact .inl ⟨.locked, map_eq_error.2 h⟩
  rcases on_bind_eq_error h with h | ⟨net, between, -, h⟩
  · exact .inr h
  rcases on_lift_bind_eq_error h with h | ⟨width, -, h⟩
  · exact .inl ⟨.width, map_eq_error.2 h⟩
  rcases on_lift_bind_eq_error h with h | ⟨viaSize, -, h⟩
  · exact .inl ⟨.viaSize, map_eq_error.2 h⟩
  rcases on_lift_bind_eq_error h with h | ⟨viaDrill, -, h⟩
  · exact .inl ⟨.viaDrill, map_eq_error.2 h⟩
  cases h

/-! ## One parameter alone -/

/-- The table with nothing but a value for the setting `k`. -/
def single (k : Setting) (v : Value) : Table := [(.text k.name, v)]

theorem get?_single (k : Setting) (v : Value) (name : String) :
    (single k v).get? name = if name = k.name then some v else none := by
  unfold single Table.get?
  by_cases h : name = k.name
  · simp [Key.isText, h]
  · simp [Key.isText, h, Ne.symm h]

/-- A setting is none of the parameters that have no setting. -/
theorem name_notMem (k : Setting) : k.name ∉ ["route", "routes", "net"] := by
  cases k <;> decide

theorem isKnownValue_name (k : Setting) : isKnownValue (.text k.name) = true := by
  cases k <;> decide

theorem named_single (k : Setting) (v : Value) :
    named (.table (single k v)) = .ok (single k v) := by
  have hknown := isKnownValue_name k
  simp [named, Value.bare, single, Table.keys, Key.toValue, hknown]

/-- A footprint that has one parameter only comes to what the check of that parameter comes to. -/
theorem ofParameters_single (k : Setting) (v : Value) (board : Board) :
    match taken k v with
    | .ok _ => ∃ f after, (ofParameters (.table (single k v)) {}).on board = (.ok f, after)
    | .error fault =>
      ∃ after, (ofParameters (.table (single k v)) {}).on board = (.error fault, after) := by
  have hvalue (other : Setting) : valueOf (single k v) {} other =
      if other = k then v else ({} : Settings).get other := by
    rw [valueOf, get?_single]
    simp only [Setting.name_inj]
    split <;> rfl
  have hmissing : ∀ name ∈ ["route", "routes", "net"], (single k v).get? name = none := by
    intro name hname
    rw [get?_single, if_neg]
    rintro rfl
    exact name_notMem k hname
  rcases hon : (ofParameters (.table (single k v)) {}).on board with ⟨fault | f, after⟩
  · have htaken : taken k v = .error fault := by
      rcases ofParameters_eq_error (named_single k v) hon with h | h | ⟨other, h⟩ | h
      · simp [route?, hmissing] at h
      · simp [routes?, hmissing] at h
      · rw [hvalue] at h
        split at h
        · next hother => rwa [hother] at h
        · obtain ⟨kept, hkept⟩ := taken_default other
          rw [hkept] at h
          cases h
      · rw [hmissing "net" (by simp)] at h
        cases h
    rw [htaken]
    exact ⟨after, rfl⟩
  · obtain ⟨t, ht, hbuilt, -⟩ := ofParameters_built hon
    rw [named_single] at ht
    obtain rfl := Except.ok.inj ht
    obtain ⟨kept, hkept⟩ := hbuilt.exists_taken k
    rw [hvalue, if_pos rfl] at hkept
    rw [hkept]
    exact ⟨f, after, rfl⟩

/-! ## One parameter more -/

/-- The table `t` with a value for the setting `k`, where `t` lacks one. -/
def completed (t : Table) (k : Setting) (v : Value) : Table :=
  if (t.get? k.name).isSome then t else t ++ single k v

theorem get?_completed (t : Table) (k : Setting) (v : Value) (name : String) :
    (completed t k v).get? name =
      if name = k.name then some ((t.get? name).getD v) else t.get? name := by
  unfold completed
  split
  · next h =>
    obtain ⟨w, hw⟩ := Option.isSome_iff_exists.1 h
    split
    · next hname => rw [hname, hw]; rfl
    · rfl
  · next h =>
    have happend : Table.get? (t ++ single k v) name =
        (t.get? name).or ((single k v).get? name) := by
      simp [Table.get?, List.find?_append, Option.map_or]
    rw [happend, get?_single]
    split
    · next hname =>
      rw [hname]
      cases t.get? k.name <;> rfl
    · simp

/-- The value of a setting adds no name that is not known. -/
theorem named_completed (htable : params.bare = .table t) (k : Setting) (v : Value) :
    (named params = .ok t ∧ named (.table (completed t k v)) = .ok (completed t k v)) ∨
      ∃ fault, named params = .error fault ∧
        named (.table (completed t k v)) = .error fault := by
  have hunknown : ((completed t k v).keys.map Key.toValue).filter (!isKnownValue ·) =
      (t.keys.map Key.toValue).filter (!isKnownValue ·) := by
    unfold completed
    split
    · rfl
    · have hknown := isKnownValue_name k
      simp [Table.keys, single, Key.toValue, hknown]
  unfold named
  rw [htable]
  simp only [Value.bare, hunknown]
  split
  · exact .inl ⟨rfl, rfl⟩
  · right
    rcases hrefused : (refuseNames _ : Except Fault Table) with fault | names
    · exact ⟨fault, rfl, rfl⟩
    · exact absurd hrefused refuseNames_ne_ok

end Footprint

/-! ## Both checks -/

namespace Settings

/-- What a merge and a footprint make of one value: the same, or each refuses it with a cause of its
own that can be written if the other can, or both break down. -/
inductive Alike : Except (SettingsCause ⊕ Breakdown) Value → Except Fault Value → Prop
  | taken (kept : Value) : Alike (.ok kept) (.ok kept)
  | refused {cause : SettingsCause} {cause' : ParameterCause} :
      cause.isWritable = cause'.isWritable → Alike (.error (.inl cause)) (Footprint.refuse cause')
  | broken (cause : Breakdown) : Alike (.error (.inr cause)) (.error (.breakdown cause))

theorem map_refuse {α β : Type} (f : α → β) (cause : ParameterCause) :
    (Footprint.refuse cause : Except Fault α).map f = Footprint.refuse cause := rfl

/-- Of what TOML can express a merge and a footprint make the same. -/
theorem accept_alike (hv : v.IsToml) (k : Setting) : Alike (accept k v) (Footprint.taken k v) := by
  have hwritable {i : Int} (hi : (Value.int i).IsToml) (hneg : ¬0 < i) :
      (Value.int i).isWritable = true := by
    cases hi with
    | int h =>
      rcases Int.lt_or_eq_of_le (Int.not_lt.1 hneg) with hlt | rfl
      · exact h hlt
      · decide +kernel
  cases k with
  | precision =>
    cases v with
    | null => cases hv
    | int i =>
      dsimp only [accept, Footprint.taken, Footprint.precisionOf]
      split
      · exact .taken _
      · next hi =>
        rw [map_refuse]
        exact .refused (hwritable hv (by omega)).symm
    | _ =>
      dsimp only [accept, Footprint.taken, Footprint.precisionOf, map_refuse]
      exact .refused rfl
  | format =>
    cases v with
    | text name =>
      dsimp only [accept, Footprint.taken, Footprint.formatOf]
      cases RecordFormat.ofName? name with
      | some format => exact .taken _
      | none => exact .refused rfl
    | _ =>
      dsimp only [accept, Footprint.taken, Footprint.formatOf, map_refuse]
      exact .refused rfl
  | locked =>
    cases v with
    | bool b => exact .taken _
    | _ =>
      dsimp only [accept, Footprint.taken, Footprint.lockedOf, map_refuse]
      exact .refused rfl
  | _ =>
    -- the three sizes
    cases v with
    | int i =>
      dsimp only [accept, Footprint.taken, Footprint.sizeOf]
      cases Number.ofInt? i with
      | none => exact .broken _
      | some x =>
        by_cases hi : 0 < i
        · simp only [if_pos hi]
          exact .taken _
        · simp only [if_neg hi, map_refuse]
          exact .refused (hwritable hv hi).symm
    | float x =>
      dsimp only [accept, Footprint.taken, Footprint.sizeOf]
      split
      · exact .taken _
      · rw [map_refuse]
        exact .refused rfl
    | _ =>
      dsimp only [accept, Footprint.taken, Footprint.sizeOf, map_refuse]
      exact .refused rfl

/-! ## Files and parameters -/

/-- What a settings file sets is a value that TOML can express. -/
theorem isToml_of_defined? {text : String} {t : Table} (hread : Toml.ofText text = .ok t)
    (h : defined? t k = some v) : v.IsToml := by
  have ht : Toml.IsToml t := Toml.isToml_of_ofText hread
  unfold defined? at h
  split at h
  · next entries hsection =>
    obtain ⟨content, hcontent, hbare⟩ := Option.map_eq_some_iff.1 hsection
    have htoml : content.IsToml := Toml.isToml_of_get? ht hcontent
    rw [← htoml.bare_eq, hbare] at htoml
    exact Toml.isToml_of_get? htoml h
  · cases h

/-- The settings after a merge of a file that says nothing but a value for the setting `k`. -/
def mergeSingle (k : Setting) (v : Value) (source : String) : Merge :=
  merge {} [(.text sectionName, .table (Footprint.single k v))] source

theorem mergeEntries_single (source : String) (m : Merged) (k : Setting) (v : Value) :
    mergeEntries source (Footprint.single k v) m Setting.all =
      match acceptFrom source k v with
      | .ok kept => (m.put k kept source, none)
      | .error fault => (m, some fault) := by
  have hget (other : Setting) : (Footprint.single k v).get? other.name =
      if other = k then some v else none := by
    rw [Footprint.get?_single]
    simp only [Setting.name_inj]
  cases haccept : acceptFrom source k v <;> cases k <;>
    simp [Setting.all, mergeEntries, hget, haccept]

/-- A merge of one setting comes to what is made of its value. -/
theorem mergeSingle_eq (k : Setting) (v : Value) (source : String) :
    ((mergeSingle k v source).merged, (mergeSingle k v source).fault) =
      match acceptFrom source k v with
      | .ok kept => (({} : Merged).put k kept source, none)
      | .error fault => ({}, some fault) := by
  have hsection : sectionOf? [(.text sectionName, .table (Footprint.single k v))] =
      some (.table (Footprint.single k v)) := by simp [sectionOf?, Table.get?, Key.isText, Value.bare]
  have htold : NamesTold [(.text sectionName, .table (Footprint.single k v))] := by
    refine ⟨by simp [otherSections, Table.keys, Key.isText], fun entries hentries => ?_⟩
    obtain rfl := Value.table.inj (Option.some.inj (hsection.symm.trans hentries))
    have hknown : isKnownKey (.text k.name) = true := isKnownKey_of_isText (beq_self_eq_true k.name)
    simp [otherNames, Footprint.single, Table.keys, hknown]
  rw [mergeSingle, merge_of_namesTold htold, hsection, ← mergeEntries_single]

/-- A merge and a footprint both take the value of a setting, or both refuse it, or both break
down on it. -/
theorem mergeSingle_cases (hv : v.IsToml) (k : Setting) (source : String) :
    (∃ kept, (mergeSingle k v source).fault = none ∧
      (mergeSingle k v source).merged.settings = ({} : Settings).put kept k ∧
      Footprint.taken k v = .ok kept) ∨
    (∃ cause cause', (mergeSingle k v source).fault = some (.settings cause source) ∧
      Footprint.taken k v = .error (.parameter cause' none)) ∨
    ∃ cause, (mergeSingle k v source).fault = some (.breakdown cause) ∧
      Footprint.taken k v = .error (.breakdown cause) := by
  have hmerge := mergeSingle_eq k v source
  have halike := accept_alike hv k
  rw [acceptFrom] at hmerge
  generalize accept k v = accepted at hmerge halike
  generalize Footprint.taken k v = taken at halike ⊢
  cases halike with
  | taken kept =>
    obtain ⟨hmerged, hfault⟩ := Prod.mk.inj hmerge
    exact .inl ⟨kept, hfault, by rw [hmerged]; rfl, rfl⟩
  | broken cause => exact .inr (.inr ⟨cause, congrArg Prod.snd hmerge, rfl⟩)
  | @refused cause cause' hwritable =>
    have hfault : (mergeSingle k v source).fault =
        some (.ofWritable cause.isWritable (.settings cause source)) := congrArg Prod.snd hmerge
    rw [Footprint.refuse, hfault, hwritable]
    cases cause'.isWritable with
    | true => exact .inr (.inl ⟨cause, cause', rfl, rfl⟩)
    | false => exact .inr (.inr ⟨.unfitValue, rfl, rfl⟩)

/-- A value that a file has set does for a footprint what it does as a parameter where the footprint
lacks it. -/
theorem ofParameters_completed (htaken : Footprint.taken k v = .ok kept) {params : Value}
    {t : Table} (htable : params.bare = .table t) (board : Board) :
    (Footprint.ofParameters params (({} : Settings).put kept k)).on board =
      (Footprint.ofParameters (.table (Footprint.completed t k v)) {}).on board := by
  rcases Footprint.named_completed htable k v with ⟨hnamed, hnamed'⟩ | ⟨fault, hnamed, hnamed'⟩
  · refine Footprint.ofParameters_congr hnamed hnamed' (fun name hname => ?_) (fun other => ?_) board
    · rw [Footprint.get?_completed, if_neg]
      rintro rfl
      exact Footprint.name_notMem k hname
    · rw [Footprint.valueOf, Footprint.valueOf, Footprint.get?_completed, Settings.get_put]
      simp only [Setting.name_inj]
      split
      · next hother =>
        rw [hother]
        cases t.get? k.name with
        | some given => rfl
        | none => exact (Footprint.taken_kept htaken).trans htaken.symm
      · rfl
  · unfold Footprint.ofParameters
    rw [hnamed, hnamed']
    exact (Session.on_bind_of_error (Session.on_lift ..)).trans
      (Session.on_bind_of_error (Session.on_lift ..)).symm

/-- On every board a merge and a footprint come to the same verdict on one value. -/
theorem mergeSingle_verdict (hv : v.IsToml) (k : Setting) (source : String) (board : Board) :
    let fault := (mergeSingle k v source).fault
    let outcome := (Footprint.ofParameters (.table (Footprint.single k v)) {}).on board
    (fault = none ↔ ∃ f, outcome.1 = .ok f) ∧
    ((∃ cause, fault = some cause ∧ cause.kind? = some .settings) ↔
      ∃ cause, outcome.1 = .error cause ∧ cause.kind? = some .configuration) ∧
    ∀ cause, fault = some (.breakdown cause) ↔ outcome.1 = .error (.breakdown cause) := by
  intro fault outcome
  have houtcome := Footprint.ofParameters_single k v board
  rcases mergeSingle_cases hv k source with ⟨kept, hfault, -, htaken⟩ |
    ⟨cause, cause', hfault, htaken⟩ | ⟨cause, hfault, htaken⟩
  · rw [htaken] at houtcome
    obtain ⟨f, after, hon⟩ := houtcome
    simp [fault, outcome, hfault, hon]
  · rw [htaken] at houtcome
    obtain ⟨after, hon⟩ := houtcome
    refine ⟨by simp [fault, outcome, hfault, hon], ?_, by simp [fault, outcome, hfault, hon]⟩
    exact iff_of_true ⟨_, hfault, rfl⟩ ⟨_, congrArg Prod.fst hon, rfl⟩
  · rw [htaken] at houtcome
    obtain ⟨after, hon⟩ := houtcome
    simp [fault, outcome, hfault, hon, Fault.kind?, Fault.report?]

/-- Of what TOML can express, a settings file and a footprint take the same values for a setting,
refuse the same, each with its own kind of report, and break down on the same. A value that a file
has set does for every footprint and on every board what it does as a parameter that the footprint
lacks: the footprint or the fault is the same, and so is the board afterwards. -/
theorem merge_agrees_with_parameters {v : Value} (hv : v.IsToml) (k : Setting) (source : String) :
    let merge := mergeSingle k v source
    (∀ board, let outcome := (Footprint.ofParameters (.table (Footprint.single k v)) {}).on board
      (merge.fault = none ↔ ∃ f, outcome.1 = .ok f) ∧
      ((∃ fault, merge.fault = some fault ∧ fault.kind? = some .settings) ↔
        ∃ fault, outcome.1 = .error fault ∧ fault.kind? = some .configuration) ∧
      ∀ cause, merge.fault = some (.breakdown cause) ↔ outcome.1 = .error (.breakdown cause)) ∧
    (merge.fault = none → ∀ params t, params.bare = .table t → ∀ board,
      (Footprint.ofParameters params merge.merged.settings).on board =
        (Footprint.ofParameters (.table (Footprint.completed t k v)) {}).on board) := by
  refine ⟨mergeSingle_verdict hv k source, fun hnone params t htable board => ?_⟩
  rcases mergeSingle_cases hv k source with ⟨kept, -, hsettings, htaken⟩ | ⟨_, _, hfault, -⟩ |
    ⟨_, hfault, -⟩
  · rw [hsettings]
    exact ofParameters_completed htaken htable board
  · cases hfault.symm.trans hnone
  · cases hfault.symm.trans hnone

/-- A format name in another case and with blanks around it passes in a file, and then does what it
does as a parameter. -/
theorem merge_agrees_with_parameters_format :
    let v : Value := .text " Legacy\t"
    let params : Table := [(.text "width", .int 1)]
    v.IsToml ∧ (mergeSingle .format v "user").fault = none ∧ ∀ board,
      (Footprint.ofParameters (.table params) (mergeSingle .format v "user").merged.settings).on
          board =
        (Footprint.ofParameters (.table (params ++ [(.text "format", v)])) {}).on board := by
  intro v params
  have hv : v.IsToml := .text _
  have hnone : (mergeSingle .format v "user").fault = none := by
    rw [← Option.isNone_iff_eq_none]
    decide +kernel
  obtain ⟨-, hsame⟩ := merge_agrees_with_parameters hv .format "user"
  have hcompleted : Footprint.completed params .format v = params ++ [(.text "format", v)] := by
    simp [Footprint.completed, Footprint.single, params, Table.get?, Key.isText, Setting.name]
  exact ⟨hv, hnone, fun board => hcompleted ▸ hsame hnone _ params rfl board⟩

end Settings

end CopperRoute
