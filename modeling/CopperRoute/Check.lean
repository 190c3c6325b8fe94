import CopperRoute.Json
import CopperRoute.Placement

/-!
# Checking a placement

A check runs the routes of every footprint and counts what they come to, without writing it. A
footprint whose routes fail is reported with what is wrong and where, and the check goes on to the
next one on the board as it is by then.
-/

namespace CopperRoute

structure Finding where
  name : String
  segments : Nat := 0
  vias : Nat := 0
  /-- length of all segments in millimetres -/
  length : Float := 0
  error : Option String := none
  position : Option Nat := none

namespace Finding

def isOk (f : Finding) : Bool := f.error.isNone

def count (f : Finding) : Record → Finding
  | .segment s =>
    { f with segments := f.segments + 1, length := f.length + s.start.distance s.stop }
  | .via _ => { f with vias := f.vias + 1 }

def ofRecords (name : String) (records : List Record) : Finding :=
  records.foldl count { name }

def ofFault (name : String) (fault : RouteFault) : Finding :=
  { name, error := some fault.message, position := fault.position }

/-- The length to a thousandth of a millimetre. -/
def roundedLength (f : Finding) : Float := Number.roundPlaces f.length 3

end Finding

/-- Checks a footprint. Only the fault of a route is a finding. -/
def Instance.check (i : Instance) : Session Finding :=
  tryCatch (Finding.ofRecords i.name <$> i.records true) fun
    | .route fault => pure (Finding.ofFault i.name fault)
    | fault => throw fault

def Placement.check (p : Placement) : Session (List Finding) := p.instances.mapM Instance.check

/-! ## Summary of a check

The findings of a check as one report for other programs, and in the words of a report for the user.
-/

namespace Finding

def toJson (f : Finding) : Json :=
  .object
    [("name", .text f.name),
      ("ok", .bool f.isOk),
      ("segments", .int f.segments),
      ("vias", .int f.vias),
      ("length_mm", .float f.roundedLength),
      ("error", (f.error.map Json.text).getD .null),
      ("position", (f.position.map fun p => Json.int p).getD .null)]

end Finding

structure Summary where
  total : Nat
  failed : Nat
  segments : Nat
  vias : Nat
deriving Repr, DecidableEq

namespace Summary

def ofFindings (fs : List Finding) : Summary :=
  { total := fs.length
    failed := fs.countP (!·.isOk)
    segments := (fs.map (·.segments)).foldr (· + ·) 0
    vias := (fs.map (·.vias)).foldr (· + ·) 0 }

def isOk (s : Summary) : Bool := s.failed = 0

/-- No footprint failed exactly if each finding is good. -/
theorem isOk_ofFindings (fs : List Finding) : (ofFindings fs).isOk = fs.all Finding.isOk := by
  induction fs with
  | nil => rfl
  | cons f rest ih =>
    simp only [isOk, ofFindings] at ih ⊢
    by_cases h : f.isOk <;> simp [h] at ih ⊢
    exact ih

def sentence (s : Summary) : String :=
  if s.isOk then s!"All {s.total} footprint(s) routed"
  else s!"{s.failed} of {s.total} footprint(s) failed"

def toJson (s : Summary) : Json :=
  .object
    [("total", .int s.total),
      ("failed", .int s.failed),
      ("segments", .int s.segments),
      ("vias", .int s.vias)]

def report (fs : List Finding) : Json :=
  .object
    [("footprints", .list (fs.map Finding.toJson)), ("summary", (ofFindings fs).toJson)]

end Summary

end CopperRoute
