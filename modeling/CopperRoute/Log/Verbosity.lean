import CopperRoute.Breakdown
import CopperRoute.Log.Format
import CopperRoute.Text.Character

/-!
# Verbosity

Which events are shown, and how. The log has a threshold and handlers; one of the handlers is there
from the start and shows nothing. Enabling takes away every other handler and adds a display, and
disabling takes them away. A level that does not exist changes nothing.

`enable_of_known` and `enable_of_unknown` say what comes of enabling a level.
-/

namespace CopperRoute.Log

/-! ### Levels -/

/-- The weights that have a name. The least of them leaves the choice to the surroundings. -/
def levelNames : List (String × Nat) :=
  [("CRITICAL", 50), ("FATAL", 50), ("ERROR", 40), ("WARNING", 30), ("WARN", 30), ("INFO", 20),
    ("DEBUG", 10), ("NOTSET", 0)]

/-- The weight of a named level, in any case. Two names are taken but stand for no weight. -/
def weightOf (name : String) : Except Breakdown Nat :=
  let name := Text.raised name
  match levelNames.lookup name with
  | some weight => .ok weight
  | none =>
    if name == "BASIC_FORMAT" then .error .unfitValue
    else if name == "_STYLES" then .error .wrongType
    else .error .noSuchPart

/-! ### Handlers -/

structure Display where
  threshold : Nat
  format : String
deriving Repr, DecidableEq

/-- What is done with what is logged. -/
inductive Handler where
  /-- nothing at all -/
  | silent
  /-- what weighs as much as the threshold is written as a line -/
  | display (display : Display)
deriving Repr, DecidableEq

/-- Whether a handler is no display. -/
def Handler.isSilent : Handler → Bool
  | silent => true
  | display _ => false

def Handler.write (o : Occurrence) : Handler → String
  | silent => ""
  | display d => if d.threshold ≤ o.weight then line d.format o else ""

/-! ### The state -/

/-- Which events are shown: those that weigh as much as the threshold, by all handlers in order. -/
structure Verbosity where
  threshold : Nat := Level.warning.weight
  handlers : List Handler := [.silent]
deriving Repr, DecidableEq

namespace Verbosity

/-- The threshold that counts where none is set. -/
def surroundings : Nat := Level.warning.weight

def effective (v : Verbosity) : Nat := if v.threshold = 0 then surroundings else v.threshold

/-- The handlers without the displays. -/
def silentOnes (v : Verbosity) : List Handler := v.handlers.filter Handler.isSilent

/-- Shows events of a level from now on. A format without a field breaks down after the threshold was
set and the old display taken away. -/
def enable (v : Verbosity) (level : String) (format : Option String) :
    Verbosity × Option Breakdown :=
  match weightOf level with
  | .error b => (v, some b)
  | .ok weight =>
    if hasField (chosen format) then
      (⟨weight, v.silentOnes ++ [.display ⟨weight, chosen format⟩]⟩, none)
    -- too late to keep what was enabled before
    else (⟨weight, v.silentOnes⟩, some .unfitValue)

def disable (v : Verbosity) : Verbosity := ⟨Level.warning.weight, v.silentOnes⟩

def write (v : Verbosity) (o : Occurrence) : String :=
  if v.effective ≤ o.weight then String.join (v.handlers.map (·.write o)) else ""

def writeAll (v : Verbosity) (os : List Occurrence) : String := String.join (os.map v.write)

/-- What is shown of `events` in a format that asks for nothing else. -/
def shown (v : Verbosity) (events : List Event) : String := v.writeAll (events.map fun e => ⟨e, {}⟩)

variable {level : String} {format : Option String}

/-- Enabling replaces the displays by one. -/
theorem enable_of_known (v : Verbosity) {weight : Nat} (hlevel : weightOf level = .ok weight)
    (hformat : hasField (chosen format) = true) :
    v.enable level format =
      (⟨weight, v.silentOnes ++ [.display ⟨weight, chosen format⟩]⟩, none) := by
  simp only [enable, hlevel, if_pos hformat]

theorem enable_of_unknown (v : Verbosity) {b : Breakdown} (h : weightOf level = .error b) :
    v.enable level format = (v, some b) := by
  simp only [enable, h]

end Verbosity

end CopperRoute.Log
