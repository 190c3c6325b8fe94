import CopperRoute.Command.Arguments
import CopperRoute.Command.Grid
import CopperRoute.Log.Verbosity
import CopperRoute.Session
import CopperRoute.Settings.Files

/-!
# Outcomes of commands

What a command leaves behind: what it wrote to both streams, what it warned of, the file tree as it
is afterwards, and how it ended. A fault that has a report ends a command with the code one and is
told to the user, unless it cannot be told; any other fault is passed on as it is.
-/

namespace CopperRoute.Command

inductive Ending where
  /-- the arguments ended it -/
  | stopped (stop : Stop)
  /-- nothing was asked for -/
  | idle
  /-- it came to its end, with this code -/
  | finished (code : Nat)
  /-- a fault ended it -/
  | broken (fault : Fault)

inductive Output where
  | text (text : String)
  /-- a table and a sentence below it -/
  | grid (grid : Grid) (closing : String)

def Output.toText : Output → String
  | text s => s
  | grid g closing => g.text ++ closing ++ "\n"

/-- What a command leaves behind. -/
structure Outcome where
  ending : Ending := .finished 0
  output : Output := .text ""
  errors : String := ""
  warnings : List String := []
  disk : Disk

namespace Outcome

/-- The outcome with a line more on the error stream. -/
def complain (o : Outcome) (line : String) : Outcome :=
  { o with errors := o.errors ++ line ++ "\n" }

/-- The outcome of a command that something else broke off. -/
def broken (o : Outcome) (b : Breakdown) : Outcome := { o with ending := .broken (.breakdown b) }

def failed (o : Outcome) (fault : Fault) : Outcome :=
  match fault.report? with
  | some report =>
    if fault.canTell then
      { o.complain s!"Error: {report.fullText}" with ending := .finished 1 }
    else o.broken .unfitValue
  | none => { o with ending := .broken fault }

end Outcome

/-- Where a command runs, and how much of its work it shows. -/
structure Host where
  site : Settings.Site
  verbosity : Log.Verbosity

def newBoard : Board := { nets := NetTable.empty true }

/-- Does work that needs the settings of the current directory, on a board without nets. A fault of
the settings or of the work ends the command. -/
def withSettings {α : Type} (h : Host) (work : Settings → Session α)
    (next : Outcome → Board → α → Outcome) : Outcome :=
  let merge := Settings.load h.site h.site.current
  let o : Outcome := { disk := h.site.disk, warnings := merge.warnings }
  match merge.fault with
  | some fault => o.failed fault
  | none =>
    let (result, board) := (work merge.merged.settings).on newBoard
    -- events are shown also where the work failed
    let o := { o with errors := h.verbosity.shown board.log }
    match result with
    | .error fault => o.failed fault
    | .ok a => next o board a

end CopperRoute.Command
