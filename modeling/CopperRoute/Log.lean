import CopperRoute.Anchor
import CopperRoute.Record
import CopperRoute.Text.Printable

/-!
# Log events

What the library does on the way, for a user who wants to follow it. An event knows its level, the
channel it belongs to and its wording; whether it is shown is decided elsewhere.
-/

namespace CopperRoute

namespace Log

/-- How weighty an event is. -/
inductive Level where
  | debug
  | info
  | warning
  | error
  | critical
deriving Repr, DecidableEq

def Level.weight : Level → Nat
  | debug => 10
  | info => 20
  | warning => 30
  | error => 40
  | critical => 50

def Level.word : Level → String
  | debug => "DEBUG"
  | info => "INFO"
  | warning => "WARNING"
  | error => "ERROR"
  | critical => "CRITICAL"

inductive Event where
  /-- a net got its index -/
  | registered (name : String) (index : Nat)
  /-- a route went over to another net -/
  | switched (net : Net) (position : Nat)
  /-- a route was read to its end -/
  | finished (route : String) (records : Nat)
  /-- a footprint was written -/
  | rendered (records : Nat) (anchor : Anchor)
  /-- a placement file was read -/
  | reading (file : String)
  /-- a placement was built -/
  | loaded (footprints nets : Nat)

namespace Event

def level : Event → Level
  | registered .. | switched .. | finished .. | rendered .. => .debug
  | reading .. | loaded .. => .info

/-- The name that an event is logged under. -/
def channel : Event → String
  | registered .. => "ergogen_router.nets"
  | switched .. | finished .. => "ergogen_router.interpreter"
  | rendered .. => "ergogen_router.router"
  | reading .. | loaded .. => "ergogen_router.loader"

def message : Event → String
  | registered name index => s!"Registered net {Text.quoted name} as index {index}"
  | switched net position => s!"Switched to net {net.text} at position {position}"
  | finished route records => s!"Route {Text.quoted route}: {records} record(s)"
  | rendered records anchor => s!"Rendered {records} record(s) at {anchor.written}"
  | reading file => s!"Reading placements from {file}"
  | loaded footprints nets => s!"Loaded {footprints} router footprint(s), {nets} net(s)"

end Event

end Log

end CopperRoute
