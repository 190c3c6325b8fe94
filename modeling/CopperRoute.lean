import CopperRoute.Main
import CopperRoute.Proofs.Anchor.Expression
import CopperRoute.Proofs.Anchor.Notations
import CopperRoute.Proofs.Check.Agreement
import CopperRoute.Proofs.Command.Render
import CopperRoute.Proofs.Command.Route
import CopperRoute.Proofs.Footprint.Composition
import CopperRoute.Proofs.Footprint.Monotone
import CopperRoute.Proofs.Footprint.Safety
import CopperRoute.Proofs.Footprint.Validation
import CopperRoute.Proofs.Net.History
import CopperRoute.Proofs.Placement.Blame
import CopperRoute.Proofs.Placement.Coordinates
import CopperRoute.Proofs.Record.ReadBack
import CopperRoute.Proofs.Route.Concatenation
import CopperRoute.Proofs.Route.Offence
import CopperRoute.Proofs.Route.Position
import CopperRoute.Proofs.Route.Unplaced
import CopperRoute.Proofs.Route.Variant
import CopperRoute.Proofs.Settings.Agreement
import CopperRoute.Proofs.Settings.Precedence
import CopperRoute.Proofs.Settings.Sequence
import CopperRoute.Proofs.Settings.Search
import CopperRoute.Proofs.Fault.Context
import CopperRoute.Proofs.Log.History
