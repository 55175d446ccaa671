import PresentRelay.Daemon.Run
import PresentRelay.Daemon.Station
import PresentRelay.Pacing
import PresentRelay.Proofs.Relay.Effects
import PresentRelay.Proofs.Slots.Moves
import PresentRelay.Proofs.Framebuffer.Creation
import PresentRelay.Proofs.References.Holdings
import PresentRelay.Proofs.Registry.Handles
import PresentRelay.Proofs.Slots.Commits
import PresentRelay.Proofs.References.Estate
import PresentRelay.Proofs.References.Tallies
import PresentRelay.Proofs.References.Conservation
import PresentRelay.Proofs.Daemon.Custody
import PresentRelay.Proofs.Daemon.Returns
import PresentRelay.Proofs.Daemon.Screen
import PresentRelay.Proofs.Daemon.Presents
import PresentRelay.Proofs.Json.Numbers
import PresentRelay.Proofs.Json.Texts
import PresentRelay.Proofs.Json.Values
import PresentRelay.Proofs.Json.Members
import PresentRelay.Proofs.Json.Objects
import PresentRelay.Proofs.Wire.Messages
import PresentRelay.Proofs.Wire.Frames
import PresentRelay.Proofs.Wire.Segments
import PresentRelay.Proofs.Wire.Dialogue
import PresentRelay.Proofs.Wire.Grammar
import PresentRelay.Proofs.Events.Notices
import PresentRelay.Proofs.Events.Deliveries
import PresentRelay.Proofs.Daemon.Lights
import PresentRelay.Proofs.Daemon.Coalescing
import PresentRelay.Proofs.Events.Registration
import PresentRelay.Proofs.Slots.Exports
import PresentRelay.Proofs.Events.Announcements
import PresentRelay.Proofs.Relay.Roles
import PresentRelay.Proofs.Hub.Moves
import PresentRelay.Proofs.Hub.Steps
import PresentRelay.Proofs.Hub.Closing
import PresentRelay.Proofs.Hub.Possession
import PresentRelay.Proofs.Hub.Endings
import PresentRelay.Proofs.Hub.Exchanges
import PresentRelay.Proofs.Hub.Settling
import PresentRelay.Proofs.Session.Handling
import PresentRelay.Proofs.Hub.Waits
import PresentRelay.Proofs.Hub.HangUps
import PresentRelay.Proofs.Hub.Refusals
import PresentRelay.Proofs.Session.Alone
import PresentRelay.Proofs.Hub.Isolation
import PresentRelay.Proofs.Framebuffer.Lineage
import PresentRelay.Proofs.Framebuffer.Numbers
import PresentRelay.Proofs.Relay.Deeds
import PresentRelay.Proofs.Site.Runs
import PresentRelay.Proofs.Site.Arming
import PresentRelay.Proofs.Site.Custody
import PresentRelay.Proofs.Wire.Lengths
import PresentRelay.Proofs.Hub.Calls
import PresentRelay.Proofs.Site.Parity
import PresentRelay.Proofs.Site.Modes
import PresentRelay.Proofs.Daemon.Turns
import PresentRelay.Proofs.Daemon.Restoring
import PresentRelay.Proofs.Daemon.Attempts
import PresentRelay.Proofs.Daemon.Drops
import PresentRelay.Proofs.Daemon.Residues
import PresentRelay.Proofs.Registry.Tenure
import PresentRelay.Proofs.Relay.Outlook
import PresentRelay.Proofs.Site.Observing
import PresentRelay.Proofs.Daemon.Departure
import PresentRelay.Proofs.Daemon.Counts
import PresentRelay.Proofs.Slots.Cadence
