import BridgeRelay.Delivery
import BridgeRelay.Routes

/-!
# Recorders

Writers that keep what they are given and always answer the same.
-/

namespace BridgeRelay.Simulation

/-- A recorder. -/
structure Recorder where
  reply : Except DeliveryError Outcome
  /-- what it was given -/
  received : List Message := []

/-- Recorders, their names, and the destinations for which they are registered. A recorder is referred to by its
place, so it stays registered when its name is given to another. -/
structure Switchboard where
  recorders : List Recorder := []
  names : List (String × Nat) := []
  routes : Routes Nat := {}

namespace Switchboard

/-- The messages that a recorder was given. -/
def received (b : Switchboard) (name : String) : List Message :=
  (((b.names.lookup name).bind fun i => b.recorders[i]?).map Recorder.received).getD []

/-- Adds a recorder. -/
def add (b : Switchboard) (name : String) (reply : Except DeliveryError Outcome) : Switchboard :=
  { b with recorders := b.recorders ++ [{ reply }], names := (name, b.recorders.length) :: b.names }

/-- Registers a recorder for a destination. -/
def register (b : Switchboard) (d : DomainId) (name : String) : Switchboard :=
  match b.names.lookup name with
  | some i => { b with routes := b.routes.set d i }
  | none => b

/-- Hands a message to the recorder of a destination. -/
def send (b : Switchboard) (d : DomainId) (m : Message) : Except RouteError Outcome × Switchboard :=
  match (b.routes.find? d).bind fun i => b.recorders[i]?.map fun r => (i, r) with
  | none => (.error (.noWriter d), b)
  | some (i, r) =>
      (r.reply.mapError .delivery,
        { b with recorders := b.recorders.set i { r with received := r.received ++ [m] } })

end Switchboard

end BridgeRelay.Simulation
