import AuditTrail.Remote.Store
import AuditTrail.Remote.Webhook
import AuditTrail.Sink.Registry

/-! # All sinks

The registry of every sink there is: those that need the host alone, and those that send over
the network.
-/

namespace AuditTrail.Remote

variable {σ : Type}

/-- Sends to the webhook that the settings describe. -/
def webhookConstructor (files : Files) (n : Http.Network σ) : Sink.Constructor σ := fun s _ =>
  (do
    let w ← Webhook.ofSettings s
    w.client.check files
    pure (w.sink n) : Except Error (Sink σ)).mapError Error.toError

/-- Writes to the remote store that the settings describe. -/
def storeConstructor (files : Files) (n : Http.Network σ) : Sink.Constructor σ := fun s _ => do
  let store ← Store.ofSettings s
  (store.client.check files).mapError Error.toError
  let storage := { Storage.ofSettings "external" s with name := Store.sinkName }
  pure (storage.sink (store.documents n))

/-- The registry of all sinks. -/
def standardSinks (console : Console σ) (files : Files) (n : Http.Network σ) :
    Sink.Registry σ :=
  ((Sink.Registry.builtins console).register "webhook" (webhookConstructor files n)).register
    Store.sinkName (storeConstructor files n)

end AuditTrail.Remote
