import Unified.CrossChain.Delivery
import Unified.CrossChain.RecoverySpec

/-! Calls to one chain's endpoint, with the external calls in their middle: a destination or source
    component may call back into the coordinator and the recovery controller before it returns. -/

namespace Unified.CrossChain

/-- A call to the coordinator or the recovery controller. For the two entry points that call a
    component, `nested` are the component's own calls back, in order (those that revert are caught),
    and `outcome` is what it returns; `none` is a revert. -/
inductive Call (W : Type) where
  | configureRecoveryController (controller : Address) (hasCode : Bool)
  | sendMessage (sender : Address) (envelope : MessageEnvelope W) (payload : Payload W)
  | executeMessage (envelope : MessageEnvelope W) (payload : Payload W) (nested : List (Call W)) (outcome : Option W)
  | recordTombstone (sender : Address) (envelope : MessageEnvelope W) (recoveryNonce : Nat) (reasonCode : W)
  | recordAcknowledgement (envelope : MessageEnvelope W) (resultHash : W)
  | recordDestinationTombstone (envelope : MessageEnvelope W) (request : RecoveryRequest W) (signatures : List Bytes)
  | compensateSource (envelope : MessageEnvelope W) (request : RecoveryRequest W) (signatures : List Bytes)
      (tombstone : W) (payload : Payload W) (nested : List (Call W)) (outcome : Option W)
  | consumeLoanCancellationAuthorization (sender : Address) (request : LoanCancellationAuthorization W)
      (signatures : List Bytes)

namespace Endpoint

variable {W : Type} [Evm W]

def onCoordinator (s : Endpoint W) (f : Coordinator W → Except (Revert W) (Coordinator W)) :
    Except (Revert W) (Endpoint W) := do
  let c ← f s.coordinator
  pure { s with coordinator := c }

def onRecovery (s : Endpoint W) (f : RecoveryController W → Except (Revert W) (RecoveryController W)) :
    Except (Revert W) (Endpoint W) := do
  let rc ← f s.recovery
  pure { s with recovery := rc }

def finishExecution (e : MessageEnvelope W) (outcome : Option W) (s : Endpoint W) : Except (Revert W) (Endpoint W) := do
  let resultHash ← orRevert outcome .handlerReverted
  s.onCoordinator (Coordinator.complete e resultHash)

def finishCompensation (e : MessageEnvelope W) (r : RecoveryRequest W) (outcome : Option W) (s : Endpoint W) :
    Except (Revert W) (Endpoint W) := do
  let resultHash ← orRevert outcome .handlerReverted
  s.onRecovery (completeCompensation e r resultHash)

mutual

/-- One call, with everything its components do. -/
def exec (cfg : EndpointConfig W) (env : Env W) : Call W → Endpoint W → Except (Revert W) (Endpoint W)
  | .configureRecoveryController controller hasCode, s =>
    s.onCoordinator fun c => c.configureRecoveryController controller hasCode
  | .sendMessage sender e payload, s =>
    s.onCoordinator (Coordinator.sendMessage cfg.toCoordinatorConfig env sender e payload)
  | .executeMessage e payload nested outcome, s =>
    match Coordinator.verifyMessage cfg.toCoordinatorConfig env e payload s.coordinator with
    | .error err => .error err
    | .ok (.replayed _) => .ok s
    | .ok (.verified c) => finishExecution e outcome (execNested cfg env nested { s with coordinator := c })
  | .recordTombstone sender e recoveryNonce reasonCode, s =>
    s.onCoordinator (Coordinator.recordTombstone cfg.toCoordinatorConfig env sender e recoveryNonce reasonCode)
  | .recordAcknowledgement e resultHash, s =>
    s.onCoordinator (Coordinator.recordAcknowledgement cfg.toCoordinatorConfig env e resultHash)
  | .recordDestinationTombstone e r signatures, s => s.recordDestinationTombstone cfg env e r signatures
  | .compensateSource e r signatures tombstone payload nested outcome, s =>
    match authorizeCompensation cfg env e r signatures tombstone payload s with
    | .error err => .error err
    | .ok (.replayed _) => .ok s
    | .ok (.authorized rc) => finishCompensation e r outcome (execNested cfg env nested { s with recovery := rc })
  | .consumeLoanCancellationAuthorization sender r signatures, s =>
    s.onRecovery (RecoveryController.consumeLoanCancellationAuthorization cfg env sender r signatures)

/-- The calls a running component makes; one that reverts leaves no trace. -/
def execNested (cfg : EndpointConfig W) (env : Env W) : List (Call W) → Endpoint W → Endpoint W
  | [], s => s
  | call :: rest, s =>
    match exec cfg env call s with
    | .ok t => execNested cfg env rest t
    | .error _ => execNested cfg env rest s

end

end Endpoint

end Unified.CrossChain
