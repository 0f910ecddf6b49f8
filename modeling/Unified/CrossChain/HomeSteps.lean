import Unified.CrossChain.Home
import Unified.CrossChain.HubSpec

/-! What a call on the home chain can do, with everything it checked. -/

namespace Unified.CrossChain

namespace LoanAccount

variable {W : Type} [Evm W]

/-! ### The storage of an account after a transition -/

def mintReported (acc : LoanAccount W) (operationId : W) : LoanAccount W :=
  { (acc.process (operationKey .wrappedUftMinted operationId)).advanceState with mintConfirmed := true }

def collateralReported (acc : LoanAccount W) (operationId : W) : LoanAccount W :=
  { acc.process (operationKey .satelliteCollateralLocked operationId) with collateralConfirmed := true }

def disbursementReported (acc : LoanAccount W) : LoanAccount W :=
  { (acc.process (operationKey .satelliteDisbursementSettled acc.terms.fundingLockId)).advanceState with
    outstandingPrincipal := acc.terms.principalAmount, state := .active }

def releaseReported (acc : LoanAccount W) : LoanAccount W :=
  { acc.advanceState with collateralReleased := true, state := .closed }

def cancellationRequested (acc : LoanAccount W) (cancellationId messageId tombstoneHash : W) : LoanAccount W :=
  { acc.advanceState with
    cancellationId := cancellationId
    cancellationMessageId := messageId
    cancellationDisbursementTombstoneHash := tombstoneHash
    state := .recoveryPending }

def refunded (acc : LoanAccount W) (cancellationId : W) : LoanAccount W :=
  { acc.process (operationKey .sourceCompensated cancellationId) with fundingRefunded := true }

def repaid (acc : LoanAccount W) (paymentId : W) (amount : Nat) : LoanAccount W :=
  (acc.process (repaymentOperationKey paymentId)).repay amount

def compensated (acc : LoanAccount W) : LoanAccount W := { acc with fundingRefunded := true, state := .recoveryPending }

end LoanAccount

namespace Home

variable {W : Type} [Evm W]

def Component (D : Deployment W) (a : Address) : Prop := a = D.homeBridgeHub ∨ ∃ σ, a = (D.satellite σ).homeLoanRouter

abbrev Instruction (D : Deployment W) (σ : Nat) (route : W) (a : CrossChainActionType) (payload : Payload W)
    (c : Coordinator W) (e : MessageEnvelope W) : Prop :=
  Outgoing D D.home.toCoordinatorConfig (D.satellite σ).homeLoanRouter route a payload c e

/-- What an account at `a` asks its router for at the end of a transition: nothing, the disbursement of
    the loan, or the release of its collateral. -/
inductive Asks (D : Deployment W) (c : Coordinator W) (a : Address) (acc : LoanAccount W) :
    LoanAccount W → Option (MessageEnvelope W) → Prop
  | nothing : Asks D c a acc acc none
  | disbursement {e : MessageEnvelope W} (awaits : acc.awaitsDisbursement = true)
      (out : Instruction D acc.satellite (D.satellite acc.satellite).policy.disbursementRouteHash
        .homeDisbursementAuthorized
        (legPayload a acc acc.terms.fundingLockId (D.satellite acc.satellite).wrappedUFT acc.terms.principalAmount).encode
        c e) :
      Asks D c a acc { acc with disbursementMessageId := e.messageId } (some e)
  | release {e : MessageEnvelope W}
      (due : (acc.state = .recoveryPending ∧ acc.fundingRefunded = true) ∨
        (acc.state = .active ∧ acc.outstandingPrincipal = 0))
      (out : Instruction D acc.satellite (D.satellite acc.satellite).policy.collateralReleaseRouteHash
        .homeCollateralReleaseAuthorized (releasePayload D a acc).encode c e) :
      Asks D c a acc (acc.close e.messageId) (some e)

/-- The checks of a report about one leg of a loan, up to its account. -/
structure LegReport (D : Deployment W) (σ : Nat) (env : Env W) (e : MessageEnvelope W) (payload : Payload W)
    (p : LoanLegPayload W) (a : Address) (h : Home W) : Prop where
  deliverable : Deliverable D.home.toCoordinatorConfig env e payload h.endpoint.coordinator
  destination : e.destinationComponent = (D.satellite σ).homeLoanRouter
  payload : LoanLegPayload.decode payload = some p
  known : a ≠ 0
  registered : (h.factories σ).loanAccount p.loanId = a
  account : p.homeLoanAccount = a
  borrower : p.borrower = (h.accounts a).terms.borrower

structure Creatable (D : Deployment W) (σ : Nat) (terms : CrossChainLoanTerms W) (a : Address) (h : Home W) : Prop where
  loanId : terms.loanId ≠ 0
  principalAmount : terms.principalAmount ≠ 0
  unregistered : (h.loans terms.loanId).loanAccount = 0
  unassigned : h.hub.loanAccount terms.loanId = 0
  vacant : Vacant D a h

def delivered (h : Home W) (e : MessageEnvelope W) (sent : Option (MessageEnvelope W)) (result : W) (a : Address)
    (acc : LoanAccount W) : Home W :=
  { h with endpoint := h.endpoint.delivered e sent result, accounts := h.accounts.set a acc }

inductive Step (D : Deployment W) (env : Env W) (h : Home W) : Home W → Prop
  | idle : Step D env h h
  | foreign {endpoint : Endpoint W}
      (step : h.endpoint.ForeignStep D D.home env (Component D) (Component D) endpoint) :
      Step D env h { h with endpoint := endpoint }
  | hold {token : Token} {surplus : Nat}
      (kept : h.hub.canonicalUFT.balances D.homeBridgeHub ≤ token.balances D.homeBridgeHub) :
      Step D env h { h with hub := h.hub.holding token surplus }
  | register {loans : Mapping W LoanRecord}
      (kept : ∀ l, (h.loans l).loanAccount ≠ 0 → (loans l).loanAccount = (h.loans l).loanAccount) :
      Step D env h { h with loans := loans }
  | lock {r : LockRequest W} {e : MessageEnvelope W} {token : Token} {surplus : Nat} (ok : h.hub.Lockable D r)
      (loanId : r.loanId = 0)
      (out : Outgoing D D.home.toCoordinatorConfig D.homeBridgeHub r.routePolicyHash .canonicalUftLocked
        (Hub.mintPayload D r.lockId r.loanId r.routePolicyHash r.recipient r.amount).encode h.endpoint.coordinator e)
      (backed : ((h.hub.locked D r e.messageId).holding token surplus).Backed D) :
      Step D env h
        { h with
          endpoint := { h.endpoint with coordinator := h.endpoint.coordinator.recordSent e }
          hub := (h.hub.locked D r e.messageId).holding token surplus }
  | create {σ : Nat} {terms : CrossChainLoanTerms W} {a : Address} {r : LockRequest W} {e : MessageEnvelope W}
      {token : Token} {surplus : Nat} (ok : Creatable D σ terms a h) (lockable : h.hub.Lockable D r)
      (loanId : r.loanId = terms.loanId) (lockId : r.lockId = terms.fundingLockId) (account : r.loanAccount = a)
      (amount : r.amount = terms.principalAmount)
      (out : Outgoing D D.home.toCoordinatorConfig D.homeBridgeHub r.routePolicyHash .canonicalUftLocked
        (Hub.mintPayload D r.lockId r.loanId r.routePolicyHash r.recipient r.amount).encode h.endpoint.coordinator e)
      (backed : ((h.hub.loanLocked D r e.messageId).holding token surplus).Backed D) :
      Step D env h
        { h with
          endpoint := { h.endpoint with coordinator := h.endpoint.coordinator.recordSent e }
          hub := (h.hub.loanLocked D r e.messageId).holding token surplus
          loans := h.loans.set terms.loanId ⟨a, false⟩
          factories := Function.update h.factories σ
            { h.factories σ with loanAccount := (h.factories σ).loanAccount.set terms.loanId a }
          accounts := h.accounts.set a { LoanAccount.deploy terms σ with mintMessageId := e.messageId } }
  | repayDirectly {a : Address} {paymentId : W} {amount : Nat} {acc : LoanAccount W}
      {sent : Option (MessageEnvelope W)} {token : Token}
      (active : (h.accounts a).state = .active) (le : amount ≤ (h.accounts a).outstandingPrincipal)
      (loanId : (h.accounts a).terms.loanId ≠ 0) (sender : a = h.hub.loanAccount (h.accounts a).terms.loanId)
      (backing : amount ≤ h.hub.loanBacking (h.accounts a).terms.loanId)
      (kept : h.hub.canonicalUFT.balances D.homeBridgeHub ≤ token.balances D.homeBridgeHub)
      (asks : Asks D h.endpoint.coordinator a ((h.accounts a).repaid paymentId amount) acc sent) :
      Step D env h
        { h with
          endpoint := { h.endpoint with coordinator := h.endpoint.coordinator.recordSends sent }
          hub := (h.hub.reclassified (h.accounts a).terms.loanId amount).holding token h.hub.lastReportedSurplus
          accounts := h.accounts.set a acc }
  | requestCancellation {σ : Nat} {a : Address} {r : LoanCancellationAuthorization W} {e : MessageEnvelope W}
      {recovery : RecoveryController W} (known : a ≠ 0) (registered : (h.factories σ).loanAccount r.loanId = a)
      (router : r.loanRouter = (D.satellite σ).homeLoanRouter) (activating : (h.accounts a).state = .activating)
      (consumed : ∃ signatures, RecoveryController.consumeLoanCancellationAuthorization D.home env
        (D.satellite σ).homeLoanRouter r signatures h.endpoint.recovery = .ok recovery)
      (out : Instruction D σ (D.satellite σ).policy.disbursementRouteHash .cancellationRequested
        (cancellationPayload D σ a (h.accounts a) r).encode h.endpoint.coordinator e) :
      Step D env h
        { h with
          endpoint := ⟨h.endpoint.coordinator.recordSent e, recovery⟩
          factories := Function.update h.factories σ
            { h.factories σ with
              cancellationMessage := (h.factories σ).cancellationMessage.set
                (loanCancellationAuthorizationDigest D.home r) e.messageId }
          accounts := h.accounts.set a ((h.accounts a).cancellationRequested
            (loanCancellationAuthorizationDigest D.home r) e.messageId r.disbursementTombstoneHash) }

  | reportMint {σ : Nat} {e : MessageEnvelope W} {payload : Payload W} {p : LoanLegPayload W} {a : Address} {result : W}
      {acc : LoanAccount W} {sent : Option (MessageEnvelope W)} (ok : LegReport D σ env e payload p a h)
      (action : e.actionType = .wrappedUftMinted) (activating : (h.accounts a).state = .activating)
      (asks : Asks D (h.endpoint.coordinator.recordVerified e) a ((h.accounts a).mintReported p.operationId) acc sent)
      (hresult : result ≠ 0) :
      Step D env h (h.delivered e sent result a acc)
  | reportCollateral {σ : Nat} {e : MessageEnvelope W} {payload : Payload W} {p : LoanLegPayload W} {a : Address}
      {result : W} {pending acc : LoanAccount W} {sent : Option (MessageEnvelope W)}
      (ok : LegReport D σ env e payload p a h) (action : e.actionType = .satelliteCollateralLocked)
      (unfinished : (h.accounts a).state = .activating ∨ (h.accounts a).state = .recoveryPending)
      (advanced : pending = (h.accounts a).collateralReported p.operationId ∨
        pending = ((h.accounts a).collateralReported p.operationId).advanceState)
      (asks : Asks D (h.endpoint.coordinator.recordVerified e) a pending acc sent) (hresult : result ≠ 0) :
      Step D env h (h.delivered e sent result a acc)
  | reportDisbursement {σ : Nat} {e : MessageEnvelope W} {payload : Payload W} {p : LoanLegPayload W} {a : Address}
      {result : W} (ok : LegReport D σ env e payload p a h) (action : e.actionType = .satelliteDisbursementSettled)
      (unfinished : (h.accounts a).state = .activating ∨ (h.accounts a).resolvesCancellationRace = true)
      (unsettled : (h.accounts a).activated = false) (operation : p.operationId = (h.accounts a).terms.fundingLockId)
      (amount : p.amount = (h.accounts a).terms.principalAmount) (hresult : result ≠ 0) :
      Step D env h (h.delivered e none result a (h.accounts a).disbursementReported)
  | reportRelease {σ : Nat} {e : MessageEnvelope W} {payload : Payload W} {p : LoanLegPayload W} {a : Address}
      {result : W} (ok : LegReport D σ env e payload p a h) (action : e.actionType = .satelliteCollateralReleased)
      (closing : (h.accounts a).state = .closing) (hresult : result ≠ 0) :
      Step D env h
        { h.delivered e none result a (h.accounts a).releaseReported with
          loans := h.loans.modify (h.accounts a).terms.loanId fun loan => { loan with terminal := true } }
  | refund {σ : Nat} {e : MessageEnvelope W} {payload : Payload W} {c : SatelliteFundingCancelledPayload W} {a : Address}
      {result : W} {pending acc : LoanAccount W} {sent : Option (MessageEnvelope W)} {token : Token} {surplus : Nat}
      (ok : Deliverable D.home.toCoordinatorConfig env e payload h.endpoint.coordinator)
      (destination : e.destinationComponent = (D.satellite σ).homeLoanRouter) (action : e.actionType = .sourceCompensated)
      (hpayload : SatelliteFundingCancelledPayload.decode payload = some c) (known : a ≠ 0)
      (registered : (h.factories σ).loanAccount c.loanId = a) (pendingRecovery : (h.accounts a).state = .recoveryPending)
      (unrefunded : (h.accounts a).fundingRefunded = false) (undrawn : (h.accounts a).outstandingPrincipal = 0)
      (refundable : h.hub.Refundable D a (h.accounts a).terms.loanId c.cancellationId c.amount)
      (backed : ((h.hub.refunded D (h.accounts a).terms.loanId c.cancellationId).holding token surplus).Backed D)
      (advanced : pending = (h.accounts a).refunded c.cancellationId ∨
        pending = ((h.accounts a).refunded c.cancellationId).advanceState)
      (asks : Asks D (h.endpoint.coordinator.recordVerified e) a pending acc sent) (hresult : result ≠ 0) :
      Step D env h
        { h.delivered e sent result a acc with
          hub := (h.hub.refunded D (h.accounts a).terms.loanId c.cancellationId).holding token surplus }
  | repay {σ : Nat} {e : MessageEnvelope W} {payload : Payload W} {burn : SatelliteRepaymentBurnedPayload W}
      {a : Address} {result : W} {d : BurnDisposition W} {acc : LoanAccount W} {sent : Option (MessageEnvelope W)}
      {token : Token} {surplus : Nat}
      (ok : Deliverable D.home.toCoordinatorConfig env e payload h.endpoint.coordinator)
      (destination : e.destinationComponent = (D.satellite σ).homeLoanRouter)
      (action : e.actionType = .satelliteRepaymentBurned)
      (hpayload : SatelliteRepaymentBurnedPayload.decode payload = some burn) (known : a ≠ 0)
      (registered : (h.factories σ).loanAccount burn.loanId = a) (active : (h.accounts a).state = .active)
      (loanId : burn.loanId = (h.accounts a).terms.loanId) (le : burn.amount ≤ (h.accounts a).outstandingPrincipal)
      (repayable : h.hub.Repayable D a d) (dLoan : d.loanId = burn.loanId) (dBurn : d.burnId = burn.burnId)
      (dAmount : d.amount = burn.amount) (backed : ((h.hub.repaid D d).holding token surplus).Backed D)
      (asks : Asks D (h.endpoint.coordinator.recordVerified e) a ((h.accounts a).repaid burn.paymentId burn.amount)
        acc sent) (hresult : result ≠ 0) :
      Step D env h { h.delivered e sent result a acc with hub := (h.hub.repaid D d).holding token surplus }
  | exit {e : MessageEnvelope W} {payload : Payload W} {result : W} {d : BurnDisposition W} {token : Token}
      {surplus : Nat} (ok : Deliverable D.home.toCoordinatorConfig env e payload h.endpoint.coordinator)
      (destination : e.destinationComponent = D.homeBridgeHub) (exitable : h.hub.Exitable D e payload d)
      (backed : ((h.hub.exited D d).holding token surplus).Backed D) (hresult : result ≠ 0) :
      Step D env h
        { h with endpoint := h.endpoint.delivered e none result, hub := (h.hub.exited D d).holding token surplus }
  | compensate {e : MessageEnvelope W} {r : RecoveryRequest W} {signatures : List Bytes} {tombstone lockId result : W}
      {payload : Payload W} {signerBitmap : Nat} {token : Token} {surplus : Nat}
      (ok : SourceRecovery D.home env e r signatures tombstone payload signerBitmap h.endpoint)
      (compensable : h.hub.Compensable D e.messageId lockId) (loanId : (h.hub.locks lockId).loanId = 0)
      (backed : ((h.hub.compensated D lockId).holding token surplus).Backed D) (hresult : result ≠ 0) :
      Step D env h
        { h with
          endpoint := h.endpoint.compensated e r signerBitmap tombstone none result
          hub := (h.hub.compensated D lockId).holding token surplus }
  | compensateLoan {e : MessageEnvelope W} {r : RecoveryRequest W} {signatures : List Bytes}
      {tombstone lockId result : W} {payload : Payload W} {signerBitmap : Nat} {token : Token} {surplus : Nat}
      {a : Address} {pending acc : LoanAccount W} {sent : Option (MessageEnvelope W)}
      (ok : SourceRecovery D.home env e r signatures tombstone payload signerBitmap h.endpoint)
      (compensable : h.hub.Compensable D e.messageId lockId) (loanId : (h.hub.locks lockId).loanId ≠ 0)
      (account : a = (h.hub.locks lockId).loanAccount) (activating : (h.accounts a).state = .activating)
      (funding : lockId = (h.accounts a).terms.fundingLockId)
      (advanced : pending = (h.accounts a).compensated ∨
        pending = (h.accounts a).compensated.advanceState)
      (asks : Asks D h.endpoint.coordinator a pending acc sent)
      (backed : ((h.hub.compensated D lockId).holding token surplus).Backed D) (hresult : result ≠ 0) :
      Step D env h
        { h with
          endpoint := h.endpoint.compensated e r signerBitmap tombstone sent result
          hub := (h.hub.compensated D lockId).holding token surplus
          accounts := h.accounts.set a acc }

/-! ### Every call is a step -/

section

variable {D : Deployment W} {env : Env W} {h t : Home W} {e : MessageEnvelope W} {payload : Payload W} {result : W}
  {a : Address} {acc : LoanAccount W}

variable {σ expiresAt : Nat} {loanId m : W} {outcome : Option W} {signatures : List Bytes}
  {exposure : W → ExposureConfig} {sender : Address}

theorem Component.of_routerOf (hr : D.routerOf a = some σ) : a = (D.satellite σ).homeLoanRouter :=
  (D.routerOf_eq a σ).mp hr

theorem not_component (hhub : a ≠ D.homeBridgeHub) (hr : D.routerOf a = none) : ¬ Component D a := by
  rintro (h | ⟨σ, h⟩)
  · exact hhub h
  · rw [(D.routerOf_eq a σ).mpr h] at hr
    cases hr

theorem account_inv (hacc : h.account σ loanId = .ok a) : a ≠ 0 ∧ (h.factories σ).loanAccount loanId = a := by
  simp only [account, block_eq_ok] at hacc
  obtain ⟨⟨hne, -⟩, rfl⟩ := hacc
  exact ⟨hne, rfl⟩

theorem routerSend_inv (henv : env.Agrees D) {route cause : W} {x : CrossChainActionType}
    (hs : h.routerSend D σ env route loanId x payload expiresAt cause = .ok (m, t)) :
    ∃ e, Instruction D σ route x payload h.endpoint.coordinator e ∧ m = e.messageId ∧
      t = h.withCoordinator (h.endpoint.coordinator.recordSent e) := by
  simp only [routerSend, bind_eq_ok, pure_eq_ok, Prod.exists, Prod.mk.injEq] at hs
  obtain ⟨_, _, hsend, rfl, rfl⟩ := hs
  obtain ⟨e, out, -, rfl, rfl⟩ := buildAndSend_outgoing henv hsend
  exact ⟨e, out, rfl, rfl⟩

def asked (h : Home W) (a : Address) (acc : LoanAccount W) (sent : Option (MessageEnvelope W)) : Home W :=
  (h.withCoordinator (h.endpoint.coordinator.recordSends sent)).setAccount a acc

/-- Two readings of an account's storage that agree on what its instructions are made of. -/
def SameLoan (acc acc' : LoanAccount W) : Prop := acc.terms = acc'.terms ∧ acc.satellite = acc'.satellite

theorem maybeAuthorizeDisbursement_inv (henv : env.Agrees D) (hsame : SameLoan (h.accounts a) acc)
    (hm : h.maybeAuthorizeDisbursement D env a acc = .ok t) :
    ∃ acc' sent, Asks D h.endpoint.coordinator a acc acc' sent ∧ t = h.asked a acc' sent := by
  unfold maybeAuthorizeDisbursement at hm
  split at hm
  next hawaits =>
    simp only [authorizeDisbursement, block_eq_ok, Prod.exists] at hm
    obtain ⟨_, _, ⟨_, hacc, rfl, hsend⟩, rfl⟩ := hm
    obtain ⟨e, out, rfl, rfl⟩ := routerSend_inv henv hsend
    refine ⟨_, _, .disbursement hawaits ?_, rfl⟩
    unfold legPayload at out ⊢
    rwa [hsame.1] at out
  next =>
    cases pure_eq_ok.mp hm
    exact ⟨_, _, .nothing, rfl⟩

theorem enterClosing_inv (henv : env.Agrees D) (hsame : SameLoan (h.accounts a) acc)
    (hm : h.enterClosing D env a acc = .ok t) :
    ∃ e, Instruction D acc.satellite (D.satellite acc.satellite).policy.collateralReleaseRouteHash
        .homeCollateralReleaseAuthorized (releasePayload D a acc).encode h.endpoint.coordinator e ∧
      t = h.asked a (acc.close e.messageId) (some e) := by
  simp only [enterClosing, authorizeCollateralRelease, block_eq_ok, Prod.exists] at hm
  obtain ⟨_, _, ⟨_, hacc, rfl, hsend⟩, rfl⟩ := hm
  obtain ⟨e, out, rfl, rfl⟩ := routerSend_inv henv hsend
  refine ⟨e, ?_, rfl⟩
  unfold releasePayload legPayload at out ⊢
  rwa [hsame.1, hsame.2] at out

theorem closeIf_inv (henv : env.Agrees D) (hsame : SameLoan (h.accounts a) acc) (hactive : acc.state = .active)
    (hm : h.closeIf (acc.outstandingPrincipal == 0) D env a acc = .ok t) :
    ∃ acc' sent, Asks D h.endpoint.coordinator a acc acc' sent ∧ t = h.asked a acc' sent := by
  unfold closeIf at hm
  split at hm
  next hc =>
    obtain ⟨e, out, rfl⟩ := enterClosing_inv henv hsame hm
    exact ⟨_, _, .release (.inr ⟨hactive, eq_of_beq hc⟩) out, rfl⟩
  next =>
    cases pure_eq_ok.mp hm
    exact ⟨_, _, .nothing, rfl⟩

/-- The home state while a destination component runs, and after it returned. -/
def verifying (h : Home W) (e : MessageEnvelope W) : Home W :=
  h.withCoordinator (h.endpoint.coordinator.recordVerified e)

def executed (h : Home W) (e : MessageEnvelope W) (result : W) : Home W :=
  h.withCoordinator (h.endpoint.coordinator.recordExecuted e result)

theorem handleLeg_step (henv : env.Agrees D)
    (hd : Deliverable D.home.toCoordinatorConfig env e payload h.endpoint.coordinator)
    (hdest : e.destinationComponent = (D.satellite σ).homeLoanRouter) (hr : result ≠ 0)
    (hh : handleLeg D σ env e.actionType payload (h.verifying e) = .ok (result, t)) :
    Step D env h (t.executed e result) := by
  simp only [handleLeg, validatedAccount, block_eq_ok, orRevert_eq_ok] at hh
  obtain ⟨hactions, p, hp, _, ⟨a, hacc, ⟨hself, hborrower, -⟩, rfl⟩, hh⟩ := hh
  obtain ⟨hne, hreg⟩ := account_inv hacc
  have ok : LegReport D σ env e payload p a h := ⟨hd, hdest, hp, hne, hreg, hself, hborrower⟩
  split at hh
  next haction =>
    simp only [recordMintConfirmed, LoanAccount.recordMintConfirmed, block_eq_ok, Prod.mk.injEq] at hh
    obtain ⟨_, ⟨_, ⟨⟨hstate, -⟩, rfl⟩, hm⟩, -, rfl⟩ := hh
    obtain ⟨_, _, asks, rfl⟩ := maybeAuthorizeDisbursement_inv henv (by exact ⟨rfl, rfl⟩) hm
    exact .reportMint ok haction hstate asks hr
  split at hh
  next haction =>
    simp only [recordCollateralLocked, LoanAccount.recordCollateralLocked, block_eq_ok, Prod.mk.injEq] at hh
    obtain ⟨u, ⟨_, ⟨⟨hstate, -⟩, rfl⟩, hm⟩, -, rfl⟩ := hh
    split at hm
    next hpending =>
      split at hm
      next hrefunded =>
        obtain ⟨_, out, rfl⟩ := enterClosing_inv henv (by exact ⟨rfl, rfl⟩) hm
        exact .reportCollateral ok haction hstate (.inl rfl) (.release (.inl ⟨hpending, hrefunded⟩) out) hr
      next =>
        cases pure_eq_ok.mp hm
        exact .reportCollateral ok haction hstate (.inr rfl) .nothing hr
    next =>
      obtain ⟨_, _, asks, rfl⟩ := maybeAuthorizeDisbursement_inv henv (by exact ⟨rfl, rfl⟩) hm
      exact .reportCollateral ok haction hstate (.inr rfl) asks hr
  split at hh
  next haction =>
    simp only [recordDisbursement, LoanAccount.recordDisbursement, block_eq_ok, Prod.mk.injEq] at hh
    obtain ⟨_, ⟨_, ⟨⟨hstate, -, -, hop, hun, hamt, -⟩, rfl⟩, rfl⟩, -, rfl⟩ := hh
    rw [hop] at hun ⊢
    exact .reportDisbursement ok haction hstate hun hop hamt hr
  next hmint hcoll hdis =>
    have haction : e.actionType = .satelliteCollateralReleased := by tauto
    simp only [recordCollateralReleased, LoanAccount.recordCollateralReleased, block_eq_ok, Prod.mk.injEq] at hh
    obtain ⟨_, ⟨_, ⟨⟨hstate, -⟩, rfl⟩, rfl⟩, -, rfl⟩ := hh
    exact .reportRelease ok haction hstate hr

theorem handleCancellation_step (henv : env.Agrees D)
    (hd : Deliverable D.home.toCoordinatorConfig env e payload h.endpoint.coordinator)
    (hdest : e.destinationComponent = (D.satellite σ).homeLoanRouter) (haction : e.actionType = .sourceCompensated)
    (hr : result ≠ 0) (hh : handleCancellation D σ env payload (h.verifying e) = .ok (result, t)) :
    Step D env h (t.executed e result) := by
  simp only [handleCancellation, recordCancellationCompensated, LoanAccount.beginCancellation, block_eq_ok,
    orRevert_eq_ok, Prod.mk.injEq] at hh
  obtain ⟨c, hc, a, hacc, -, u, ⟨_, ⟨⟨hstate, -, -, -, -, -, -, -, -, -, -, hun, hzero, -⟩, rfl⟩, hub, hrefund, hm⟩, -,
    rfl⟩ := hh
  obtain ⟨hne, hreg⟩ := account_inv hacc
  obtain ⟨token, surplus, hok, rfl, hbacked⟩ := Hub.refundCancelledLoan_inv henv hrefund
  split at hm
  next =>
    obtain ⟨_, out, rfl⟩ := enterClosing_inv henv (by exact ⟨rfl, rfl⟩) hm
    exact .refund hd hdest haction hc hne hreg hstate hun hzero hok hbacked (.inl rfl)
      (.release (.inl ⟨hstate, rfl⟩) out) hr
  next =>
    cases pure_eq_ok.mp hm
    exact .refund hd hdest haction hc hne hreg hstate hun hzero hok hbacked (.inr rfl) .nothing hr

theorem handleRepayment_step (henv : env.Agrees D)
    (hd : Deliverable D.home.toCoordinatorConfig env e payload h.endpoint.coordinator)
    (hdest : e.destinationComponent = (D.satellite σ).homeLoanRouter)
    (haction : e.actionType = .satelliteRepaymentBurned) (hr : result ≠ 0)
    (hh : handleRepayment D σ env payload (h.verifying e) = .ok (result, t)) : Step D env h (t.executed e result) := by
  simp only [handleRepayment, recordRemoteRepayment, LoanAccount.beginRemoteRepayment, block_eq_ok, orRevert_eq_ok,
    Prod.mk.injEq] at hh
  obtain ⟨burn, hburn, a, hacc, -, u, ⟨_, ⟨⟨hstate, hloan, -⟩, hle, rfl⟩, hub, hrelease, hm⟩, -, rfl⟩ := hh
  obtain ⟨hne, hreg⟩ := account_inv hacc
  obtain ⟨d, token, surplus, hok, hdl, hdb, hda, rfl, hbacked⟩ := Hub.releaseLoanBacking_inv henv hrelease
  obtain ⟨_, _, asks, rfl⟩ := closeIf_inv henv (by exact ⟨rfl, rfl⟩) (by exact hstate) hm
  exact .repay hd hdest haction hburn hne hreg hstate hloan hle hok (hdl.trans hloan.symm) hdb hda hbacked asks hr

theorem executeMessage_step (henv : env.Agrees D) (hh : executeMessage D env e payload outcome h = .ok t) :
    Step D env h t := by
  simp only [executeMessage, bind_eq_ok] at hh
  obtain ⟨v, hv, hh⟩ := hh
  cases v with
  | replayed =>
    cases pure_eq_ok.mp hh
    exact .idle
  | verified =>
    obtain ⟨hd, rfl⟩ := Coordinator.verifyMessage_eq_verified.mp hv
    simp only [bind_eq_ok, pure_eq_ok, Prod.exists, Coordinator.complete_eq_ok] at hh
    obtain ⟨result, u, hhandle, _, ⟨hr, rfl⟩, rfl⟩ := hh
    unfold handleCrossChainMessage at hhandle
    split at hhandle
    next hdest =>
      simp only [bind_eq_ok, pure_eq_ok, Prod.exists, Prod.mk.injEq] at hhandle
      obtain ⟨_, _, hhub, rfl, rfl⟩ := hhandle
      obtain ⟨d, token, surplus, hok, rfl, hbacked⟩ := Hub.handleCrossChainMessage_inv henv hhub
      exact .exit hd hdest hok hbacked hr
    next hhub =>
      split at hhandle
      next σ hrouter =>
        have hdest := Component.of_routerOf hrouter
        unfold handleRouterMessage at hhandle
        split at hhandle
        next haction => exact handleRepayment_step henv hd hdest haction hr hhandle
        split at hhandle
        next haction => exact handleCancellation_step henv hd hdest haction hr hhandle
        next => exact handleLeg_step henv hd hdest hr hhandle
      next hrouter =>
        simp only [bind_eq_ok, pure_eq_ok, orRevert_eq_ok, Prod.mk.injEq] at hhandle
        obtain ⟨_, -, rfl, rfl⟩ := hhandle
        exact .foreign (.deliver hd hr (not_component hhub hrouter))

theorem compensateSource_step (henv : env.Agrees D) {r : RecoveryRequest W} {tombstone : W}
    (hh : compensateSource D env e r signatures tombstone payload outcome h = .ok t) : Step D env h t := by
  simp only [compensateSource, bind_eq_ok] at hh
  obtain ⟨v, hv, hh⟩ := hh
  cases v with
  | replayed =>
    cases pure_eq_ok.mp hh
    exact .idle
  | authorized =>
    obtain ⟨signerBitmap, hd, rfl⟩ := Endpoint.authorizeCompensation_inv hv
    simp only [bind_eq_ok, pure_eq_ok, Prod.exists, Endpoint.completeCompensation_eq_ok] at hh
    obtain ⟨result, u, hcomp, _, ⟨hr, rfl⟩, rfl⟩ := hh
    unfold compensateMessage at hcomp
    split at hcomp
    next =>
      simp only [compensateLock, block_eq_ok, orRevert_eq_ok] at hcomp
      obtain ⟨-, lockId, -, hub, hbegin, hcomp⟩ := hcomp
      obtain ⟨hok, rfl⟩ := Hub.beginCompensation_inv henv hbegin
      split at hcomp
      next hloan =>
        simp only [bind_eq_ok, pure_eq_ok, Prod.exists, Prod.mk.injEq] at hcomp
        obtain ⟨_, rfl, _, _, hfinish, rfl, rfl⟩ := hcomp
        obtain ⟨token, surplus, rfl, hbacked⟩ := Hub.finishCompensation_inv hfinish
        exact .compensate hd hok hloan hbacked hr
      next hloan =>
        simp only [onFundingCompensated, LoanAccount.beginFundingCompensation, block_eq_ok, Prod.exists,
          Prod.mk.injEq] at hcomp
        obtain ⟨v, ⟨_, ⟨⟨hfund, hstate⟩, rfl⟩, hm⟩, _, _, hfinish, rfl, rfl⟩ := hcomp
        obtain ⟨token, surplus, rfl, hbacked⟩ := Hub.finishCompensation_inv hfinish
        split at hm
        next =>
          obtain ⟨_, out, rfl⟩ := enterClosing_inv henv (by exact ⟨rfl, rfl⟩) hm
          exact .compensateLoan hd hok hloan rfl hstate hfund (.inl rfl) (.release (.inl ⟨rfl, rfl⟩) out) hbacked hr
        next =>
          cases pure_eq_ok.mp hm
          exact .compensateLoan hd hok hloan rfl hstate hfund (.inr rfl) .nothing hbacked hr
    next hhub =>
      simp only [block_eq_ok, orRevert_eq_ok, Prod.mk.injEq] at hcomp
      obtain ⟨hrouter, _, -, rfl, rfl⟩ := hcomp
      exact .foreign (.compensate hd hr (not_component hhub hrouter))

theorem lock_inv (henv : env.Agrees D) {r : LockRequest W} (hl : h.lock D env exposure r = .ok (m, t)) :
    ∃ e token surplus, h.hub.Lockable D r ∧
      Outgoing D D.home.toCoordinatorConfig D.homeBridgeHub r.routePolicyHash .canonicalUftLocked
        (Hub.mintPayload D r.lockId r.loanId r.routePolicyHash r.recipient r.amount).encode h.endpoint.coordinator e ∧
      ((h.hub.locked D r e.messageId).holding token surplus).Backed D ∧ m = e.messageId ∧
      t = { h.withCoordinator (h.endpoint.coordinator.recordSent e) with
        hub := (h.hub.locked D r e.messageId).holding token surplus } := by
  simp only [lock, bind_eq_ok, pure_eq_ok, Prod.exists, Prod.mk.injEq] at hl
  obtain ⟨_, hres, _, _, hsend, _, hbal, rfl, rfl⟩ := hl
  obtain ⟨hok, token, rfl⟩ := Hub.reserve_inv henv hres
  obtain ⟨e, out, -, rfl, rfl⟩ := buildAndSend_outgoing henv hsend
  obtain ⟨hbacked, surplus, rfl⟩ := Hub.requireBackingBalance_inv hbal
  exact ⟨e, token, surplus, hok, out, hbacked, rfl, rfl⟩

theorem createLoan_step (henv : env.Agrees D) {terms : CrossChainLoanTerms W}
    (hc : h.createLoan D env exposure σ sender terms expiresAt a = .ok t) : Step D env h t := by
  simp only [createLoan, registerLoan, lockForLoan, Hub.assignLoan, LoanAccount.bindOrigination, block_eq_ok,
    Prod.exists, Prod.mk.injEq] at hc
  obtain ⟨⟨-, hloan, -, -, -, -, -, -, hprincipal, -, -, -, hun⟩, hvacant, -, _, ⟨-, -, rfl⟩, _, _,
    ⟨_, ⟨⟨-, hassign⟩, rfl⟩, _, _, hlock, rfl, rfl⟩, _, ⟨-, rfl⟩, rfl⟩ := hc
  obtain ⟨e, token, surplus, hok, out, hbacked, rfl, rfl⟩ := lock_inv henv hlock
  have ok : Creatable D σ terms a h := ⟨hloan, hprincipal, hun, hassign, hvacant⟩
  have hlockable : h.hub.Lockable D ⟨terms.fundingLockId, terms.loanId, a, terms.lender,
      (D.satellite σ).satelliteSettlementVault, terms.principalAmount, (D.satellite σ).policy.mintRouteHash, expiresAt⟩ :=
    ⟨hok.lockId, hok.amount, hok.fresh, hok.source⟩
  simp only [setAccount, setFactory, withCoordinator, Mapping.set_self, Mapping.set_set]
  exact .create ok hlockable rfl rfl rfl rfl out hbacked

theorem directHomeRepayment_step (henv : env.Agrees D) {paymentId : W} {amount : Nat} (hext : sender ≠ D.homeBridgeHub)
    (hr : h.directHomeRepayment D env a sender paymentId amount = .ok t) : Step D env h t := by
  simp only [directHomeRepayment, LoanAccount.beginDirectRepayment, block_eq_ok, Token.transferExact_eq_ok] at hr
  obtain ⟨_, ⟨⟨hstate, -⟩, hle, rfl⟩, _, ⟨-, -, -, hcov, rfl⟩, _, hre, hm⟩ := hr
  simp only [Hub.reclassifyLoanBacking, block_eq_ok] at hre
  obtain ⟨⟨hloan, -, hsender, hback⟩, rfl⟩ := hre
  obtain ⟨_, _, asks, rfl⟩ := closeIf_inv henv (by exact ⟨rfl, rfl⟩) (by exact hstate) hm
  exact .repayDirectly hstate hle hloan hsender hback (Token.le_move hcov hext.symm) asks

theorem authorizeCancellation_step (henv : env.Agrees D) {r : LoanCancellationAuthorization W}
    (hr : h.authorizeCancellation D σ env r signatures = .ok t) : Step D env h t := by
  simp only [authorizeCancellation, block_eq_ok] at hr
  obtain ⟨a, hacc, ⟨hrouter, -⟩, hr⟩ := hr
  obtain ⟨hne, hreg⟩ := account_inv hacc
  split at hr
  next =>
    cases pure_eq_ok.mp hr
    exact .idle
  next =>
    simp only [dispatchCancellation, LoanAccount.requestCancellation, block_eq_ok, Prod.exists] at hr
    obtain ⟨_, hconsume, _, _, hsend, _, ⟨⟨hstate, -⟩, rfl⟩, rfl⟩ := hr
    obtain ⟨e, out, rfl, rfl⟩ := routerSend_inv henv hsend
    exact .requestCancellation hne hreg hrouter hstate ⟨signatures, hconsume⟩ out

theorem call_step (henv : env.Agrees D) {c : HomeCall W} (hc : call D env c h = .ok t) : Step D env h t := by
  cases c with
  | transferUFT =>
    simp only [call, block_eq_ok, Token.transfer_eq_ok] at hc
    obtain ⟨hext, _, ⟨-, -, hle, rfl⟩, rfl⟩ := hc
    exact .hold (Token.le_move hle hext.1.symm)
  | burnUFT =>
    simp only [call, block_eq_ok, Token.burn_eq_ok] at hc
    obtain ⟨hext, _, ⟨-, hle, rfl⟩, rfl⟩ := hc
    exact .hold (Token.debit_of_ne hle hext.1.symm).ge
  | reconcileSurplus =>
    simp only [call, bind_eq_ok, pure_eq_ok] at hc
    obtain ⟨_, hbal, rfl⟩ := hc
    obtain ⟨-, surplus, rfl⟩ := Hub.requireBackingBalance_inv hbal
    exact .hold (Nat.le_refl _)
  | lockForBridge =>
    simp only [call, lockForBridge, block_eq_ok, Prod.exists] at hc
    obtain ⟨-, _, _, hlock, rfl⟩ := hc
    obtain ⟨e, token, surplus, hok, out, hbacked, -, rfl⟩ := lock_inv henv hlock
    exact .lock hok rfl out hbacked
  | createLoan => exact createLoan_step henv (require_bind_eq_ok.mp hc).2
  | registerLoan =>
    simp only [call, registerLoan, block_eq_ok] at hc
    obtain ⟨-, hun, rfl⟩ := hc
    refine .register fun l hl => ?_
    rw [Mapping.set_of_ne _ _ (by rintro rfl; exact hl hun)]
  | markTerminal =>
    simp only [call, block_eq_ok] at hc
    obtain ⟨-, rfl⟩ := hc
    refine .register fun l _ => ?_
    rw [Mapping.modify_apply]
    split <;> rfl
  | directHomeRepayment =>
    obtain ⟨hext, hc⟩ := require_bind_eq_ok.mp hc
    exact directHomeRepayment_step henv hext.1 hc
  | authorizeCancellation => exact authorizeCancellation_step henv hc
  | sendMessage =>
    simp only [call, block_eq_ok, Coordinator.sendMessage_eq_ok] at hc
    obtain ⟨hext, _, ⟨hs, rfl⟩, rfl⟩ := hc
    exact .foreign (.send (hs.outgoing henv) (not_component hext.1 hext.2))
  | executeMessage => exact executeMessage_step henv hc
  | recordAcknowledgement =>
    simp only [call, bind_eq_ok, pure_eq_ok] at hc
    obtain ⟨_, hack, rfl⟩ := hc
    obtain ⟨ok, rfl | ⟨hzero, hat, rfl⟩⟩ := Coordinator.recordAcknowledgement_inv hack
    · exact .idle
    · exact .foreign (.acknowledge ok hzero hat)
  | recordDestinationTombstone =>
    simp only [call, bind_eq_ok, pure_eq_ok] at hc
    obtain ⟨_, htomb, rfl⟩ := hc
    rcases Endpoint.recordDestinationTombstone_inv htomb with rfl | ⟨signerBitmap, ok, rfl⟩
    · exact .idle
    · exact .foreign (.tombstone ok)
  | compensateSource => exact compensateSource_step henv hc

end

end Home

end Unified.CrossChain
