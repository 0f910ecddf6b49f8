import Unified.Collateral.Exposure

/-! Which loan a collateral id belongs to. The manager writes the loan of an id at the end of a deposit and has asked for a
    free id at its beginning; in between, the token has control. -/

namespace Unified.Collateral

open CallTree

variable {W : Type} [Evm W]

def SameId (a b : Context × Op W) : Prop := ∃ collateralId, a.2.lockedId = some collateralId ∧
  b.2.lockedId = some collateralId

namespace World

variable {d : Deployment W} {ctx : Context} {s t u w : World W}

/-! ### What a call does to the register of ids -/

/-- The register of ids is the same, and no item or vault has appeared. -/
structure SameRegister (s t : World W) : Prop where
  collateralLoan : t.custody.collateralLoan = s.custody.collateralLoan
  items : ∀ k, (t.custody.items k).status ≠ .none → (s.custody.items k).status ≠ .none
  vaults : ∀ l, t.custody.vaults l = true → l ≠ 0 ∨ s.custody.vaults l = true

theorem SameRegister.of_custody (h : t.custody = s.custody) : SameRegister s t := by
  rw [show t = { t with custody := s.custody } by rw [← h]]
  exact ⟨rfl, fun _ hk => hk, fun _ hl => .inr hl⟩

structure Registers (loanId collateralId : W) (s t : World W) : Prop where
  collateralLoan : t.custody.collateralLoan = s.custody.collateralLoan.set collateralId loanId
  items : ∀ k, (t.custody.items k).status ≠ .none → k = (loanId, collateralId) ∨ (s.custody.items k).status ≠ .none
  vaults : t.custody.vaults = s.custody.vaults

/-- Something that calls keep and relate, as far as it is about the register of ids. -/
structure OfRegister (inv : World W → Prop) (rel : World W → World W → Prop) : Prop where
  same : ∀ s t, SameRegister s t → inv s → inv t ∧ rel s t
  trans : ∀ s t u, rel s t → rel t u → rel s u

section

variable {inv : World W → Prop} {rel : World W → World W → Prop} (hr : OfRegister inv rel)
  {before after : World W → World W}

include hr

theorem OfRegister.hand {inner : World W → World W} (kind : CollateralKind) (h : Keeps inv rel inner) :
    Keeps inv rel (hand kind inner) := by
  intro w hw
  unfold World.hand
  split
  · exact hr.same w w (.of_custody rfl) hw
  · exact h w hw

theorem OfRegister.then (h : inv t ∧ rel s t) (hsame : SameRegister t u) : inv u ∧ rel s u := by
  obtain ⟨hu, htu⟩ := hr.same t u hsame h.1
  exact ⟨hu, hr.trans _ _ _ h.2 htu⟩

theorem OfRegister.next (h : inv t ∧ rel s t) (hnext : inv t → inv u ∧ rel t u) : inv u ∧ rel s u :=
  ⟨(hnext h.1).1, hr.trans _ _ _ h.2 (hnext h.1).2⟩

/-- A deposit hands over control, and then writes its id. -/
theorem lock_registers {kind : CollateralKind} {loanId collateralId assetId : W} {tokenId amount : Nat}
    (hbefore : Keeps inv rel before) (hafter : Keeps inv rel after)
    (h : lock d ctx kind loanId collateralId assetId tokenId amount before after s = .ok t) (hs : inv s) :
    s.custody.collateralLoan collateralId = 0 ∧ (loanId ≠ 0 ∨ s.custody.vaults loanId = true) ∧
      ∃ u, inv u ∧ rel s u ∧ Registers loanId collateralId u t := by
  obtain ⟨item, v, u, rfl, -, -, -, -, hdeposit⟩ := lock_course h
  obtain ⟨configuration, hvalid⟩ := hdeposit.valid
  obtain ⟨-, -, -, hfree, -⟩ := Deposit.validateDeposit_ok hvalid
  obtain ⟨m, hm, hu⟩ := hdeposit.moved
  have hstart : SameRegister s v := by
    obtain ⟨c, hc, rfl⟩ := hdeposit.start
    exact ⟨hc.collateralLoan, fun k hk => by rwa [← hc.items], hc.vaults⟩
  have hmove : SameRegister (hand kind before v) m := .of_custody (by rw [(move_paid hm).rest])
  have hv := hr.next (hr.same s v hstart hs) (hr.hand kind hbefore v)
  have hend := hr.next (hr.then hv hmove) (hr.hand kind hafter m)
  rw [hu] at hend
  refine ⟨hfree, hdeposit.named, u, hend.1, hend.2, ?_⟩
  rw [← hdeposit.finish]
  refine ⟨rfl, fun k hk => ?_, rfl⟩
  by_cases heq : k = (loanId, item.collateralId)
  · exact .inl heq
  · simp only [Custody.register, Custody.store, Mapping.set_of_ne _ _ heq] at hk
    exact .inr hk

theorem dispose_register {loanId collateralId : W} {recipient : Address} {quantity : Nat} {target : CollateralStatus}
    (hbefore : Keeps inv rel before) (hafter : Keeps inv rel after)
    (h : dispose d ctx loanId collateralId recipient quantity target before after s = .ok t) (hs : inv s) :
    inv t ∧ rel s t := by
  obtain ⟨v, r, m, u, hdisposal⟩ := dispose_course h
  have hstart : SameRegister s v := by
    rw [← hdisposal.start]
    refine ⟨rfl, fun k hk => ?_, fun l hl => .inr hl⟩
    by_cases heq : k = (loanId, collateralId)
    · rw [heq, hdisposal.locked]
      exact nofun
    · simp only [Mapping.set_of_ne _ _ heq] at hk
      exact hk
  have hasked := hr.next (hr.same s v hstart hs) (hr.hand (s.custody.items (loanId, collateralId)).kind hbefore v)
  rw [hdisposal.asked] at hasked
  have hmove : SameRegister r m := .of_custody (by rw [(move_paid hdisposal.moved).rest])
  have hhanded := hr.next (hr.then hasked hmove) (hafter m)
  rw [hdisposal.handed] at hhanded
  rw [← hdisposal.finish]
  exact hr.then hhanded ⟨rfl, fun _ hk => hk, fun _ hl => .inr hl⟩

/-- A call keeps what is about the register, if the calls from inside it do; only a deposit writes an id at its end. -/
theorem perform_register {call : Context × Op W} (hbefore : Keeps inv rel before)
    (hafter : Keeps inv rel after) (h : perform d call before after s = .ok t) (hs : inv s) :
    (inv t ∧ rel s t) ∨ ∃ loanId collateralId u, call.2.lockedId = some collateralId ∧
      s.custody.collateralLoan collateralId = 0 ∧ (loanId ≠ 0 ∨ s.custody.vaults loanId = true) ∧ inv u ∧ rel s u ∧
      Registers loanId collateralId u t := by
  cases perform_course h with
  | outside h => exact .inl (hr.same s t (.of_custody h.custody) hs)
  | configured _ hc ht =>
    subst ht
    exact .inl (hr.same s _ ⟨hc.collateralLoan, fun k hk => by rwa [← hc.items], hc.vaults⟩ hs)
  | locked _ loanId collateralId _ _ _ _ hid _ h =>
    obtain ⟨hfree, hnamed, u, hu, hsu, hreg⟩ := lock_registers hr hbefore hafter h hs
    exact .inr ⟨loanId, collateralId, u, hid, hfree, hnamed, hu, hsu, hreg⟩
  | disposed _ _ _ _ _ v _ hv h ht =>
    have hdisposed := hr.next (hr.same s v (.of_custody hv.custody) hs) (dispose_register hr hbefore hafter h)
    exact .inl (hr.then hdisposed (.of_custody ht.custody))

end

/-! ### Ids that are not locked from inside -/

def StaysAt (collateralId : W) (s t : World W) : Prop :=
  t.custody.collateralLoan collateralId = s.custody.collateralLoan collateralId

def Stays (s t : World W) : Prop := ∀ collateralId, s.custody.collateralLoan collateralId ≠ 0 → StaysAt collateralId s t

theorem Stays.trans (h : Stays s t) (h' : Stays t u) : Stays s u := by
  intro cid hne
  have hst := h cid hne
  exact (h' cid (by rw [hst]; exact hne)).trans hst

theorem staysAt_ofRegister (collateralId : W) : OfRegister (fun _ => True) (StaysAt collateralId) where
  same s t h _ := ⟨trivial, by rw [StaysAt, h.collateralLoan]⟩
  trans _ _ _ h h' := h'.trans h

/-- Calls that do not lock an id leave it where it is. -/
theorem unlocked_staysAt {collateralId : W} {calls : List (Call W)}
    (h : ∀ o ∈ opsAll calls, o.2.lockedId ≠ some collateralId) :
    Keeps (fun _ => True) (StaysAt collateralId) (execAll (perform d) calls) := by
  refine execAll_keeps (fun c => ∀ o ∈ ops c, o.2.lockedId ≠ some collateralId) (fun _ => True)
    (StaysAt collateralId) ?_ (fun _ => rfl) (staysAt_ofRegister collateralId).trans ?_ calls
    fun c hc o ho => h o (mem_opsAll.mpr ⟨c, hc, ho⟩)
  · intro op before after hgood
    constructor <;> intro c hc o ho <;> refine hgood o ?_ <;>
      simp only [ops, List.mem_cons, List.mem_append, mem_opsAll]
    · exact .inr (.inl ⟨c, hc, ho⟩)
    · exact .inr (.inr ⟨c, hc, ho⟩)
  · intro op before after s t hgood hbefore hafter hperform _
    rcases perform_register (staysAt_ofRegister collateralId) hbefore hafter hperform trivial with
      hkept | ⟨loanId, locked, u, hid, -, -, -, hsu, hreg⟩
    · exact hkept
    · have hne : collateralId ≠ locked := by
        rintro rfl
        exact hgood op (by simp only [ops, List.mem_cons, true_or]) hid
      refine ⟨trivial, ?_⟩
      rw [StaysAt, hreg.collateralLoan, Mapping.set_of_ne _ _ hne]
      exact hsu

/-- Every recorded item is registered for the loan in whose vault it is. -/
structure Placed (w : World W) : Prop where
  vaults : ∀ l, w.custody.vaults l = true → l ≠ 0
  items : ∀ l cid, (w.custody.items (l, cid)).status ≠ .none → l ≠ 0 ∧ w.custody.collateralLoan cid = l

theorem Placed.sameRegister (hs : Placed s) (h : SameRegister s t) : Placed t where
  vaults l hl := (h.vaults l hl).elim id (hs.vaults l)
  items l cid hk := by
    rw [h.collateralLoan]
    exact hs.items l cid (h.items _ hk)

/-- An id that is free when it is written belongs to no other loan. -/
theorem Placed.registers {loanId collateralId : W} (hu : Placed u) (hnamed : loanId ≠ 0)
    (hfree : u.custody.collateralLoan collateralId = 0) (h : Registers loanId collateralId u t) : Placed t where
  vaults l hl := hu.vaults l (by rwa [h.vaults] at hl)
  items l cid hk := by
    rw [h.collateralLoan]
    rcases h.items _ hk with heq | hk
    · obtain ⟨rfl, rfl⟩ := Prod.mk.inj heq
      exact ⟨hnamed, Mapping.set_self ..⟩
    · obtain ⟨hl, hbelongs⟩ := hu.items l cid hk
      have hne : cid ≠ collateralId := by
        rintro rfl
        exact hl (hbelongs.symm.trans hfree)
      exact ⟨hl, by rw [Mapping.set_of_ne _ _ hne]; exact hbelongs⟩

/-- A call in which no id is locked inside of a call that locks the same id leaves every id with its loan. -/
theorem apart_keeps (c : Call W) (hapart : c.Apart SameId) (h : exec d c s = .ok t) (hs : Placed s) :
    Placed t ∧ Stays s t := by
  refine exec_keeps (Apart SameId) Placed Stays ?_ (fun _ _ _ => rfl) (fun _ _ _ => Stays.trans) ?_ c
    hapart s t h hs
  · intro op before after hgood
    rw [Apart] at hgood
    exact ⟨apartAll_iff.mp hgood.2.1, apartAll_iff.mp hgood.2.2⟩
  · intro op before after s t hgood hbefore hafter hperform hs
    rw [Apart] at hgood
    -- The inner calls also leave the id alone that this call locks, if it locks one.
    have hinner : ∀ calls : List (Call W), (∀ o ∈ opsAll calls, o ∈ opsAll before ++
        opsAll after) → Keeps Placed Stays (execAll (perform d) calls) →
        Keeps Placed (fun s t => Stays s t ∧ ∀ cid, op.2.lockedId = some cid → StaysAt cid s t)
          (execAll (perform d) calls) := by
      intro calls hmem hkeeps w hw
      refine ⟨(hkeeps w hw).1, (hkeeps w hw).2, fun cid hid => ?_⟩
      exact (unlocked_staysAt (fun o ho ho' => hgood.1 o (hmem o ho) ⟨cid, hid, ho'⟩) w trivial).2
    have hregister : OfRegister Placed
        (fun s t : World W => Stays s t ∧ ∀ cid, op.2.lockedId = some cid → StaysAt cid s t) := by
      refine ⟨fun s t h hs => ⟨hs.sameRegister h, fun cid _ => ?_, fun cid _ => ?_⟩, fun s t u h h' => ?_⟩
      · rw [StaysAt, h.collateralLoan]
      · rw [StaysAt, h.collateralLoan]
      · exact ⟨h.1.trans h'.1, fun cid hid => (h'.2 cid hid).trans (h.2 cid hid)⟩
    rcases perform_register hregister (hinner before (fun o ho => List.mem_append_left _ ho) hbefore)
      (hinner after (fun o ho => List.mem_append_right _ ho) hafter) hperform hs with
      ⟨ht, hst, -⟩ | ⟨loanId, cid, u, hid, hfree, hnamed, hu, ⟨hsu, hat⟩, hreg⟩
    · exact ⟨ht, hst⟩
    · have hfree' : u.custody.collateralLoan cid = 0 := (hat cid hid).trans hfree
      refine ⟨hu.registers (hnamed.elim id (hs.vaults loanId)) hfree' hreg, fun cid' hne => ?_⟩
      have hne' : cid' ≠ cid := by
        rintro rfl
        exact hne hfree
      rw [StaysAt, hreg.collateralLoan, Mapping.set_of_ne _ _ hne']
      exact hsu cid' hne

/-! ### Whole runs -/

/-- No collateral has been recorded yet, and there is one of each non-fungible token. -/
structure Fresh (w : World W) : Prop where
  custody : w.custody = default
  deposited : w.deposited = .empty
  disposed : w.disposed = .empty
  single : ∀ key, key.kind = .erc721 → (w.assets key).totalSupply ≤ 1

theorem Fresh.custodyInv (h : Fresh w) : CustodyInv d w := by
  refine ⟨fun l a => ?_, fun l a => ?_, fun b a => ?_, fun l a hne => ?_, fun l key => ?_, fun k _ => ?_, fun k => ?_,
    h.single, ?_, ?_, fun l cid hrel => ?_⟩ <;> simp only [h.custody, h.deposited, h.disposed] at *
  · rfl
  · rfl
  · rfl
  · exact (hne rfl).elim
  · exact Nat.zero_le _
  · rfl
  · rfl
  · rfl
  · exact le_rfl
  · cases hrel

theorem Fresh.placed (h : Fresh w) : Placed w := by
  constructor <;> simp only [h.custody]
  · exact nofun
  · exact fun _ _ hne => (hne rfl).elim

/-- The whole item goes from the vault to the recipient, between what is called from inside. -/
def Delivered (d : Deployment W) (l : W) (item : CollateralItem W) (recipient : Address) (before after : List (Call W))
    (s t : World W) : Prop :=
  ∃ v m : World W, v.assets = s.assets ∧
    ((hand item.kind (CallTree.execAll (perform d) before) v).assets item.key).Paid (m.assets item.key) (d.vault l)
      recipient item.quantity ∧
    t.assets = (CallTree.execAll (perform d) after m).assets

theorem exec_release {l cid : W} {recipient : Address} {journalRef : W} {before after : List (Call W)}
    (h : exec d (.call (ctx, .releaseCollateral l cid recipient journalRef) before after) s = .ok t) :
    (s.registry l).terminal = true ∧ (s.loans l).outstandingPrincipal = 0 ∧ recipient = (s.registry l).borrower ∧
      Delivered d l (s.custody.items (l, cid)) (s.registry l).borrower before after s t := by
  simp only [exec, CallTree.exec, perform, body, releaseCollateral, require_bind_eq_ok] at h
  obtain ⟨hown, ⟨hcaller, hrecipient, -, hterminal, hzero, -⟩, h⟩ := h
  obtain ⟨v, r, m, u, course⟩ := dispose_course h
  refine ⟨hterminal, hzero, hrecipient, v, m, by rw [← course.start], ?_, by rw [← course.finish, course.handed]⟩
  rw [course.asked, ← hrecipient]
  obtain ⟨-, -, hle, rfl⟩ := move_eq_ok.mp course.moved
  simp only [Mapping.set_self]
  -- The recipient makes the call, and no vault calls the manager.
  refine Token.paid_move hle fun hself => ?_
  rw [hcaller, ← hrecipient, ← hself, d.own_vault] at hown
  cases hown

/-- After every run, whatever is called from inside of its calls, exposures, vault records, vault holdings, disposals
    and UFT-backed debt agree. A release needs a loan that is over and moves the item from the vault to the borrower.
    Ids stay with their loans if no id is locked from inside of a call that locks the same id. -/
theorem custody_accounts (d : Deployment W) (w₀ : World W) (h₀ : Fresh w₀) (calls : List (Call W)) (w : World W)
    (hw : w = runCalls (exec d) w₀ calls) :
    (∀ l a, w.custody.loanExposure (l, a) = w.custody.assetBalance (l, a) ∧
      w.custody.loanExposure (l, a) = lockedIn (ofAsset l a) w.custody.items) ∧
    (∀ b a, w.custody.borrowerExposure (b, a) =
      w.custody.loanExposure.totalOver fun k => (w.registry k.1).borrower = b ∧ k.2 = a) ∧
    (∀ l cid, w.disposed (l, cid) ≤ w.deposited (l, cid)) ∧
    (∀ l key, lockedIn (ofKey l key) w.custody.items ≤ w.balance key (d.vault l)) ∧
    (∀ ctx l cid recipient journalRef before after s t,
      exec d (.call (ctx, .releaseCollateral l cid recipient journalRef) before after) s = .ok t →
      (s.registry l).terminal = true ∧ (s.loans l).outstandingPrincipal = 0 ∧ recipient = (s.registry l).borrower ∧
      Delivered d l (s.custody.items (l, cid)) (s.registry l).borrower before after s t) ∧
    (∀ l cid, (w.custody.items (l, cid)).status = .released →
      (w.registry l).terminal = true ∧ (w.loans l).outstandingPrincipal = 0) ∧
    (w.custody.totalUftBackedDebt = w.custody.uftBackedDebt.totalOver (fun _ => True) ∧
      w.custody.totalUftBackedDebt ≤ w.custody.uftBackedDebtCeiling) ∧
    ((∀ c ∈ calls, c.Apart SameId) →
      (∀ l cid, (w.custody.items (l, cid)).status ≠ .none → w.custody.collateralLoan cid = l) ∧
      ∀ later : List (Call W), (∀ c ∈ later, c.Apart SameId) → ∀ cid, w.custody.collateralLoan cid ≠ 0 →
        (runCalls (exec d) w later).custody.collateralLoan cid = w.custody.collateralLoan cid) := by
  have hinv : CustodyInv d w := by
    rw [hw]
    exact runCalls_invariant (CustodyInv d) (fun c s t h hs => (exec_custody c h hs).1) h₀.custodyInv calls
  refine ⟨fun l a => ⟨hinv.exposure l a, (hinv.exposure l a).trans (hinv.recorded l a)⟩, hinv.borrowers,
    fun l cid => ?_, hinv.backed, ?_, fun l cid hrel => (hinv.released l cid hrel).2, ⟨hinv.debt, hinv.ceiling⟩,
    fun hapart => ?_⟩
  · have := hinv.quantities (l, cid)
    omega
  · exact fun _ _ _ _ _ _ _ _ _ => exec_release
  · have hplaced : Placed w := by
      rw [hw]
      exact runCalls_invariant_of_mem Placed (fun c hc s t h hs => (apart_keeps c (hapart c hc) h hs).1) h₀.placed
    refine ⟨fun l cid hk => (hplaced.items l cid hk).2, fun later hlater cid hne => ?_⟩
    -- From here on the run is followed with the loan of the id as it is now.
    have hrun : Placed (runCalls (exec d) w later) ∧ Stays w (runCalls (exec d) w later) :=
      runCalls_invariant_of_mem (fun v => Placed v ∧ Stays w v) (fun c hc s t h hs => by
        obtain ⟨ht, hst⟩ := apart_keeps c (hlater c hc) h hs.1
        exact ⟨ht, hs.2.trans hst⟩) ⟨hplaced, fun _ _ => rfl⟩
    exact hrun.2 cid hne

/-- Along every run a loan keeps its parties, never owes more and stays over once it is; the loan of released collateral
    owes nothing from then on. -/
theorem loans_evolve (d : Deployment W) (w₀ : World W) (h₀ : Fresh w₀) (calls later : List (Call W)) :
    let w := runCalls (exec d) w₀ calls
    let w' := runCalls (exec d) w later
    Evolves w w' ∧ ∀ l cid, (w.custody.items (l, cid)).status = .released →
      (w'.registry l).terminal = true ∧ (w'.loans l).outstandingPrincipal = 0 := by
  intro w w'
  have inv : CustodyInv d w :=
    runCalls_invariant (CustodyInv d) (fun c _ _ h hs => (exec_custody c h hs).1) h₀.custodyInv calls
  have evolves : Evolves w w' := runCalls_relation (CustodyInv d) Evolves .refl (fun _ _ _ => .trans)
    (fun c _ _ h hs => (exec_custody c h hs).1) (fun c _ _ h hs => (exec_custody c h hs).2.evolves) inv later
  refine ⟨evolves, fun l cid hreleased => ?_⟩
  obtain ⟨registered, terminal, repaid⟩ := inv.released l cid hreleased
  exact ⟨evolves.terminal l registered terminal, Nat.le_zero.mp (repaid ▸ evolves.outstanding l registered)⟩

/-- A borrower with a token that asks its owner before it moves, and with the currency of the loans. -/
def sampleStart : World Term :=
  { (default : World Term) with
    assets := (Mapping.empty.set (settlementKey 7) ((default : Token).credit 10 100)).set (settlementKey 9)
      ((default : Token).credit 10 100) }

def sampleContext : Context :=
  { (default : Context) with
    caller := 10, timestamp := 1, riskCouncil := true, originates := true, registered := some (7, true) }

def sampleTerms (loanId : Nat) : Loan.LoanTerms Term := ⟨.lit loanId, .lit 1, 10, .lit 1, 30, 0, 60, 1, .lit 1⟩

/-- Two loans of the borrower, and the token as collateral for them. -/
def preparation : List (Call Term) :=
  [.call (sampleContext, .originate (sampleTerms 1) 11 9 (.lit 1)) [] [],
    .call (sampleContext, .originate (sampleTerms 2) 11 9 (.lit 1)) [] [],
    .call (sampleContext, .configureAsset (.lit 5) 7 .erc20 true false) [] []]

def lockSample (loanId collateralId amount : Nat) (before : List (Call Term)) : Call Term :=
  .call (sampleContext, .lockERC20 (.lit loanId) (.lit collateralId) (.lit 5) amount) before []

def repaySample (loanId paymentId amount : Nat) : Call Term :=
  .call (sampleContext, .repay (.lit loanId) (.lit paymentId) amount (.lit 1)) [] []

def releaseSample (after : List (Call Term)) : Call Term :=
  .call (sampleContext, .releaseCollateral (.lit 1) (.lit 3) 10 (.lit 1)) [] after

/-- The owner locks collateral for the second loan when asked about that for the first, repays the first loan, and while
    its collateral is delivered asks for it again and pays for the second loan. -/
def loanCourse : List (Call Term) :=
  preparation ++ [lockSample 1 3 10 [lockSample 2 4 20 []], repaySample 1 1 30,
    releaseSample [releaseSample [], repaySample 2 2 5]]

theorem sampleStart_fresh : Fresh sampleStart := by
  refine ⟨rfl, rfl, rfl, fun key hkey => ?_⟩
  have hne : ∀ token, key ≠ settlementKey token := by
    rintro token rfl
    cases hkey
  simp only [sampleStart, Mapping.set_of_ne _ _ (hne 9), Mapping.set_of_ne _ _ (hne 7)]
  exact Nat.zero_le _

theorem loans_evolve_loanCourse :
    let w := runCalls (exec sampleDeployment) sampleStart loanCourse
    let w' := runCalls (exec sampleDeployment) w [repaySample 2 3 10]
    ((w.custody.items (.lit 1, .lit 3)).status = .released ∧ (w'.loans (.lit 2)).outstandingPrincipal = 15) ∧
      Evolves w w' ∧ (w'.loans (.lit 1)).outstandingPrincipal = 0 := by
  intro w w'
  have hrun : (w.custody.items (.lit 1, .lit 3)).status = .released ∧
      (w'.loans (.lit 2)).outstandingPrincipal = 15 := by decide +kernel
  have h := loans_evolve sampleDeployment sampleStart sampleStart_fresh loanCourse [repaySample 2 3 10]
  exact ⟨hrun, h.1, (h.2 _ _ hrun.1).2⟩

/-- While the token asks its owner for the first deposit, the owner locks the same id for another loan. Both items are
    recorded, the id goes to the first loan, and it is taken from the loan that it was given to. -/
theorem id_of_two_loans : ¬ ∀ l cid : Term,
    ((runCalls (exec sampleDeployment) sampleStart
      (preparation ++ [lockSample 1 3 10 [lockSample 2 3 20 []]])).custody.items (l, cid)).status ≠ .none →
    (runCalls (exec sampleDeployment) sampleStart
      (preparation ++ [lockSample 1 3 10 [lockSample 2 3 20 []]])).custody.collateralLoan cid = l := by
  intro h
  have hlocked := h (.lit 2) (.lit 3) (by decide +kernel)
  revert hlocked
  decide +kernel

theorem loanCourse_apart : ∀ c ∈ loanCourse, c.Apart SameId := by
  simp [loanCourse, preparation, lockSample, repaySample, releaseSample, CallTree.Apart, CallTree.ApartAll,
    CallTree.opsAll, CallTree.ops, SameId, Op.lockedId]

/-- A run with calls from inside of a deposit and of a release: both items are with their loans, and the first is back
    with its borrower. -/
theorem custody_accounts_loanCourse :
    let w := runCalls (exec sampleDeployment) sampleStart loanCourse
    ((w.custody.items (.lit 1, .lit 3)).status = .released ∧ w.balance (settlementKey 7) 10 = 80 ∧
      w.custody.loanExposure (.lit 2, .lit 5) = 20) ∧
    (∀ l a : Term, w.custody.loanExposure (l, a) = w.custody.assetBalance (l, a)) ∧
    (w.loans (.lit 1)).outstandingPrincipal = 0 ∧ w.custody.collateralLoan (.lit 4) = .lit 2 := by
  intro w
  have hrun : (w.custody.items (.lit 1, .lit 3)).status = .released ∧ w.balance (settlementKey 7) 10 = 80 ∧
      w.custody.loanExposure (.lit 2, .lit 5) = 20 := by decide +kernel
  obtain ⟨exposure, -, -, -, -, released, -, ids⟩ :=
    custody_accounts sampleDeployment sampleStart sampleStart_fresh loanCourse w rfl
  exact ⟨hrun, fun l a => (exposure l a).1, (released _ _ hrun.1).2,
    (ids loanCourse_apart).1 (.lit 2) (.lit 4) (by decide +kernel)⟩

end World

end Unified.Collateral
