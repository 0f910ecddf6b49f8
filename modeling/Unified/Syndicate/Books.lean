import Unified.Syndicate.Holdings

/-! The entry points of the position manager one by one: each keeps the books sound, and only distributions and
    withdrawals change what the contract holds for the owners. -/

namespace Unified.Syndicate.PositionManager

open Mapping

variable {W : Type} [Evm W] {m m' m'' : PositionManager W} {t id : W} {amount : Nat} {p : Position W}
  {caller owner source dst : Address}

/-- Accrued distributions are settled and votes move, and nothing else happens. -/
def Settles (m m' : PositionManager W) : Prop :=
  ∃ accrued withdrawable votes total, m' = { m with
    accruedDistribution := accrued, withdrawable := withdrawable, currentVotes := votes, totalVotes := total } ∧
    m'.held = m.held

theorem Settles.refl (m : PositionManager W) : Settles m m := ⟨_, _, _, _, rfl, rfl⟩

theorem Settles.trans (h : Settles m m') (h' : Settles m' m'') : Settles m m'' := by
  obtain ⟨_, _, _, _, rfl, hheld⟩ := h
  obtain ⟨_, _, _, _, rfl, hheld'⟩ := h'
  exact ⟨_, _, _, _, rfl, hheld'.trans hheld⟩

/-- Votes move, and nothing else happens. -/
def MovesVotes (m m' : PositionManager W) : Prop :=
  ∃ votes total, m' = { m with currentVotes := votes, totalVotes := total }

theorem MovesVotes.refl (m : PositionManager W) : MovesVotes m m := ⟨_, _, rfl⟩

theorem MovesVotes.trans (h : MovesVotes m m') (h' : MovesVotes m' m'') : MovesVotes m m'' := by
  obtain ⟨_, _, rfl⟩ := h
  obtain ⟨_, _, rfl⟩ := h'
  exact ⟨_, _, rfl⟩

theorem MovesVotes.settles (h : MovesVotes m m') : Settles m m' := by
  obtain ⟨_, _, rfl⟩ := h
  exact ⟨_, _, _, _, rfl, rfl⟩

theorem writeVotes_moves {votes : Nat} (h : m.writeVotes owner votes = .ok m') : MovesVotes m m' := by
  simp only [writeVotes, block_eq_ok] at h
  obtain ⟨-, rfl⟩ := h
  exact ⟨_, _, rfl⟩

theorem takeVotes_moves (h : m.takeVotes source amount = .ok m') : MovesVotes m m' := by
  unfold takeVotes at h
  split at h
  · rw [pure_eq_ok] at h
    exact h ▸ .refl m
  · simp only [block_eq_ok] at h
    exact writeVotes_moves h.2

theorem giveVotes_moves (h : m.giveVotes dst amount = .ok m') : MovesVotes m m' := by
  unfold giveVotes at h
  split at h
  · rw [pure_eq_ok] at h
    exact h ▸ .refl m
  · exact writeVotes_moves h

theorem moveVotes_moves (h : m.moveVotes source dst amount = .ok m') : MovesVotes m m' := by
  unfold moveVotes at h
  split at h
  · rw [pure_eq_ok] at h
    exact h ▸ .refl m
  · simp only [block_eq_ok] at h
    obtain ⟨-, m1, h1, m2, h2, -, -, rfl⟩ := h
    exact ((takeVotes_moves h1).trans (giveVotes_moves h2)).trans ⟨_, _, rfl⟩

theorem settleAccrued_settles (m : PositionManager W) (p : Position W) : Settles m (m.settleAccrued p) := by
  unfold settleAccrued
  split
  · exact Settles.refl m
  · refine ⟨_, _, _, _, rfl, ?_⟩
    have hout := m.accruedDistribution.sum_set counter_vanishes p.positionId 0
    have hin := m.withdrawable.sum_set counter_vanishes p.owner
      (m.withdrawable p.owner + m.accruedDistribution p.positionId)
    simp only [held, Mapping.modify]
    omega

/-! ### Rewriting one position or one tranche -/

variable {tranches : Mapping W (Tranche W)} {tr : Tranche W} {ids : List W} {positions : Mapping W (Position W)}
  {evidenceHash : W} {now shares : Nat}

/-- What a rewritten tranche has in common with the old one. -/
theorem set_tranche_kept {α : Type} (f : Tranche W → α) (same : f tr = f (tranches t)) (t' : W) :
    f (tranches.set t tr t') = f (tranches t') := by
  rw [set_apply]
  split
  · next ht => rw [ht, same]
  · rfl

/-- A sum over the tranches, of which one is rewritten. -/
theorem sum_set_tranche (f : Tranche W → Nat) (distinct : ids.Nodup) (hmem : t ∈ ids) (tr : Tranche W) :
    (ids.map fun t' => f (tranches.set t tr t')).sum + f (tranches t) =
      (ids.map fun t' => f (tranches t')).sum + f tr := by
  have h := sum_map_change distinct (f := fun t' => f (tranches t')) (g := fun t' => f (tranches.set t tr t')) hmem
    fun t' ht => by rw [set_of_ne _ _ ht]
  rwa [set_self] at h

theorem Anchored.set (h : Anchored positions tranches) (keeps : (positions id).shares ≠ 0 → p.shares ≠ 0)
    (htranche : p.trancheId = (positions id).trancheId) : Anchored (positions.set id p) tranches := by
  intro t howed
  obtain ⟨hshares, ht⟩ := h t howed
  by_cases hid : (tranches t).residualPositionId = id
  · rw [hid] at hshares ht ⊢
    rw [set_self, htranche]
    exact ⟨keeps hshares, ht⟩
  · rw [set_of_ne _ _ hid]
    exact ⟨hshares, ht⟩

/-- A new position is not the residual position of any tranche that is owed something. -/
theorem Anchored.add (h : Anchored positions tranches) (fresh : (positions id).shares = 0) :
    Anchored (positions.set id p) tranches := by
  intro t howed
  obtain ⟨hshares, ht⟩ := h t howed
  have hid : (tranches t).residualPositionId ≠ id := by
    rintro rfl
    exact hshares fresh
  rw [set_of_ne _ _ hid]
  exact ⟨hshares, ht⟩

/-- Rearranged positions of an activated loan, with the same principal in every tranche. -/
structure Rearranged (m m' : PositionManager W) : Prop where
  sound : m'.Sound
  held : m'.held = m.held
  activated : m.fundingActivated = true
  activated' : m'.fundingActivated = true
  total : m'.totalOutstandingPrincipal = m.totalOutstandingPrincipal

theorem Sound.rearranged (h : m.Sound) (on : m.fundingActivated = true)
    (holdings : Holdings m'.positions m'.positionsByTranche fun t => (m'.tranches t).totalShares)
    (anchored : Anchored m'.positions m'.tranches) (on' : m'.fundingActivated = true) (ids : m'.trancheIds = m.trancheIds)
    (tranches : ∀ t, (m'.tranches t).configuration = (m.tranches t).configuration ∧
      (m'.tranches t).outstandingPrincipal = (m.tranches t).outstandingPrincipal)
    (total : m'.totalOutstandingPrincipal = m.totalOutstandingPrincipal) (held : m'.held = m.held) :
    Rearranged m m' := by
  have off {q : Prop} (hoff : m'.fundingActivated = false) : q := by simp [on'] at hoff
  refine ⟨⟨holdings, anchored, fun t => ?_, ids ▸ h.distinct, off, ?_⟩, held, on, on', total⟩
  · rw [ids, h.configured, (tranches t).1]
  · rw [total, ← h.outstanding, outstandingOf, outstandingOf, ids]
    exact sum_map_same fun t _ => (tranches t).2

theorem Sound.activated_of_status (h : m.Sound) (hs : (m.positions id).status = .active ∨
    (m.positions id).status = .pledged ∨ (m.positions id).status = .frozen) : m.fundingActivated = true := by
  by_contra hoff
  have hpending := (h.forming (by simpa using hoff)).pending id
  rcases hs with hs | hs | hs <;> simp [hs] at hpending

/-- A position that keeps its shares is rewritten, after distributions and votes have been settled. -/
theorem Sound.relabel (h : m.Sound) (hset : Settles m m') (on : m.fundingActivated = true)
    (known : (m.positions id).status ≠ .none) (hid : p.positionId = (m.positions id).positionId)
    (htranche : p.trancheId = (m.positions id).trancheId) (hshares : p.shares = (m.positions id).shares)
    (hstatus : p.status ≠ .none) : Rearranged m (m'.setPosition id p) := by
  obtain ⟨_, _, _, _, rfl, hheld⟩ := hset
  refine h.rearranged on ?_ ?_ on rfl (fun _ => ⟨rfl, rfl⟩) rfl hheld
  · refine h.holdings.set known (hid.trans (h.holdings.named id known)) htranche hstatus fun t => ?_
    rw [sharesIn, sharesIn, htranche, hshares]
    rfl
  · exact h.anchored.set (fun hne => hshares ▸ hne) htranche

/-- The books do not depend on what is credited to whom, or on votes. -/
theorem Sound.accounts (h : m.Sound) (accrued : Mapping W Nat) (withdrawable votes : Mapping Address Nat) (total : Nat) :
    Sound { m with
      accruedDistribution := accrued, withdrawable := withdrawable, currentVotes := votes, totalVotes := total } :=
  ⟨h.holdings, h.anchored, h.configured, h.distinct,
    fun hoff => ⟨(h.forming hoff).unopened, (h.forming hoff).pending, (h.forming hoff).registered, (h.forming hoff).placed,
      (h.forming hoff).level, (h.forming hoff).issued⟩, h.outstanding⟩

theorem position_eq_ok : m.position id = .ok p ↔ (m.positions id).status ≠ .none ∧ m.positions id = p := by
  simp only [position, block_eq_ok]

theorem tranche_eq_ok : m.tranche t = .ok tr ↔ (m.tranches t).configuration.trancheId ≠ 0 ∧ m.tranches t = tr := by
  simp only [tranche, block_eq_ok]

/-! ### Owners -/

theorem Sound.transferPosition (h : m.Sound) {buyer : Address}
    (hcall : m.transferPosition caller now id buyer evidenceHash = .ok m') : Rearranged m m' := by
  simp only [PositionManager.transferPosition, block_eq_ok, position_eq_ok] at hcall
  obtain ⟨_, ⟨known, rfl⟩, ⟨-, -, -, -, hactive, -⟩, -, -, m1, hmove, rfl⟩ := hcall
  exact h.relabel ((settleAccrued_settles m _).trans (moveVotes_moves hmove).settles) (h.activated_of_status (.inl hactive)) known
    rfl rfl rfl known

theorem Sound.pledgePosition (h : m.Sound) {pledgee : Address}
    (hcall : m.pledgePosition caller id pledgee evidenceHash = .ok m') : Rearranged m m' := by
  simp only [PositionManager.pledgePosition, block_eq_ok, position_eq_ok] at hcall
  obtain ⟨_, ⟨known, rfl⟩, ⟨-, -, -, -, hactive⟩, rfl⟩ := hcall
  exact h.relabel (.refl m) (h.activated_of_status (.inl hactive)) known rfl rfl rfl (by simp)

theorem Sound.releasePledge (h : m.Sound) (hcall : m.releasePledge caller id = .ok m') : Rearranged m m' := by
  simp only [PositionManager.releasePledge, block_eq_ok, position_eq_ok] at hcall
  obtain ⟨_, ⟨known, rfl⟩, ⟨hpledged, -⟩, rfl⟩ := hcall
  exact h.relabel (.refl m) (h.activated_of_status (.inr (.inl hpledged))) known rfl rfl rfl (by simp)

theorem Sound.setFrozen (h : m.Sound) {council frozen : Bool}
    (hcall : m.setFrozen council id frozen evidenceHash = .ok m') : Rearranged m m' := by
  simp only [PositionManager.setFrozen, block_eq_ok, position_eq_ok] at hcall
  obtain ⟨-, _, ⟨known, rfl⟩, hstatus, rfl⟩ := hcall
  cases frozen with
  | true => exact h.relabel (.refl m) (h.activated_of_status (.inl hstatus)) known rfl rfl rfl (by simp)
  | false => exact h.relabel (.refl m) (h.activated_of_status (.inr (.inr hstatus))) known rfl rfl rfl (by simp)

/-- Both halves of a split keep shares, and together they have those of the position. -/
theorem Sound.splitPosition (h : m.Sound) {newId : W} {newOwner : Address}
    (hcall : m.splitPosition caller now id newId shares newOwner = .ok m') : Rearranged m m' := by
  simp only [PositionManager.splitPosition, block_eq_ok, position_eq_ok] at hcall
  obtain ⟨_, ⟨known, rfl⟩, ⟨-, -, hfresh, -, -, hlt, hactive, -, -⟩, -, m1, hmove, rfl⟩ := hcall
  have hset := (settleAccrued_settles m _).trans (moveVotes_moves hmove).settles
  have on := h.activated_of_status (.inl hactive)
  obtain ⟨_, _, _, _, rfl, hheld⟩ := hset
  have hne : newId ≠ id := by
    rintro rfl
    exact known hfresh
  have hle := h.holdings.shares_le id
  dsimp only [setPosition]
  refine h.rearranged on ?_ ?_ on rfl (fun _ => ⟨rfl, rfl⟩) rfl hheld
  · have kept (votes : Nat) : Holdings
        (m.positions.set id { m.positions id with shares := (m.positions id).shares - shares, votingPower := votes })
        m.positionsByTranche fun t => (m.tranches t).totalShares - if t = (m.positions id).trancheId then shares else 0 := by
      refine h.holdings.set known (h.holdings.named id known) rfl known fun t => ?_
      unfold sharesIn
      split
      · next ht =>
        subst ht
        dsimp only
        omega
      · rfl
    refine (kept _).add ?_ rfl (by simp) fun t => ?_
    · rw [set_of_ne _ _ hne]
      exact hfresh
    · unfold sharesIn
      split
      · next ht =>
        subst ht
        dsimp only
        omega
      · rfl
  · refine Anchored.add (h.anchored.set (fun _ => ?_) rfl) ?_
    · exact Nat.sub_ne_zero_of_lt hlt
    · rw [set_of_ne _ _ hne]
      exact h.holdings.blank newId hfresh

/-- The shares of the merged position go to the primary one, and with them the place of the residual position. -/
theorem Sound.mergePositions (h : m.Sound) {primaryId mergedId : W}
    (hcall : m.mergePositions caller primaryId mergedId = .ok m') : Rearranged m m' := by
  simp only [PositionManager.mergePositions, block_eq_ok, position_eq_ok] at hcall
  obtain ⟨hne, _, ⟨known, rfl⟩, _, ⟨known', rfl⟩, ⟨-, -, hsame, hactive, -⟩, rfl⟩ := hcall
  have hset := (settleAccrued_settles m (m.positions primaryId)).trans (settleAccrued_settles _ (m.positions mergedId))
  have on := h.activated_of_status (.inl hactive)
  generalize (m.settleAccrued (m.positions primaryId)).settleAccrued (m.positions mergedId) = settled at hset
  obtain ⟨_, _, _, _, rfl, hheld⟩ := hset
  have hle := h.holdings.shares_le mergedId
  have holdings (votes : Nat) : Holdings ((m.positions.set primaryId { m.positions primaryId with
        shares := (m.positions primaryId).shares + (m.positions mergedId).shares, votingPower := votes }).set mergedId
        { m.positions mergedId with shares := 0, votingPower := 0, status := .merged })
      m.positionsByTranche fun t => (m.tranches t).totalShares := by
    have grown : Holdings (m.positions.set primaryId { m.positions primaryId with
          shares := (m.positions primaryId).shares + (m.positions mergedId).shares, votingPower := votes })
        m.positionsByTranche fun t => (m.tranches t).totalShares +
          if t = (m.positions mergedId).trancheId then (m.positions mergedId).shares else 0 := by
      refine h.holdings.set known (h.holdings.named primaryId known) rfl known fun t => ?_
      simp only [sharesIn, hsame]
      split <;> omega
    refine grown.set ?_ (h.holdings.named mergedId known') ?_ (by simp) fun t => ?_
    · rwa [set_of_ne _ _ hne.symm]
    · rw [set_of_ne _ _ hne.symm]
    · rw [set_of_ne _ _ hne.symm]
      simp only [sharesIn, ite_self, Nat.add_zero]
  have anchored (votes : Nat) (tranches : Mapping W (Tranche W))
      (howed : ∀ t, (tranches t).outstandingPrincipal = (m.tranches t).outstandingPrincipal)
      (hres : ∀ t, (tranches t).outstandingPrincipal ≠ 0 → (tranches t).residualPositionId =
        if (m.tranches t).residualPositionId = mergedId then primaryId else (m.tranches t).residualPositionId) :
      Anchored ((m.positions.set primaryId { m.positions primaryId with
        shares := (m.positions primaryId).shares + (m.positions mergedId).shares, votingPower := votes }).set mergedId
        { m.positions mergedId with shares := 0, votingPower := 0, status := .merged }) tranches := by
    intro t ht
    obtain ⟨hshares, htranche⟩ := h.anchored t (howed t ▸ ht)
    rw [hres t ht]
    by_cases hmerged : (m.tranches t).residualPositionId = mergedId
    · rw [if_pos hmerged, set_of_ne _ _ hne, set_self]
      rw [hmerged] at hshares htranche
      exact ⟨by dsimp only; omega, hsame.trans htranche⟩
    · rw [if_neg hmerged, set_of_ne _ _ hmerged]
      by_cases hprimary : (m.tranches t).residualPositionId = primaryId
      · rw [hprimary] at hshares htranche ⊢
        rw [set_self]
        exact ⟨by dsimp only; omega, htranche⟩
      · rw [set_of_ne _ _ hprimary]
        exact ⟨hshares, htranche⟩
  have kept (t : W) {α : Type} (f : Tranche W → α) (same : ∀ (tr : Tranche W) id, f { tr with residualPositionId := id } = f tr) :
      f ((m.tranches.set (m.positions primaryId).trancheId { m.tranches (m.positions primaryId).trancheId with
        residualPositionId := if (m.tranches (m.positions primaryId).trancheId).residualPositionId = mergedId then primaryId
          else (m.tranches (m.positions primaryId).trancheId).residualPositionId }) t) = f (m.tranches t) := by
    rw [set_apply]
    split
    · next ht => rw [ht, same]
    · rfl
  dsimp only [setPosition, setTranche]
  refine h.rearranged on ((holdings _).congr fun t => kept t (·.totalShares) fun _ _ => rfl) (anchored _ _ ?_ ?_) on rfl ?_ rfl hheld
  · exact fun t => kept t (·.outstandingPrincipal) fun _ _ => rfl
  · intro t ht
    have howed : (m.tranches t).outstandingPrincipal ≠ 0 := kept t (·.outstandingPrincipal) (fun _ _ => rfl) ▸ ht
    rw [set_apply]
    by_cases htranche : t = (m.positions primaryId).trancheId
    · subst htranche
      rw [if_pos rfl]
      rfl
    · rw [if_neg htranche, if_neg]
      intro hmerged
      refine htranche ?_
      rw [hsame, ← hmerged, (h.anchored t howed).2]
  · exact fun t => ⟨kept t (·.configuration) fun _ _ => rfl, kept t (·.outstandingPrincipal) fun _ _ => rfl⟩

/-- A position is redeemed once its tranche is owed nothing. -/
theorem Sound.redeemPosition (h : m.Sound) (hcall : m.redeemPosition caller id = .ok m') : Rearranged m m' := by
  simp only [PositionManager.redeemPosition, block_eq_ok, position_eq_ok] at hcall
  obtain ⟨_, ⟨known, rfl⟩, ⟨-, hactive, hnone⟩, m1, hmove, -, rfl⟩ := hcall
  have hset := (settleAccrued_settles m _).trans (moveVotes_moves hmove).settles
  have on := h.activated_of_status (.inl hactive)
  obtain ⟨_, _, _, _, rfl, hheld⟩ := hset
  have hle := h.holdings.shares_le id
  have kept (t : W) {α : Type} (f : Tranche W → α) (same : ∀ (tr : Tranche W) n, f { tr with totalShares := n } = f tr) :
      f ((m.tranches.set (m.positions id).trancheId { m.tranches (m.positions id).trancheId with
        totalShares := (m.tranches (m.positions id).trancheId).totalShares - (m.positions id).shares }) t) =
        f (m.tranches t) := by
    rw [set_apply]
    split
    · next ht => rw [ht, same]
    · rfl
  dsimp only [setPosition, setTranche]
  refine h.rearranged on ?_ ?_ on rfl ?_ rfl hheld
  · refine h.holdings.set known (h.holdings.named id known) rfl (by simp) fun t => ?_
    simp only [sharesIn, ite_self, Nat.add_zero]
    rw [set_apply]
    split
    · next ht =>
      subst ht
      dsimp only
      omega
    · rfl
  · intro t ht
    rw [kept t (·.outstandingPrincipal) fun _ _ => rfl] at ht
    obtain ⟨hshares, htranche⟩ := h.anchored t ht
    rw [kept t (·.residualPositionId) fun _ _ => rfl]
    have hne : (m.tranches t).residualPositionId ≠ id := by
      intro hid
      rw [hid] at htranche
      rw [htranche] at hnone
      exact ht hnone
    rw [set_of_ne _ _ hne]
    exact ⟨hshares, htranche⟩
  · exact fun t => ⟨kept t (·.configuration) fun _ _ => rfl, kept t (·.outstandingPrincipal) fun _ _ => rfl⟩

/-! ### Funding -/

/-- A pending position is new, and the principal of its tranche grows with it. -/
structure Issued (m m' : PositionManager W) : Prop where
  sound : m'.Sound
  seeded : m.Seeded → m'.Seeded
  held : m'.held = m.held
  total : m'.totalOutstandingPrincipal = m.totalOutstandingPrincipal
  activated : m.fundingActivated = false
  activated' : m'.fundingActivated = false

/-- Books that are rewritten while the loan is being funded. -/
theorem Sound.reformed (h : m.Sound) (hoff : m.fundingActivated = false)
    (holdings : Holdings m'.positions m'.positionsByTranche fun t => (m'.tranches t).totalShares)
    (ids : m'.trancheIds = m.trancheIds)
    (tranches : ∀ t, (m'.tranches t).configuration = (m.tranches t).configuration ∧
      (m'.tranches t).outstandingPrincipal = (m.tranches t).outstandingPrincipal)
    (pending : ∀ id, (m'.positions id).status = .none ∨ (m'.positions id).status = .pending ∨
      (m'.positions id).status = .cancelled)
    (registered : ∀ id ∈ m'.positionIds, (m'.positions id).status ≠ .none)
    (placed : ∀ id, (m'.positions id).status ≠ .none → (m'.positions id).trancheId ∈ m.trancheIds)
    (level : ∀ t, (m'.tranches t).fundedPrincipal = (m'.tranches t).totalShares)
    (issued : m'.fundedOf = m'.totalIssuedShares)
    (total : m'.totalOutstandingPrincipal = m.totalOutstandingPrincipal) : m'.Sound := by
  have unopened (t : W) : (m'.tranches t).outstandingPrincipal = 0 := (tranches t).2.trans ((h.forming hoff).unopened t)
  refine ⟨holdings, fun t howed => (howed (unopened t)).elim, fun t => ?_, ids ▸ h.distinct,
    fun _ => ⟨unopened, pending, registered, ids ▸ placed, level, issued⟩, ?_⟩
  · rw [ids, h.configured, (tranches t).1]
  · rw [total, ← h.outstanding, outstandingOf, outstandingOf, ids]
    exact sum_map_same fun t _ => (tranches t).2

theorem Sound.issuePending (h : m.Sound) (hcall : m.issuePending id t owner shares now = .ok m') : Issued m m' := by
  simp only [PositionManager.issuePending, block_eq_ok, tranche_eq_ok] at hcall
  obtain ⟨_, ⟨hconf, rfl⟩, ⟨hoff, hid, -, hshares, hfresh, -, -⟩, -, rfl⟩ := hcall
  have hblank := h.holdings.blank id hfresh
  have hforming := h.forming hoff
  have hmem := (h.configured t).mpr hconf
  refine ⟨h.reformed hoff ?_ rfl (fun t' => ⟨?_, ?_⟩) (fun id' => ?_) (fun id' hid' => ?_) (fun id' hid' => ?_)
    (fun t' => ?_) ?_ rfl,
    fun hseeded t' => ?_, rfl, rfl, hoff, hoff⟩
  · refine h.holdings.add (p := ⟨id, t, owner, 0, shares, m.votingPower t shares, now, .pending⟩) hfresh rfl (by simp)
      fun t' => ?_
    unfold sharesIn
    dsimp only
    rw [set_apply]
    split
    · next ht => rw [ht]
    · rfl
  · exact set_tranche_kept (·.configuration) (by rfl) t'
  · exact set_tranche_kept (·.outstandingPrincipal) (by rfl) t'
  · dsimp only
    rw [set_apply]
    split
    · exact .inr (.inl rfl)
    · exact hforming.pending id'
  · dsimp only at hid' ⊢
    rw [set_apply]
    split
    · simp
    · next hne =>
      rcases List.mem_append.mp hid' with hold | hnew
      · exact hforming.registered id' hold
      · exact (hne (List.mem_singleton.mp hnew)).elim
  · dsimp only at hid' ⊢
    rw [set_apply] at hid' ⊢
    split
    · exact hmem
    · next hne =>
      rw [if_neg hne] at hid'
      exact hforming.placed id' hid'
  · dsimp only
    rw [set_apply]
    split
    · simp only [hforming.level t]
    · exact hforming.level t'
  · have hissued := hforming.issued
    refine Nat.add_right_cancel ((sum_set_tranche (·.fundedPrincipal) h.distinct hmem _).trans ?_)
    unfold fundedOf at hissued
    dsimp only
    omega
  · obtain ⟨hres, hfunded⟩ := hseeded t'
    have stays (hzero : (m.tranches t').residualPositionId ≠ 0) : (m.tranches t').residualPositionId ≠ id := by
      intro heq
      exact (heq ▸ (hres hzero).1) hblank
    dsimp only
    by_cases ht : t' = t
    · subst ht
      rw [set_self]
      dsimp only
      by_cases hzero : (m.tranches t').residualPositionId = 0
      · rw [if_pos hzero, set_self]
        exact ⟨fun _ => ⟨hshares, rfl⟩, fun _ => hid⟩
      · rw [if_neg hzero, set_of_ne _ _ (stays hzero)]
        exact ⟨hres, fun _ => hzero⟩
    · rw [set_of_ne _ _ ht]
      refine ⟨fun hzero => ?_, hfunded⟩
      rw [set_of_ne _ _ (stays hzero)]
      exact hres hzero

theorem Sound.cancelPending (h : m.Sound) (hcall : m.cancelPending id = .ok m') :
    m'.Sound ∧ m'.held = m.held ∧ m'.totalOutstandingPrincipal = m.totalOutstandingPrincipal ∧
      m.fundingActivated = false ∧ m'.fundingActivated = false := by
  simp only [PositionManager.cancelPending, block_eq_ok, position_eq_ok] at hcall
  obtain ⟨_, ⟨known, rfl⟩, ⟨hoff, -⟩, ⟨hfunded, htotal, -, hall⟩, rfl⟩ := hcall
  have hforming := h.forming hoff
  have hmem := hforming.placed id known
  refine ⟨h.reformed hoff ?_ rfl (fun t' => ⟨?_, ?_⟩) (fun id' => ?_) (fun id' hid' => ?_) (fun id' hid' => ?_)
    (fun t' => ?_) ?_ rfl,
    rfl, rfl, hoff, hoff⟩
  · refine h.holdings.set known (h.holdings.named id known) rfl (by simp) fun t' => ?_
    simp only [sharesIn, ite_self, Nat.add_zero]
    rw [set_apply]
    split
    · next ht =>
      subst ht
      dsimp only
      omega
    · rfl
  · exact set_tranche_kept (·.configuration) (by rfl) t'
  · exact set_tranche_kept (·.outstandingPrincipal) (by rfl) t'
  · dsimp only
    rw [set_apply]
    split
    · exact .inr (.inr rfl)
    · exact hforming.pending id'
  · dsimp only at hid' ⊢
    rw [set_apply]
    split
    · simp
    · exact hforming.registered id' hid'
  · dsimp only at hid' ⊢
    rw [set_apply] at hid' ⊢
    split
    · exact hmem
    · next hne =>
      rw [if_neg hne] at hid'
      exact hforming.placed id' hid'
  · dsimp only
    rw [set_apply]
    split
    · simp only [hforming.level (m.positions id).trancheId]
    · exact hforming.level t'
  · have hissued := hforming.issued
    refine Nat.add_right_cancel ((sum_set_tranche (·.fundedPrincipal) h.distinct hmem _).trans ?_)
    unfold fundedOf at hissued
    dsimp only
    omega

/-! ### Activation -/

theorem foldl_openTranche (ids : List W) (m : PositionManager W) :
    ∃ tranches, ids.foldl openTranche m = { m with tranches := tranches } ∧ ∀ t, tranches t =
      if t ∈ ids then { m.tranches t with outstandingPrincipal := (m.tranches t).fundedPrincipal } else m.tranches t := by
  induction ids generalizing m with
  | nil => exact ⟨m.tranches, rfl, fun _ => rfl⟩
  | cons t0 _ ih =>
    obtain ⟨tranches, hfold, htranches⟩ := ih (m.openTranche t0)
    refine ⟨tranches, hfold, fun t => ?_⟩
    rw [htranches t]
    simp only [openTranche, setTranche, set_apply, List.mem_cons]
    by_cases ht : t = t0
    · subst ht
      simp
    · simp [ht]

theorem foldlM_openPosition (hcall : ids.foldlM openPosition m = .ok m') :
    ∃ positions votes total, m' = { m with positions := positions, currentVotes := votes, totalVotes := total } ∧
      ∀ id, positions id = if id ∈ ids then { m.positions id with status := .active } else m.positions id := by
  induction ids generalizing m with
  | nil =>
    rw [List.foldlM_nil, pure_eq_ok] at hcall
    subst hcall
    exact ⟨m.positions, _, _, rfl, fun _ => rfl⟩
  | cons id0 _ ih =>
    rw [List.foldlM_cons, bind_eq_ok] at hcall
    obtain ⟨m1, hopen, hcall⟩ := hcall
    obtain ⟨positions, _, _, rfl, hpositions⟩ := ih hcall
    obtain ⟨_, _, rfl⟩ := moveVotes_moves hopen
    refine ⟨positions, _, _, rfl, fun id => ?_⟩
    rw [hpositions id]
    simp only [setPosition, set_apply, List.mem_cons]
    by_cases hid : id = id0
    · subst hid
      simp
    · simp [hid]

/-- The books when the loan has just been activated. -/
structure Opened (m : PositionManager W) : Prop where
  level : ∀ t, (m.tranches t).outstandingPrincipal = (m.tranches t).totalShares
  placed : ∀ id, (m.positions id).status ≠ .none → (m.positions id).trancheId ∈ m.trancheIds

/-- With the loan, every tranche is owed what it was funded with. -/
theorem Sound.activateFunding (h : m.Sound) (hseeded : m.Seeded) (hcall : m.activateFunding amount = .ok m') :
    m.fundingActivated = false ∧ m'.Sound ∧ m'.held = m.held ∧ m'.fundingActivated = true ∧
      m'.totalOutstandingPrincipal = amount ∧ Opened m' := by
  simp only [PositionManager.activateFunding, block_eq_ok] at hcall
  obtain ⟨⟨hoff, -, hall, -⟩, hcall⟩ := hcall
  have hforming := h.forming hoff
  obtain ⟨tranches, hfold, htranches⟩ := foldl_openTranche m.trancheIds
    { m with fundingActivated := true, totalOutstandingPrincipal := amount }
  rw [hfold] at hcall
  obtain ⟨positions, _, _, rfl, hpositions⟩ := foldlM_openPosition hcall
  have opened (t : W) (hmem : t ∈ m.trancheIds) : tranches t =
      { m.tranches t with outstandingPrincipal := (m.tranches t).fundedPrincipal } := (htranches t).trans (if_pos hmem)
  have kept {α : Type} (f : Tranche W → α) (same : ∀ (tr : Tranche W) n, f { tr with outstandingPrincipal := n } = f tr) (t : W) :
      f (tranches t) = f (m.tranches t) := by
    rw [htranches t]
    split
    · exact same _ _
    · rfl
  have activated {α : Type} (f : Position W → α) (same : ∀ p : Position W, f { p with status := .active } = f p) (id : W) :
      f (positions id) = f (m.positions id) := by
    rw [hpositions id]
    split
    · exact same _
    · rfl
  refine ⟨hoff, ⟨?_, fun t howed => ?_, fun t => ?_, h.distinct, (by simp), ?_⟩, rfl, rfl, rfl, fun t => ?_, fun id known => ?_⟩
  · refine Holdings.congr (h.holdings.of_same fun id => ?_) (kept (·.totalShares) fun _ _ => rfl)
    refine ⟨activated (·.positionId) (fun _ => rfl) id, activated (·.trancheId) (fun _ => rfl) id,
      activated (·.shares) (fun _ => rfl) id, ?_⟩
    rw [hpositions id]
    split
    · next hmem => exact iff_of_false (by simp) (hforming.registered id hmem)
    · rfl
  · have hfunded : (m.tranches t).fundedPrincipal ≠ 0 := by
      have hout := htranches t
      dsimp only at howed hout
      split at hout
      · rw [hout] at howed
        exact howed
      · rw [hout, hforming.unopened t] at howed
        exact (howed rfl).elim
    obtain ⟨hres, hseed⟩ := hseeded t
    dsimp only
    rw [kept (·.residualPositionId) fun _ _ => rfl]
    exact ⟨(activated (·.shares) (fun _ => rfl) _).trans_ne (hres (hseed hfunded)).1,
      (activated (·.trancheId) (fun _ => rfl) _).trans (hres (hseed hfunded)).2⟩
  · dsimp only
    rw [h.configured t, kept (·.configuration) fun _ _ => rfl]
  · rw [hall, ← hforming.issued]
    exact sum_map_same fun t hmem => congrArg (·.outstandingPrincipal) (opened t hmem)
  · by_cases hmem : t ∈ m.trancheIds
    · rw [opened t hmem]
      exact hforming.level t
    · -- no position is placed in a tranche that does not exist
      have hnone : m.positionsByTranche t = [] := by
        refine List.eq_nil_iff_forall_not_mem.mpr fun id hid => hmem ?_
        obtain ⟨known, htranche⟩ := (h.holdings.mem_iff t id).mp hid
        exact htranche ▸ hforming.placed id known
      have hshares := h.holdings.shares t
      rw [hnone] at hshares
      have heq : tranches t = m.tranches t := (htranches t).trans (if_neg hmem)
      dsimp only
      rw [heq, hforming.unopened t]
      exact hshares
  · dsimp only at known ⊢
    rw [activated (·.trancheId) fun _ => rfl]
    refine hforming.placed id fun hnone => known ?_
    rw [hpositions id, if_neg fun hmem => hforming.registered id hmem hnone]
    exact hnone

/-! ### Distributions -/

theorem foldl_accrue {α : Type} (xs : List α) (key : α → W) (credit : α → Nat) (m : PositionManager W) :
    xs.foldl (fun m x => m.accrue (key x) (credit x)) m = { m with
      accruedDistribution := xs.foldl (fun accrued x => accrued.modify (key x) (· + credit x)) m.accruedDistribution } := by
  induction xs generalizing m with
  | nil => rfl
  | cons _ _ ih =>
    rw [List.foldl_cons, ih]
    rfl

/-- A distribution credits every position of its tranche with its part. -/
structure Distributed (m m' : PositionManager W) (t : W) (amount : Nat) : Prop where
  activated : m.fundingActivated = true
  configured : t ∈ m.trancheIds
  owed : amount ≠ 0 ∧ amount ≤ (m.tranches t).outstandingPrincipal
  le : amount ≤ m.totalOutstandingPrincipal
  eq : ∃ accrued, m' = { m with
      accruedDistribution := accrued
      tranches := m.tranches.set t { m.tranches t with
        outstandingPrincipal := (m.tranches t).outstandingPrincipal - amount }
      totalOutstandingPrincipal := m.totalOutstandingPrincipal - amount } ∧
    ∀ id, accrued id = m.accruedDistribution id + if id ∈ m.positionsByTranche t then m.entitlement t amount id else 0
  sound : m'.Sound
  held : m'.held = m.held + amount

theorem Sound.paid (h : m.Sound) (on : m.fundingActivated = true) (hmem : t ∈ m.trancheIds)
    (hle : amount ≤ (m.tranches t).outstandingPrincipal) (htotal : amount ≤ m.totalOutstandingPrincipal)
    (accrued : Mapping W Nat) : Sound { m with
      accruedDistribution := accrued
      tranches := m.tranches.set t { m.tranches t with
        outstandingPrincipal := (m.tranches t).outstandingPrincipal - amount }
      totalOutstandingPrincipal := m.totalOutstandingPrincipal - amount } := by
  refine ⟨h.holdings.congr fun t' => set_tranche_kept (·.totalShares) (by rfl) t', fun t' howed => ?_, fun t' => ?_,
    h.distinct, fun hoff => ?_, ?_⟩
  · dsimp only at howed ⊢
    rw [set_tranche_kept (·.residualPositionId) (by rfl)]
    refine h.anchored t' fun hzero => howed ?_
    rw [set_apply]
    split
    · next ht =>
      subst ht
      dsimp only
      omega
    · exact hzero
  · dsimp only
    rw [h.configured t', set_tranche_kept (·.configuration) (by rfl)]
  · dsimp only at hoff
    rw [on] at hoff
    cases hoff
  · have hout := h.outstanding
    refine Nat.add_right_cancel ((sum_set_tranche (·.outstandingPrincipal) h.distinct hmem _).trans ?_)
    unfold outstandingOf at hout
    dsimp only
    omega

theorem Sound.recordDistribution (h : m.Sound) (hcall : m.recordDistribution t amount = .ok m') :
    Distributed m m' t amount := by
  simp only [PositionManager.recordDistribution, block_eq_ok, tranche_eq_ok, foldl_accrue] at hcall
  obtain ⟨_, ⟨hconf, rfl⟩, ⟨on, hne, hle⟩, -, hall, hres, htotal, rfl⟩ := hcall
  have hmem := (h.configured t).mpr hconf
  obtain ⟨hshares, hplace⟩ := h.anchored t (by omega)
  have hanchor : (m.tranches t).residualPositionId ∈ m.positionsByTranche t := by
    have := h.holdings.mem_of_shares hshares
    rwa [hplace] at this
  have hkey (id : W) (hid : id ∈ m.positionsByTranche t) : (m.positions id).positionId = id :=
    h.holdings.named id ((h.holdings.mem_iff t id).mp hid).1
  have hparts (k : W) := credits_apply (h.holdings.nodup t) hkey (m.allocation t amount) m.accruedDistribution k
  have hsum := sum_credits (m.positionsByTranche t) (fun id => (m.positions id).positionId) (m.allocation t amount)
    m.accruedDistribution
  generalize (m.positionsByTranche t).foldl (fun accrued id => accrued.modify (m.positions id).positionId
    (· + m.allocation t amount id)) m.accruedDistribution = accrued at hparts hsum
  -- what the rounding leaves over is credited to the residual position, which is one of the tranche
  have credited : ∃ accrued', (if amount - m.allocated t amount = 0 then { m with accruedDistribution := accrued }
        else accrue { m with accruedDistribution := accrued } (m.positions (m.tranches t).residualPositionId).positionId
          (amount - m.allocated t amount)) = { m with accruedDistribution := accrued' } ∧
      (∀ id, accrued' id = m.accruedDistribution id +
        if id ∈ m.positionsByTranche t then m.entitlement t amount id else 0) ∧
      accrued'.sum (fun _ n => n) = m.accruedDistribution.sum (fun _ n => n) + amount := by
    by_cases hzero : amount - m.allocated t amount = 0
    · refine ⟨accrued, if_pos hzero, fun id => ?_, ?_⟩
      · rw [hparts id, entitlement, hzero, ite_self, Nat.add_zero]
      · rw [hsum, ← allocated]
        omega
    · refine ⟨accrued.modify (m.tranches t).residualPositionId (· + (amount - m.allocated t amount)), ?_, fun id => ?_, ?_⟩
      · rw [if_neg hzero, hkey _ hanchor]
        rfl
      · rw [modify_add_apply, hparts id, entitlement]
        by_cases hid : (m.tranches t).residualPositionId = id
        · subst hid
          rw [if_pos hanchor, if_pos rfl, if_pos hanchor, Nat.add_assoc]
        · rw [if_neg hid, if_neg (Ne.symm hid), Nat.add_zero, Nat.add_zero]
      · have hset := accrued.sum_set counter_vanishes (m.tranches t).residualPositionId
          (accrued (m.tranches t).residualPositionId + (amount - m.allocated t amount))
        rw [← allocated] at hsum
        rw [Mapping.modify]
        omega
  obtain ⟨accrued', heq, happly, hsum'⟩ := credited
  rw [heq]
  refine ⟨on, hmem, ⟨hne, hle⟩, htotal, ⟨accrued', rfl, happly⟩, h.paid on hmem hle htotal accrued', ?_⟩
  simp only [held, setTranche, hsum']
  omega

end Unified.Syndicate.PositionManager
