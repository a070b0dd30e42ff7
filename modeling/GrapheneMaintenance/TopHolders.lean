import GrapheneMaintenance.Election

set_option autoImplicit false

/- `update_top_n_authorities` and `visit_special_authorities`, lines 471-527. Every account
   named by a `special_authority_object` has its owner and its active slot visited; a
   top-holders slot of asset `A` and count `N` hands the first holders of `A` in the
   `by_asset_balance` index, other than the account itself, to a `vote_counter`, whose
   `finish` rebuilds that slot's authority. The index, the counter and the two flag bits are
   declared outside the sources: the first two are parameters here. `num_needed` is a `uint8_t`,
   and each holder is handed on with its balance as the `uint64_t` that `vote_counter::add` takes.
   A visit writes the owner and active authorities and the `top_n_control_flags` of accounts and
   nothing else, so a pass does too. -/
namespace Graphene.Chain

def topNControlOwner : Nat := 1

def topNControlActive : Nat := 2

structure TopNCounter where
  finish : VoteCounter
  isEmpty : List (AccountId × Nat) → Bool

abbrev AssetBalanceRange := AssetId → List AccountBalanceObject → List AccountBalanceObject

-- Lines 505-515.
def topHoldersLoop (asset : AssetId) (account : AccountId) :
    List AccountBalanceObject → UInt8 → Except Fault (List (AccountId × Nat))
  | [], _ => .ok []
  | bal :: rest, numNeeded => do
    check (bal.assetType = asset) .abort
    if bal.owner = account then topHoldersLoop asset account rest numNeeded
    else
      let numNeeded := numNeeded - 1
      if numNeeded = 0 then .ok [(bal.owner, wrap64 bal.balance)]
      else
        let holders ← topHoldersLoop asset account rest numNeeded
        .ok ((bal.owner, wrap64 bal.balance) :: holders)

-- Lines 517-522.
def finishTopN (counter : TopNCounter) (isOwner : Bool) (holders : List (AccountId × Nat))
    (a : AccountObject) : AccountObject :=
  let a := if isOwner then { a with owner := counter.finish holders a.owner }
    else { a with active := counter.finish holders a.active }
  if counter.isEmpty holders then a
  else { a with topNControlFlags := a.topNControlFlags ||| if isOwner then topNControlOwner else topNControlActive }

-- Lines 492-524.
def updateTopNAuthority (counter : TopNCounter) (byAssetBalance : AssetBalanceRange) (acct : AccountId)
    (isOwner : Bool) (auth : SpecialAuthority) (ledger : Ledger) : Except Fault Ledger :=
  match auth with
  | .noSpecialAuthority => .ok ledger
  | .topHolders asset numTopHolders =>
    if numTopHolders = 0 then .ok ledger
    else do
      let holders ← topHoldersLoop asset acct (byAssetBalance asset ledger.balances) numTopHolders
      let accounts ← modifyAccount acct (finishTopN counter isOwner holders) ledger.accounts
      .ok { ledger with accounts := accounts }

-- Lines 471-488.
def visitSpecialAuthorities (visit : AccountId → Bool → SpecialAuthority → Ledger → Except Fault Ledger) :
    List SpecialAuthorityObject → Ledger → Except Fault Ledger
  | [], ledger => .ok ledger
  | sao :: rest, ledger => do
    let acct ← findAccount ledger.accounts sao.account
    let ledger ← (if acct.ownerSpecialAuthority ≠ .noSpecialAuthority then
      visit acct.id true acct.ownerSpecialAuthority ledger else .ok ledger)
    let ledger ← (if acct.activeSpecialAuthority ≠ .noSpecialAuthority then
      visit acct.id false acct.activeSpecialAuthority ledger else .ok ledger)
    visitSpecialAuthorities visit rest ledger

-- Lines 490-527.
def updateTopNAuthorities (counter : TopNCounter) (byAssetBalance : AssetBalanceRange) (ledger : Ledger) :
    Except Fault Ledger :=
  visitSpecialAuthorities (updateTopNAuthority counter byAssetBalance) ledger.specialAuthorities ledger

theorem toNat_ne_zero_of_ne {n : UInt8} (nonzero : n ≠ 0) : n.toNat ≠ 0 := fun zero =>
  nonzero (UInt8.toNat.inj (zero.trans UInt8.toNat_zero.symm))

theorem toNat_pred_of_ne {n : UInt8} (nonzero : n ≠ 0) : (n - 1).toNat = n.toNat - 1 :=
  UInt8.toNat_sub_of_le _ _ (Nat.pos_of_ne_zero (toNat_ne_zero_of_ne nonzero))

theorem topHoldersLoop_eq (asset : AssetId) (account : AccountId) (range : List AccountBalanceObject)
    (ofAsset : ∀ bal ∈ range, bal.assetType = asset) (numNeeded : UInt8) (nonzero : numNeeded ≠ 0) :
    topHoldersLoop asset account range numNeeded =
      .ok (((range.filter (·.owner ≠ account)).take numNeeded.toNat).map fun bal => (bal.owner, wrap64 bal.balance)) := by
  induction range generalizing numNeeded with
  | nil => simp [topHoldersLoop]
  | cons bal rest ih =>
    have restOfAsset : ∀ bal ∈ rest, bal.assetType = asset := fun b mem => ofAsset b (.tail _ mem)
    simp only [topHoldersLoop, ofAsset bal (.head _), decide_True, check_true, ok_bind]
    by_cases self : bal.owner = account
    · rw [if_pos self, ih restOfAsset numNeeded nonzero, List.filter_cons_of_neg (by simpa using self)]
    · obtain ⟨k, kIs⟩ := Nat.exists_eq_succ_of_ne_zero (toNat_ne_zero_of_ne nonzero)
      have countdown : (numNeeded - 1).toNat = k := by rw [toNat_pred_of_ne nonzero, kIs]; rfl
      rw [if_neg self, List.filter_cons_of_pos (by simpa using self), kIs, List.take_succ_cons, List.map_cons]
      split
      · rename_i last
        rw [last, UInt8.toNat_zero] at countdown
        subst countdown
        rfl
      · rename_i more
        rw [ih restOfAsset _ more, countdown]
        rfl

theorem update_top_n_authority_takes_first_holders (counter : TopNCounter) (byAssetBalance : AssetBalanceRange)
    (acct : AccountId) (isOwner : Bool) (asset : AssetId) (numTopHolders : UInt8) (ledger : Ledger)
    (ofAsset : ∀ bal ∈ byAssetBalance asset ledger.balances, bal.assetType = asset) :
    let others := (byAssetBalance asset ledger.balances).filter (·.owner ≠ acct)
    let holders := (others.take numTopHolders.toNat).map fun bal => (bal.owner, wrap64 bal.balance)
    (numTopHolders = 0 →
      updateTopNAuthority counter byAssetBalance acct isOwner (.topHolders asset numTopHolders) ledger = .ok ledger) ∧
    (numTopHolders ≠ 0 →
      holders.length = min numTopHolders.toNat others.length ∧ (∀ holder ∈ holders, holder.1 ≠ acct) ∧
      updateTopNAuthority counter byAssetBalance acct isOwner (.topHolders asset numTopHolders) ledger = (do
        let accounts ← modifyAccount acct (finishTopN counter isOwner holders) ledger.accounts
        .ok { ledger with accounts := accounts })) := by
  intro others holders
  refine ⟨fun zero => by rw [updateTopNAuthority, if_pos zero], fun nonzero => ⟨?_, ?_, ?_⟩⟩
  · simp only [holders, List.length_map, List.length_take]
  · intro holder mem
    obtain ⟨bal, taken, rfl⟩ := List.mem_map.mp mem
    simpa using (List.mem_filter.mp (List.mem_of_mem_take taken)).2
  · rw [updateTopNAuthority, if_neg nonzero, topHoldersLoop_eq asset acct _ ofAsset _ nonzero, ok_bind]

def recordingCounter : TopNCounter :=
  { finish := fun holders authority => { authority with accountAuths := holders }
    isEmpty := List.isEmpty }

def assetRows : AssetBalanceRange := fun asset rows => rows.filter (·.assetType = asset)

def topHoldersLedger : Ledger :=
  { accounts := [{ id := 5, ownerSpecialAuthority := .topHolders 1 2 }]
    balances := [{ owner := 5, assetType := 1, balance := 900 }, { owner := 7, assetType := 1, balance := 500 },
      { owner := 8, assetType := 1, balance := 300 }, { owner := 9, assetType := 1, balance := 100 }]
    specialAuthorities := [⟨5⟩] }

theorem update_top_n_authority_skips_own_row :
    ∃ ledger', updateTopNAuthority recordingCounter assetRows 5 true (.topHolders 1 2) topHoldersLedger = .ok ledger' ∧
      ledger'.accounts.map (fun a => (a.owner.accountAuths, a.topNControlFlags)) = [([(7, 500), (8, 300)], 1)] := by
  have law := (update_top_n_authority_takes_first_holders recordingCounter assetRows 5 true 1 2 topHoldersLedger
    (by decide)).2 (by decide)
  exact ⟨_, law.2.2.trans rfl, rfl⟩

def AccountObject.eraseTopN (a : AccountObject) : AccountObject :=
  { a with owner := {}, active := {}, topNControlFlags := 0 }

def ChangesTopNOnly (ledger ledger' : Ledger) : Prop :=
  ledger' = { ledger with accounts := ledger'.accounts } ∧
    ledger'.accounts.map AccountObject.eraseTopN = ledger.accounts.map AccountObject.eraseTopN

theorem ChangesTopNOnly.refl (ledger : Ledger) : ChangesTopNOnly ledger ledger := ⟨rfl, rfl⟩

theorem ChangesTopNOnly.trans {ledger ledger' ledger'' : Ledger} (first : ChangesTopNOnly ledger ledger')
    (second : ChangesTopNOnly ledger' ledger'') : ChangesTopNOnly ledger ledger'' := by
  refine ⟨?_, second.2.trans first.2⟩
  rw [second.1, first.1]

@[simp] theorem eraseTopN_finishTopN (counter : TopNCounter) (isOwner : Bool) (holders : List (AccountId × Nat))
    (a : AccountObject) : (finishTopN counter isOwner holders a).eraseTopN = a.eraseTopN := by
  unfold finishTopN
  split <;> split <;> rfl

theorem updateTopNAuthority_changesTopNOnly {counter : TopNCounter} {byAssetBalance : AssetBalanceRange}
    {acct : AccountId} {isOwner : Bool} {auth : SpecialAuthority} {ledger ledger' : Ledger}
    (run : updateTopNAuthority counter byAssetBalance acct isOwner auth ledger = .ok ledger') :
    ChangesTopNOnly ledger ledger' := by
  unfold updateTopNAuthority at run
  split at run
  · cases run
    exact .refl _
  · split at run
    · cases run
      exact .refl _
    · obtain ⟨holders, -, run⟩ := bind_eq_ok run
      obtain ⟨accounts, modified, run⟩ := bind_eq_ok run
      obtain ⟨_, -, modified⟩ := bind_eq_ok modified
      cases modified
      cases run
      refine ⟨rfl, ?_⟩
      simp only [List.map_map]
      exact List.map_congr_left fun a _ => by dsimp only [Function.comp]; split <;> simp

theorem visitSpecialAuthorities_changesTopNOnly {visit : AccountId → Bool → SpecialAuthority → Ledger → Except Fault Ledger}
    (step : ∀ acct isOwner auth ledger ledger', visit acct isOwner auth ledger = .ok ledger' → ChangesTopNOnly ledger ledger') :
    ∀ (saos : List SpecialAuthorityObject) (ledger ledger' : Ledger),
      visitSpecialAuthorities visit saos ledger = .ok ledger' → ChangesTopNOnly ledger ledger'
  | [], _, _, run => by
    cases run
    exact .refl _
  | sao :: rest, ledger, ledger', run => by
    have slot : ∀ (visited : Prop) [Decidable visited] acct isOwner auth (ledger mid : Ledger),
        (if visited then visit acct isOwner auth ledger else .ok ledger) = .ok mid → ChangesTopNOnly ledger mid := by
      intro visited _ acct isOwner auth ledger mid visit
      split at visit
      · exact step _ _ _ _ _ visit
      · cases visit
        exact .refl _
    obtain ⟨acct, -, run⟩ := bind_eq_ok run
    obtain ⟨afterOwner, owner, run⟩ := bind_eq_ok run
    obtain ⟨afterActive, active, run⟩ := bind_eq_ok run
    exact ((slot _ _ _ _ _ _ owner).trans (slot _ _ _ _ _ _ active)).trans
      (visitSpecialAuthorities_changesTopNOnly step rest _ _ run)

theorem updateTopNAuthorities_changesTopNOnly {counter : TopNCounter} {byAssetBalance : AssetBalanceRange}
    {ledger ledger' : Ledger} (run : updateTopNAuthorities counter byAssetBalance ledger = .ok ledger') :
    ChangesTopNOnly ledger ledger' :=
  visitSpecialAuthorities_changesTopNOnly (fun _ _ _ _ _ => updateTopNAuthority_changesTopNOnly) _ _ _ run

end Graphene.Chain
