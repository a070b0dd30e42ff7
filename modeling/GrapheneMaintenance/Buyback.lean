import GrapheneMaintenance.Database
import Mathlib.Data.List.Sort

set_option autoImplicit false

/- The `while(true)` loop of `create_buyback_orders`, lines 637-685, for one buyback object. It
   asks the `by_account_asset` balance index for the buyback account's first row at or above
   `next_asset`, moves `next_asset` past it, and tries to sell the row's balance for the asset
   being bought unless that is the asset itself, the balance is zero, or the asset is not in the
   account's `allowed_assets`. The try block, the `limit_order_create` and `limit_order_cancel`
   evaluators with the `fc::exception` they may throw caught, is a given function of the ledger:
   it may insert, change or remove any balance row. Asset ids are unbounded, so
   `asset_to_sell + 1` never wraps (`object_id.hpp` is not part of the sources).
   `create_buyback_orders` runs the loop, on fuel, for each buyback object in id order; each
   account's `allowed_assets`, which the account objects here do not carry, is a given function. -/
namespace Graphene.Chain

-- Lines 640-644: `bal_idx.lower_bound((owner, next))` with the owner test.
def lowerBoundRow (balances : List AccountBalanceObject) (owner : AccountId) (next : AssetId) :
    Option AccountBalanceObject :=
  balances.foldl (fun best row =>
    if row.owner = owner ∧ next ≤ row.assetType ∧ best.all (row.assetType < ·.assetType) then some row else best) none

-- Lines 647-654.
def sellsRow (assetToBuy : AssetId) (allowedAssets : List AssetId) (row : AccountBalanceObject) : Bool :=
  row.assetType ≠ assetToBuy && row.balance ≠ 0 && row.assetType ∈ allowedAssets

-- Lines 637-685, on fuel, giving the rows read in order and the final ledger.
def buybackLoop (attempt : AccountBalanceObject → Ledger → Ledger) (owner : AccountId) (assetToBuy : AssetId)
    (allowedAssets : List AssetId) : Nat → AssetId → Ledger → Option (List AccountBalanceObject × Ledger)
  | 0, _, _ => none
  | fuel + 1, next, ledger =>
    match lowerBoundRow ledger.balances owner next with
    | none => some ([], ledger)
    | some row =>
      let ledger := if sellsRow assetToBuy allowedAssets row then attempt row ledger else ledger
      (buybackLoop attempt owner assetToBuy allowedAssets fuel (row.assetType + 1) ledger).map
        fun (rows, ledger) => (row :: rows, ledger)

section
variable {owner : AccountId} {next : AssetId}

theorem foldl_lowerBoundRow {balances : List AccountBalanceObject} {best : Option AccountBalanceObject}
    {row : AccountBalanceObject}
    (found : balances.foldl (fun best row =>
      if row.owner = owner ∧ next ≤ row.assetType ∧ best.all (row.assetType < ·.assetType) then some row else best)
      best = some row) :
    best = some row ∨ row ∈ balances ∧ row.owner = owner ∧ next ≤ row.assetType := by
  induction balances generalizing best with
  | nil => exact .inl found
  | cons candidate rest ih =>
    rw [List.foldl_cons] at found
    rcases ih found with same | later
    · split at same
      · rename_i taken
        cases same
        exact .inr ⟨List.mem_cons_self _ _, taken.1, taken.2.1⟩
      · exact .inl same
    · exact .inr ⟨List.mem_cons_of_mem _ later.1, later.2⟩

theorem lowerBoundRow_spec {balances : List AccountBalanceObject} {row : AccountBalanceObject}
    (found : lowerBoundRow balances owner next = some row) :
    row ∈ balances ∧ row.owner = owner ∧ next ≤ row.assetType :=
  (foldl_lowerBoundRow found).resolve_left nofun

end

theorem length_filter_lt_of_imp {α : Type} {l : List α} {p q : α → Bool} (imp : ∀ a, q a → p a) {x : α}
    (mem : x ∈ l) (passes : p x) (fails : ¬q x) : (l.filter q).length < (l.filter p).length := by
  have narrow : l.filter q = (l.filter p).filter q := by
    rw [List.filter_filter]
    exact List.filter_congr fun a _ => by cases h : q a <;> simp [h, imp a]
  rw [narrow]
  exact List.length_filter_lt_length_iff_exists.mpr ⟨x, List.mem_filter.mpr ⟨mem, passes⟩, fails⟩

variable (attempt : AccountBalanceObject → Ledger → Ledger) (owner : AccountId) (assetToBuy : AssetId)
  (allowedAssets : List AssetId)

theorem buybackLoop_ends (next : AssetId) (ledger : Ledger) :
    ∃ fuel result, buybackLoop attempt owner assetToBuy allowedAssets fuel next ledger = some result := by
  cases found : lowerBoundRow ledger.balances owner next with
  | none => exact ⟨1, _, by rw [buybackLoop, found]⟩
  | some row =>
    obtain ⟨mem, owned, above⟩ := lowerBoundRow_spec found
    obtain ⟨fuel, result, run⟩ := buybackLoop_ends (row.assetType + 1)
      (if sellsRow assetToBuy allowedAssets row then attempt row ledger else ledger)
    exact ⟨fuel + 1, _, by rw [buybackLoop, found]; dsimp only; rw [run]; rfl⟩
termination_by ((allowedAssets.filter (next ≤ ·)).length,
  (ledger.balances.filter fun row => row.owner = owner ∧ next ≤ row.assetType).length)
decreasing_by
  rw [Prod.lex_def]
  dsimp only
  have passed : ∀ a : AssetId, row.assetType + 1 ≤ a → next ≤ a := fun _ h => Nat.le_trans above (Nat.le_of_succ_le h)
  by_cases sells : sellsRow assetToBuy allowedAssets row
  · left
    simp only [sellsRow, Bool.and_eq_true, decide_eq_true_eq] at sells
    exact length_filter_lt_of_imp (by simpa using passed) sells.2 (by simpa using above) (by simp)
  · rw [dif_neg sells]
    have fewerAllowed : (allowedAssets.filter (row.assetType + 1 ≤ ·)).length ≤
        (allowedAssets.filter (next ≤ ·)).length :=
      (List.monotone_filter_right allowedAssets (by simpa using passed)).length_le
    rcases Nat.lt_or_eq_of_le fewerAllowed with fewer | same
    · exact .inl fewer
    · exact .inr ⟨same, length_filter_lt_of_imp (by simp only [decide_eq_true_eq]; exact fun a h => ⟨h.1, passed _ h.2⟩)
        mem (by simp [owned, above]) (by simp)⟩

theorem buybackLoop_run : ∀ (fuel : Nat) (next : AssetId) (ledger : Ledger) (rows : List AccountBalanceObject)
    (ledger' : Ledger), buybackLoop attempt owner assetToBuy allowedAssets fuel next ledger = some (rows, ledger') →
      (rows.map (·.assetType)).Sorted (· < ·) ∧ (∀ row ∈ rows, row.owner = owner ∧ next ≤ row.assetType) ∧
      ledger' = rows.foldl (fun ledger row =>
        if sellsRow assetToBuy allowedAssets row then attempt row ledger else ledger) ledger
  | 0, _, _, _, _, run => by cases run
  | fuel + 1, next, ledger, rows, ledger', run => by
    rw [buybackLoop] at run
    split at run
    · cases run
      exact ⟨List.sorted_nil, nofun, rfl⟩
    · rename_i row found
      obtain ⟨-, owned, above⟩ := lowerBoundRow_spec found
      obtain ⟨⟨rest, last⟩, restRun, same⟩ := Option.map_eq_some'.mp run
      cases same
      obtain ⟨sorted, later, folded⟩ := buybackLoop_run fuel _ _ _ _ restRun
      refine ⟨List.sorted_cons.mpr ⟨?_, sorted⟩, ?_, folded⟩
      · intro asset mem
        obtain ⟨other, otherMem, rfl⟩ := List.mem_map.mp mem
        exact Nat.lt_of_succ_le (later other otherMem).2
      · intro other mem
        rcases List.mem_cons.mp mem with rfl | otherMem
        · exact ⟨owned, above⟩
        · exact ⟨(later other otherMem).1, Nat.le_trans above (Nat.le_of_succ_le (later other otherMem).2)⟩

def openNextRow (row : AccountBalanceObject) (ledger : Ledger) : Ledger :=
  { ledger with balances := ledger.balances ++ [{ row with assetType := row.assetType + 1, balance := 1 }] }

example : (buybackLoop openNextRow 1 9 [0, 1, 2] 10 0 { balances := [{ owner := 1, assetType := 0, balance := 5 }] }).map
    (fun run => run.1.map (·.assetType)) = some [0, 1, 2, 3] := by
  decide

theorem buybackLoop_add_fuel : ∀ (fuel : Nat) (next : AssetId) (ledger : Ledger)
    (result : List AccountBalanceObject × Ledger),
    buybackLoop attempt owner assetToBuy allowedAssets fuel next ledger = some result →
      ∀ k, buybackLoop attempt owner assetToBuy allowedAssets (fuel + k) next ledger = some result
  | 0, _, _, _, run, _ => by cases run
  | fuel + 1, next, ledger, result, run, k => by
    rw [Nat.add_right_comm, buybackLoop]
    rw [buybackLoop] at run
    cases found : lowerBoundRow ledger.balances owner next with
    | none =>
      rw [found] at run
      exact run
    | some row =>
      rw [found] at run
      obtain ⟨restResult, restRun, same⟩ := Option.map_eq_some'.mp run
      dsimp only
      rw [buybackLoop_add_fuel fuel _ _ restResult restRun k]
      exact congrArg some same

theorem buybackLoop_eventually (next : AssetId) (ledger : Ledger) :
    ∃ enough result, ∀ fuel, enough ≤ fuel → buybackLoop attempt owner assetToBuy allowedAssets fuel next ledger = some result := by
  obtain ⟨enough, result, run⟩ := buybackLoop_ends attempt owner assetToBuy allowedAssets next ledger
  refine ⟨enough, result, fun fuel more => ?_⟩
  obtain ⟨k, rfl⟩ := Nat.exists_eq_add_of_le more
  exact buybackLoop_add_fuel attempt owner assetToBuy allowedAssets enough next ledger result run k

-- Lines 614-688.
def createBuybackOrders (attempt : AssetId → AccountBalanceObject → Ledger → Ledger)
    (allowedAssets : AccountId → Option (List AssetId)) (assets : List AssetObject) (fuel : Nat) :
    List BuybackObject → Ledger → Option (Except Fault Ledger)
  | [], ledger => some (.ok ledger)
  | bbo :: rest, ledger =>
    match assets.find? (·.id = bbo.assetToBuy) with
    | none => some (.error .missingObject)
    | some assetToBuy =>
      match assetToBuy.buybackAccount with
      | none => some (.error .abort)
      | some accountId =>
        match findAccount ledger.accounts accountId with
        | .error e => some (.error e)
        | .ok buybackAccount =>
          match allowedAssets buybackAccount.id with
          | none => createBuybackOrders attempt allowedAssets assets fuel rest ledger
          | some allowed =>
            (buybackLoop (attempt assetToBuy.id) buybackAccount.id assetToBuy.id allowed fuel 0 ledger).bind
              fun run => createBuybackOrders attempt allowedAssets assets fuel rest run.2

def buybackAllowedAssets (allowedAssets : AccountId → Option (List AssetId)) (assets : List AssetObject)
    (bbo : BuybackObject) : Option (List AssetId) :=
  ((assets.find? (·.id = bbo.assetToBuy)).bind (·.buybackAccount)).bind allowedAssets

def SellableRow (assets : List AssetObject) (allowedAssets : AccountId → Option (List AssetId))
    (assetToBuy : AssetId) (row : AccountBalanceObject) : Prop :=
  (∃ asset, assets.find? (·.id = assetToBuy) = some asset ∧ asset.buybackAccount = some row.owner) ∧
    ∃ allowed, allowedAssets row.owner = some allowed ∧ sellsRow assetToBuy allowed row = true

theorem foldl_ite_eq_foldl_filter {α β : Type} (p : α → Bool) (f : β → α → β) :
    ∀ (l : List α) (init : β), l.foldl (fun acc a => if p a then f acc a else acc) init = (l.filter p).foldl f init
  | [], _ => rfl
  | a :: rest, init => by
    rw [List.foldl_cons, List.filter_cons]
    split
    · rw [List.foldl_cons, foldl_ite_eq_foldl_filter p f rest]
    · rw [foldl_ite_eq_foldl_filter p f rest]

theorem create_buyback_orders_sells_allowed_only (attempt : AssetId → AccountBalanceObject → Ledger → Ledger)
    (allowedAssets : AccountId → Option (List AssetId)) (assets : List AssetObject) :
    ∀ (buybacks : List BuybackObject) (ledger : Ledger), ∃ enough result,
      (∀ fuel, enough ≤ fuel → createBuybackOrders attempt allowedAssets assets fuel buybacks ledger = some result) ∧
      ∀ ledger', result = .ok ledger' → ∃ sales : List (BuybackObject × List AccountBalanceObject),
        sales.map (·.1) = buybacks.filter (buybackAllowedAssets allowedAssets assets · |>.isSome) ∧
        ledger' = sales.foldl (fun ledger sale =>
          sale.2.foldl (fun ledger row => attempt sale.1.assetToBuy row ledger) ledger) ledger ∧
        ∀ sale ∈ sales, (sale.2.map (·.assetType)).Sorted (· < ·) ∧
          ∀ row ∈ sale.2, SellableRow assets allowedAssets sale.1.assetToBuy row
  | [], ledger => ⟨0, .ok ledger, fun _ _ => rfl, fun _ same => ⟨[], rfl, by cases same; rfl, nofun⟩⟩
  | bbo :: rest, ledger => by
    cases assetLookup : assets.find? (·.id = bbo.assetToBuy) with
    | none => exact ⟨0, .error .missingObject, fun _ _ => by simp only [createBuybackOrders, assetLookup],
        fun _ failed => nomatch failed⟩
    | some assetToBuy =>
    cases buyer : assetToBuy.buybackAccount with
    | none => exact ⟨0, .error .abort, fun _ _ => by simp only [createBuybackOrders, assetLookup, buyer],
        fun _ failed => nomatch failed⟩
    | some accountId =>
    cases accountLookup : findAccount ledger.accounts accountId with
    | error e => exact ⟨0, .error e, fun _ _ => by simp only [createBuybackOrders, assetLookup, buyer, accountLookup],
        fun _ failed => nomatch failed⟩
    | ok buybackAccount =>
    have owner : buybackAccount.id = accountId := by
      simpa using List.find?_some (find?_of_findAccount accountLookup)
    have assetId : assetToBuy.id = bbo.assetToBuy := by simpa using List.find?_some assetLookup
    have allowedOf : buybackAllowedAssets allowedAssets assets bbo = allowedAssets buybackAccount.id := by
      rw [buybackAllowedAssets, assetLookup, Option.some_bind, buyer, Option.some_bind, owner]
    cases allowance : allowedAssets buybackAccount.id with
    | none =>
      obtain ⟨enough, result, runs, spec⟩ := create_buyback_orders_sells_allowed_only attempt allowedAssets assets rest ledger
      refine ⟨enough, result, fun fuel more => ?_, fun ledger' done => ?_⟩
      · simp only [createBuybackOrders, assetLookup, buyer, accountLookup, allowance]
        exact runs fuel more
      · rw [List.filter_cons_of_neg (by rw [allowedOf, allowance]; decide)]
        exact spec ledger' done
    | some allowed =>
      obtain ⟨loopEnough, ⟨rows, middle⟩, loopRuns⟩ := buybackLoop_eventually (attempt assetToBuy.id)
        buybackAccount.id assetToBuy.id allowed 0 ledger
      obtain ⟨sorted, owned, folded⟩ := buybackLoop_run (attempt assetToBuy.id) buybackAccount.id assetToBuy.id
        allowed loopEnough 0 ledger rows middle (loopRuns loopEnough (le_refl _))
      obtain ⟨enough, result, runs, spec⟩ :=
        create_buyback_orders_sells_allowed_only attempt allowedAssets assets rest middle
      refine ⟨max loopEnough enough, result, fun fuel more => ?_, fun ledger' done => ?_⟩
      · simp only [createBuybackOrders, assetLookup, buyer, accountLookup, allowance,
          loopRuns fuel (le_of_max_le_left more), Option.some_bind]
        exact runs fuel (le_of_max_le_right more)
      obtain ⟨sales, groups, final, sellable⟩ := spec ledger' done
      refine ⟨(bbo, rows.filter (sellsRow assetToBuy.id allowed)) :: sales, ?_, ?_, ?_⟩
      · rw [List.filter_cons_of_pos (by rw [allowedOf, allowance]; rfl), List.map_cons, groups]
      · rw [List.foldl_cons, ← assetId, ← foldl_ite_eq_foldl_filter, ← folded, final]
      · refine List.forall_mem_cons.mpr ⟨⟨sorted.sublist ((List.filter_sublist _).map _), fun row mem => ?_⟩, sellable⟩
        obtain ⟨kept, sells⟩ := List.mem_filter.mp mem
        have rowOwner : row.owner = accountId := (owned row kept).1.trans owner
        exact ⟨⟨assetToBuy, assetLookup, by rw [buyer, rowOwner]⟩,
          allowed, by rw [rowOwner, ← owner]; exact allowance, by rw [← assetId]; exact sells⟩

end Graphene.Chain
