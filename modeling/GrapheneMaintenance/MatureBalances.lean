import GrapheneMaintenance.Database
import Mathlib.Data.List.Nodup

set_option autoImplicit false

/- `database::clear_account_mature_balance_index`, lines 1257-1279, which `clear_old_entities`
   runs first unless the head block is at `HARDFORK_616_MAINTENANCE_CHANGE_TIME`. Every balance
   row loses its `mandatory_transfer` flag, and the mature balance row of the same account and
   asset, found through the unique `by_account_asset` index, restarts from that balance with a
   history of one entry. `account_mature_balance_object` and `mature_balances_history` are not
   part of the sources; they are modelled by the fields these lines write, a history entry by the
   two balances its constructor takes. The pass runs the loop on the ledger's rows; the indices
   below carry the uniqueness of their keys. -/
namespace Graphene.Chain

structure BalanceIndex where
  rows : List AccountBalanceObject
  unique : (rows.map AccountBalanceObject.key).Nodup

structure MatureBalanceIndex where
  rows : List AccountMatureBalanceObject
  unique : (rows.map AccountMatureBalanceObject.key).Nodup

def BalanceIndex.find (balances : BalanceIndex) (key : AccountId × AssetId) : Option AccountBalanceObject :=
  balances.rows.find? (·.key = key)

def MatureBalanceIndex.find (index : MatureBalanceIndex) (key : AccountId × AssetId) :
    Option AccountMatureBalanceObject :=
  index.rows.find? (·.key = key)

-- Lines 1268-1274.
def AccountMatureBalanceObject.restart (row : AccountMatureBalanceObject) (bal : AccountBalanceObject) :
    AccountMatureBalanceObject :=
  { row with
    assetType := bal.assetType
    balance := bal.balance
    history := [(bal.balance, bal.balance)]
    mandatoryTransfer := false }

-- Lines 1266-1276: the row `idx.find` returns for the balance's key, the only one in a unique index.
def restartMatureRow (bal : AccountBalanceObject) (row : AccountMatureBalanceObject) : AccountMatureBalanceObject :=
  if row.key = bal.key then row.restart bal else row

-- Lines 1262-1278 over the balance rows in index order; a balance row's own `modify` leaves the
-- fields the mature row reads.
def restartMatureRows (balances : List AccountBalanceObject) (rows : List AccountMatureBalanceObject) :
    List AccountMatureBalanceObject :=
  balances.foldl (fun rows bal => rows.map (restartMatureRow bal)) rows

def clearMandatoryTransfer (balances : List AccountBalanceObject) : List AccountBalanceObject :=
  balances.map fun bal => { bal with mandatoryTransfer := false }

theorem restartMatureRow_key (bal : AccountBalanceObject) (row : AccountMatureBalanceObject) :
    (restartMatureRow bal row).key = row.key := by
  unfold restartMatureRow
  split
  · rename_i same
    simp only [AccountMatureBalanceObject.key, AccountMatureBalanceObject.restart, AccountBalanceObject.key,
      Prod.mk.injEq, true_and] at same ⊢
    exact same.2.symm
  · rfl

theorem restartMatureRow_of_ne {bal : AccountBalanceObject} {row : AccountMatureBalanceObject}
    (other : bal.key ≠ row.key) : restartMatureRow bal row = row :=
  if_neg (Ne.symm other)

theorem restartMatureRows_keys (balances : List AccountBalanceObject) :
    ∀ rows, (restartMatureRows balances rows).map AccountMatureBalanceObject.key = rows.map AccountMatureBalanceObject.key := by
  induction balances with
  | nil => exact fun _ => rfl
  | cons bal rest ih =>
    intro rows
    rw [restartMatureRows, List.foldl_cons, ← restartMatureRows, ih, List.map_map]
    exact List.map_congr_left fun row _ => restartMatureRow_key bal row

def clearAccountMatureBalanceIndex (balances : BalanceIndex) (index : MatureBalanceIndex) :
    BalanceIndex × MatureBalanceIndex :=
  (⟨clearMandatoryTransfer balances.rows, by
      simpa only [clearMandatoryTransfer, List.map_map, Function.comp_def, AccountBalanceObject.key]
        using balances.unique⟩,
    ⟨restartMatureRows balances.rows index.rows, (restartMatureRows_keys _ _).symm ▸ index.unique⟩)

theorem find?_restartMatureRows (key : AccountId × AssetId) :
    ∀ (balances : List AccountBalanceObject) (rows : List AccountMatureBalanceObject),
      (restartMatureRows balances rows).find? (·.key = key) =
        (rows.find? (·.key = key)).map fun row => balances.foldl (fun row bal => restartMatureRow bal row) row
  | [], rows => by simp [restartMatureRows]
  | bal :: rest, rows => by
    rw [restartMatureRows, List.foldl_cons, ← restartMatureRows, find?_restartMatureRows key rest, List.find?_map]
    simp only [Function.comp_def, restartMatureRow_key, Option.map_map]
    rfl

theorem foldl_restartMatureRow {key : AccountId × AssetId} :
    ∀ {bals : List AccountBalanceObject} {row : AccountMatureBalanceObject},
      (bals.map AccountBalanceObject.key).Nodup → row.key = key →
      bals.foldl (fun row bal => restartMatureRow bal row) row =
        match bals.find? (·.key = key) with
        | some bal => row.restart bal
        | none => row
  | [], _, _, _ => rfl
  | bal :: rest, row, unique, keyed => by
    obtain ⟨fresh, restUnique⟩ := List.nodup_cons.mp unique
    by_cases own : bal.key = key
    · have untouched : ∀ other ∈ rest, other.key ≠ key := fun other mem same =>
        fresh (List.mem_map.mpr ⟨other, mem, same.trans own.symm⟩)
      have restarted : (restartMatureRow bal row).key = key := (restartMatureRow_key bal row).trans keyed
      have skipped := foldl_restartMatureRow restUnique restarted
      rw [List.find?_eq_none.mpr (fun other mem => by simpa using untouched other mem)] at skipped
      simp only [List.foldl_cons, List.find?_cons, own, decide_True, skipped]
      exact if_pos (keyed.trans own.symm)
    · simp only [List.foldl_cons, List.find?_cons, own, decide_False,
        restartMatureRow_of_ne (fun same => own (same.trans keyed))]
      exact foldl_restartMatureRow restUnique keyed

theorem MatureBalanceIndex.key_of_find {index : MatureBalanceIndex} {key : AccountId × AssetId}
    {row : AccountMatureBalanceObject} (found : index.find key = some row) : row.key = key := by
  simpa using List.find?_some found

theorem cleared_mature_index_follows_balances (balances : BalanceIndex) (index : MatureBalanceIndex)
    (key : AccountId × AssetId) :
    (clearAccountMatureBalanceIndex balances index).2.find key =
      (index.find key).map fun row =>
        match balances.find key with
        | some bal => row.restart bal
        | none => row := by
  rw [clearAccountMatureBalanceIndex, MatureBalanceIndex.find, find?_restartMatureRows]
  cases found : index.find key with
  | none => exact congrArg (Option.map _) found
  | some row =>
    rw [MatureBalanceIndex.find] at found
    rw [found]
    exact congrArg some (foldl_restartMatureRow balances.unique (MatureBalanceIndex.key_of_find found))

example :
    (clearAccountMatureBalanceIndex ⟨[{ owner := 1, assetType := 0, balance := 40, mandatoryTransfer := true }], by decide⟩
      ⟨[{ owner := 1, assetType := 0, balance := 7, history := [(3, 7)] }, { owner := 2, assetType := 0, balance := 9 }],
        by decide⟩).2.rows =
      [{ owner := 1, assetType := 0, balance := 40, history := [(40, 40)] }, { owner := 2, assetType := 0, balance := 9 }] := by
  decide

end Graphene.Chain
