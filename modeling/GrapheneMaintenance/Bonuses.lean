import GrapheneMaintenance.Database

set_option autoImplicit false

/- The activity gate of `database::issue_bonuses_old`, lines 1167-1256. Both the referral loop
   and the daily-issue pass walk an account's transaction history from its most recent node
   towards older ones and admit the account once they reach a transfer of at least one whole
   unit of the bonus asset that the account sent, giving up at the first node a day old or at the
   end of the list. The history objects and the operation variant are graphene's, not part of the
   sources; only the fields the walks read are kept. A walk runs on fuel, with the day's cutoff a
   signed `time_point`; it yields `found` at a qualifying transfer and `miss` where it gives up.
   A history list is finite and has no cycle when it reaches the null id node by node. -/
namespace Graphene.Chain

def findHistoryNode (nodes : List AccountTransactionHistoryObject) (id : Nat) :
    Except Fault AccountTransactionHistoryObject :=
  match nodes.find? (·.id = id) with
  | some node => .ok node
  | none => .error .missingObject

def findOperation (operations : List OperationHistoryObject) (id : Nat) : Except Fault OperationHistoryObject :=
  match operations.find? (·.id = id) with
  | some operation => .ok operation
  | none => .error .missingObject

-- Lines 1189-1196 and 1231-1238: a transfer of at least `1 * PRECISION` of the bonus asset sent by
-- `account`.
def HistoryOperation.isActivity (account : AccountId) (asset : AssetId) (precision : Int) :
    HistoryOperation → Bool
  | .transfer sender assetId amount => assetId = asset && decide (1 * precision ≤ amount) && sender = account
  | .other => false

-- Lines 1188-1208 and 1230-1243, on fuel. `cutoff` is `head_block_time() - fc::hours(24)`.
def activityWalk {α : Type} (nodes : List AccountTransactionHistoryObject) (operations : List OperationHistoryObject)
    (cutoff : Int) (isActivity : HistoryOperation → Bool) (miss found : α) : Nat → Nat → Option (Except Fault α)
  | 0, _ => none
  | fuel + 1, id =>
    match findHistoryNode nodes id with
    | .error e => some (.error e)
    | .ok node =>
      if (node.blockTime : Int) ≤ cutoff then some (.ok miss)
      else match findOperation operations node.operationId with
        | .error e => some (.error e)
        | .ok h =>
          if isActivity h.op then some (.ok found)
          else if node.next = 0 then some (.ok miss)
          else activityWalk nodes operations cutoff isActivity miss found fuel node.next

-- Lines 1179-1209: the referral loop's `need_continue` for an account whose statistics name
-- `mostRecentOp`; `true` skips the referral issue.
def referralNeedContinue (nodes : List AccountTransactionHistoryObject) (operations : List OperationHistoryObject)
    (headBlockTime : Nat) (account asset : AssetId) (precision : Int) (fuel mostRecentOp : Nat) :
    Option (Except Fault Bool) :=
  if mostRecentOp = 0 then some (.ok true)
  else activityWalk nodes operations ((headBlockTime : Int) - 86400) (HistoryOperation.isActivity account asset precision)
    true false fuel mostRecentOp

-- Lines 1220-1244: `true` when the daily-issue pass gets past the walk to the balance check.
def dailyIssuePassesWalk (nodes : List AccountTransactionHistoryObject) (operations : List OperationHistoryObject)
    (headBlockTime : Nat) (account asset : AssetId) (precision : Int) (fuel mostRecentOp : Nat) :
    Option (Except Fault Bool) :=
  if mostRecentOp = 0 then some (.ok false)
  else activityWalk nodes operations ((headBlockTime : Int) - 86400) (HistoryOperation.isActivity account asset precision)
    false true fuel mostRecentOp

inductive HistoryChain (nodes : List AccountTransactionHistoryObject) :
    Nat → List AccountTransactionHistoryObject → Prop
  | null : HistoryChain nodes 0 []
  | node {id : Nat} {node : AccountTransactionHistoryObject} {rest : List AccountTransactionHistoryObject}
      (nonNull : id ≠ 0) (found : findHistoryNode nodes id = .ok node) (tail : HistoryChain nodes node.next rest) :
      HistoryChain nodes id (node :: rest)

def activeSince (operations : List OperationHistoryObject) (cutoff : Int) (isActivity : HistoryOperation → Bool)
    (chain : List AccountTransactionHistoryObject) : Bool :=
  (chain.takeWhile fun node => cutoff < node.blockTime).any fun node =>
    match findOperation operations node.operationId with
    | .ok h => isActivity h.op
    | .error _ => false

def OperationsResolve (operations : List OperationHistoryObject) (cutoff : Int)
    (chain : List AccountTransactionHistoryObject) : Prop :=
  ∀ node ∈ chain.takeWhile (fun node => cutoff < node.blockTime), ∃ h, findOperation operations node.operationId = .ok h

section
variable {nodes : List AccountTransactionHistoryObject} {operations : List OperationHistoryObject}
  {cutoff : Int} {isActivity : HistoryOperation → Bool}

theorem activeSince_cons_of_recent {node : AccountTransactionHistoryObject} {rest : List AccountTransactionHistoryObject}
    (recent : cutoff < node.blockTime) {h : OperationHistoryObject}
    (operation : findOperation operations node.operationId = .ok h) :
    activeSince operations cutoff isActivity (node :: rest) = (isActivity h.op || activeSince operations cutoff isActivity rest) := by
  simp [activeSince, List.takeWhile_cons, recent, operation]

theorem OperationsResolve.of_cons {node : AccountTransactionHistoryObject} {rest : List AccountTransactionHistoryObject}
    (resolve : OperationsResolve operations cutoff (node :: rest)) (recent : cutoff < node.blockTime) :
    OperationsResolve operations cutoff rest := fun later mem =>
  resolve later (by rw [List.takeWhile_cons_of_pos (by simpa using recent)]; exact List.mem_cons_of_mem _ mem)

theorem HistoryChain.nil_of_null {head : Nat} {chain : List AccountTransactionHistoryObject}
    (isChain : HistoryChain nodes head chain) (null : head = 0) : chain = [] := by
  cases isChain with
  | null => rfl
  | node nonNull => exact absurd null nonNull

theorem activityWalk_eq {α : Type} (miss found : α) {head : Nat} {chain : List AccountTransactionHistoryObject}
    (isChain : HistoryChain nodes head chain) (nonNull : head ≠ 0) (resolve : OperationsResolve operations cutoff chain) :
    ∀ fuel, chain.length ≤ fuel → activityWalk nodes operations cutoff isActivity miss found fuel head =
      some (.ok (if activeSince operations cutoff isActivity chain then found else miss)) := by
  induction isChain with
  | null => exact absurd rfl nonNull
  | @node id node rest _ read tail ih =>
    intro fuel enough
    obtain ⟨fuel, rfl⟩ : ∃ f, fuel = f + 1 := ⟨fuel - 1, by simp at enough; omega⟩
    rw [activityWalk, read]
    dsimp only
    by_cases old : (node.blockTime : Int) ≤ cutoff
    · rw [if_pos old]
      simp [activeSince, List.takeWhile_cons, show ¬cutoff < node.blockTime by omega]
    · rw [if_neg old]
      have recent : cutoff < node.blockTime := by omega
      obtain ⟨h, operation⟩ := resolve node (by simp [List.takeWhile_cons, recent])
      rw [operation, activeSince_cons_of_recent recent operation]
      dsimp only
      by_cases active : isActivity h.op
      · simp [active]
      · have inactive : isActivity h.op = false := by simpa using active
        rw [if_neg active, inactive, Bool.false_or]
        by_cases last : node.next = 0
        · rw [if_pos last, tail.nil_of_null last]
          rfl
        · rw [if_neg last, ih last (resolve.of_cons recent) fuel (by simp at enough; omega)]

theorem activityWalk_add_fuel {α : Type} {miss found : α} (k : Nat) :
    ∀ {fuel id : Nat} {result : Except Fault α},
      activityWalk nodes operations cutoff isActivity miss found fuel id = some result →
        activityWalk nodes operations cutoff isActivity miss found (fuel + k) id = some result
  | 0, _, _, run => by cases run
  | fuel + 1, id, result, run => by
    rw [Nat.add_right_comm]
    unfold activityWalk at run ⊢
    split at run
    · exact run
    · split_ifs at run ⊢ with old last
      · exact run
      · exact run
      · split at run
        · exact run
        · split_ifs at run ⊢
          · exact run
          · exact activityWalk_add_fuel k run

theorem activityWalk_ok {α : Type} (miss found : α) {head : Nat} {chain : List AccountTransactionHistoryObject}
    (isChain : HistoryChain nodes head chain) (nonNull : head ≠ 0) (resolve : OperationsResolve operations cutoff chain)
    {fuel : Nat} {result : Except Fault α}
    (run : activityWalk nodes operations cutoff isActivity miss found fuel head = some result) :
    result = .ok (if activeSince operations cutoff isActivity chain then found else miss) := by
  have more := activityWalk_add_fuel chain.length run
  rw [activityWalk_eq miss found isChain nonNull resolve _ (Nat.le_add_left _ _)] at more
  exact (Option.some.inj more).symm

end

section
variable {nodes : List AccountTransactionHistoryObject} {operations : List OperationHistoryObject}
  {headBlockTime : Nat} {account asset : AssetId} {precision : Int} {fuel mostRecentOp : Nat}
  {chain : List AccountTransactionHistoryObject}

theorem referralNeedContinue_ok (isChain : HistoryChain nodes mostRecentOp chain)
    (resolve : OperationsResolve operations ((headBlockTime : Int) - 86400) chain) {result : Except Fault Bool}
    (run : referralNeedContinue nodes operations headBlockTime account asset precision fuel mostRecentOp = some result) :
    result = .ok !(activeSince operations ((headBlockTime : Int) - 86400)
      (HistoryOperation.isActivity account asset precision) chain) := by
  unfold referralNeedContinue at run
  split_ifs at run with null
  · obtain rfl := isChain.nil_of_null null
    cases run
    rfl
  · rw [activityWalk_ok true false isChain null resolve run]
    cases activeSince operations ((headBlockTime : Int) - 86400) (HistoryOperation.isActivity account asset precision) chain
      <;> rfl

theorem dailyIssuePassesWalk_ok (isChain : HistoryChain nodes mostRecentOp chain)
    (resolve : OperationsResolve operations ((headBlockTime : Int) - 86400) chain) {result : Except Fault Bool}
    (run : dailyIssuePassesWalk nodes operations headBlockTime account asset precision fuel mostRecentOp = some result) :
    result = .ok (activeSince operations ((headBlockTime : Int) - 86400)
      (HistoryOperation.isActivity account asset precision) chain) := by
  unfold dailyIssuePassesWalk at run
  split_ifs at run with null
  · obtain rfl := isChain.nil_of_null null
    cases run
    rfl
  · rw [activityWalk_ok false true isChain null resolve run]
    cases activeSince operations ((headBlockTime : Int) - 86400) (HistoryOperation.isActivity account asset precision) chain
      <;> rfl

end

theorem history_walks_decide_alike (nodes : List AccountTransactionHistoryObject)
    (operations : List OperationHistoryObject) (headBlockTime : Nat) (account asset : AssetId) (precision : Int)
    (mostRecentOp : Nat) (chain : List AccountTransactionHistoryObject) (isChain : HistoryChain nodes mostRecentOp chain)
    (resolve : OperationsResolve operations ((headBlockTime : Int) - 86400) chain) :
    ∀ fuel, chain.length ≤ fuel →
      referralNeedContinue nodes operations headBlockTime account asset precision fuel mostRecentOp =
        some (.ok !(activeSince operations ((headBlockTime : Int) - 86400)
          (HistoryOperation.isActivity account asset precision) chain)) ∧
      dailyIssuePassesWalk nodes operations headBlockTime account asset precision fuel mostRecentOp =
        some (.ok (activeSince operations ((headBlockTime : Int) - 86400)
          (HistoryOperation.isActivity account asset precision) chain)) := by
  intro fuel enough
  by_cases null : mostRecentOp = 0
  · obtain rfl := isChain.nil_of_null null
    simp [referralNeedContinue, dailyIssuePassesWalk, null, activeSince]
  · rw [referralNeedContinue, dailyIssuePassesWalk, if_neg null, if_neg null,
      activityWalk_eq true false isChain null resolve fuel enough,
      activityWalk_eq false true isChain null resolve fuel enough]
    cases activeSince operations ((headBlockTime : Int) - 86400) (HistoryOperation.isActivity account asset precision) chain
      <;> exact ⟨rfl, rfl⟩

def recentSenderNodes : List AccountTransactionHistoryObject :=
  [{ id := 3, operationId := 30, next := 2, blockTime := 99000 }, { id := 2, operationId := 20, blockTime := 9000 }]

def recentSenderOperations : List OperationHistoryObject :=
  [{ id := 20, op := .other }, { id := 30, op := .transfer 7 1 1 }]

theorem history_walks_admit_recent_sender :
    referralNeedContinue recentSenderNodes recentSenderOperations 100000 7 1 1 2 3 = some (.ok false) ∧
      dailyIssuePassesWalk recentSenderNodes recentSenderOperations 100000 7 1 1 2 3 = some (.ok true) :=
  history_walks_decide_alike recentSenderNodes recentSenderOperations 100000 7 1 1 3 recentSenderNodes
    (.node (by decide) rfl (.node (by decide) rfl .null))
    (fun _ mem => by
      rcases List.mem_cons.mp ((List.takeWhile_sublist _).subset mem) with rfl | older
      · exact ⟨_, rfl⟩
      · obtain rfl := List.mem_singleton.mp older
        exact ⟨_, rfl⟩) 2 (le_refl _)

def danglingNodes : List AccountTransactionHistoryObject := [{ id := 5, operationId := 50, blockTime := 99000 }]

theorem history_walks_throw_on_missing_operation :
    HistoryChain danglingNodes 5 danglingNodes ∧
      ∀ fuel, referralNeedContinue danglingNodes [] 100000 7 1 1 (fuel + 1) 5 = some (.error .missingObject) ∧
        dailyIssuePassesWalk danglingNodes [] 100000 7 1 1 (fuel + 1) 5 = some (.error .missingObject) :=
  ⟨.node (by decide) rfl .null, fun _ => ⟨rfl, rfl⟩⟩

end Graphene.Chain
