import OrderManagement.Ordertimeout.Delays
import Mathlib.Logic.Function.Basic

/-
  The queues that a worker declares, and whether what it
  publishes reaches one of them. The topology and the
  publisher read the ladders of the configuration on their
  own: a ladder without a routing key is bound under the
  empty key, but published under the key of the old delay
  queue, which nothing is bound under.

  Instants and durations count nanoseconds.

  Main declarations:
    * `WorkerSettings`, `checkNewWorker`, `TimeoutWorker`
    * `Broker` with its operations
    * `Broker.declareTopology`
    * `Broker.Declares` and `declares_of_declareTopology`
    * `published_routable_iff`
-/

namespace OrderManagement

------------------------------------------------------------
-- Workers
------------------------------------------------------------

/- The struct `Config` of the worker. -/
structure WorkerSettings where
  url : String
  connectTimeout : Int
  reconnectDelay : Int
  outboxPollInterval : Int
  outboxRetryDelay : Int
  publishBatchSize : Int
  consumerPrefetch : Int
  delayLadders : List DelayLadder
deriving DecidableEq

/- Which of its pointers NewWorker is given. -/
structure WorkerParts where
  db : Bool
  canceller : Bool
  logger : Bool
deriving DecidableEq

/- The checks of NewWorker. -/
def checkNewWorker
    (config : WorkerSettings)
    (parts : WorkerParts) : Except String Unit :=
  if isBlank config.url then
    .error "create order timeout worker: RabbitMQ URL is required"
  else if
    config.connectTimeout ≤ 0 ∨ config.reconnectDelay ≤ 0 ∨
      config.outboxPollInterval ≤ 0 ∨
      config.outboxRetryDelay ≤ 0 ∨
      config.publishBatchSize ≤ 0 ∨
      config.consumerPrefetch ≤ 0
  then
    .error
      "create order timeout worker: durations and limits must be positive"
  else if parts.db = false then
    .error "create order timeout worker: database is required"
  else if parts.canceller = false then
    .error
      "create order timeout worker: order canceller is required"
  else if parts.logger = false then
    .error "create order timeout worker: logger is required"
  else
    .ok ()

/-
  A worker that NewWorker has returned. Its ladders are a
  copy in the order of their durations; sort.Slice may leave
  equal ones in any order.
-/
structure TimeoutWorker where
  config : WorkerSettings
  parts : WorkerParts
  ladders : List DelayLadder
  accepted : checkNewWorker config parts = .ok ()
  copied : ladders.Perm config.delayLadders
  sorted :
    ladders.Pairwise fun a b => ¬ b.duration < a.duration

def TimeoutWorker.topology
    (w : TimeoutWorker) : Topology :=
  if 0 < w.config.delayLadders.length then
    { nanosecondTopology with ladders := w.ladders }
  else
    nanosecondTopology

/- A worker is never left without ladders. -/
theorem TimeoutWorker.ladders_ne_nil
    (w : TimeoutWorker) :
    w.topology.ladders ≠ [] := by
  unfold topology
  split
  case isTrue hSome =>
    rw [← w.copied.length_eq] at hSome
    exact List.ne_nil_of_length_pos hSome
  case isFalse => decide

/- The other queues and keys are those of production. -/
theorem TimeoutWorker.topology_names
    (w : TimeoutWorker) :
    w.topology.cancelQueue ≠ "" ∧
      w.topology.failedRoutingKey ≠
        w.topology.cancelRoutingKey := by
  have hNames :
      productionTopology.cancelQueue ≠ "" ∧
        productionTopology.failedRoutingKey ≠
          productionTopology.cancelRoutingKey := by
    decide
  unfold topology
  split
  case isTrue => exact hNames
  case isFalse => exact hNames

------------------------------------------------------------
-- The Broker
------------------------------------------------------------

/- A queue has the name that it is declared with, or one that
   the broker makes up for an empty name. -/
inductive QueueRef
| named (name : String)
| generated (n : Nat)
deriving DecidableEq

/- The arguments of a queue, where they are given. -/
structure QueueTable where
  deadLetterExchange : Option String
  deadLetterRoutingKey : Option String
  messageTTL : Option Int
deriving DecidableEq

structure Binding where
  queue : QueueRef
  key : String
  exchange : String
deriving DecidableEq

/-
  What a broker knows, and the queue that an empty name
  stands for on the channel in use. Only declared queues are
  bound, and made-up names are not used twice.
-/
structure Broker where
  exchanges : String → Option String
  queues : QueueRef → Option QueueTable
  bindings : List Binding
  generated : Nat
  lastDeclared : Option QueueRef
  boundDeclared :
    ∀ binding ∈ bindings, (queues binding.queue).isSome
  generatedFree :
    ∀ n, generated ≤ n → queues (.generated n) = none

inductive ChannelCall
| openChannel
| exchangeDeclare (name kind : String)
| queueDeclare (name : String) (table : QueueTable)
| queueBind (queue key exchange : String)
deriving DecidableEq

namespace Broker

/- A broker on which nothing was declared. -/
def fresh : Broker where
  exchanges _ := none
  queues _ := none
  bindings := []
  generated := 0
  lastDeclared := none
  boundDeclared := by simp
  generatedFree _ _ := rfl

/- A new queue is stored with its arguments. -/
def storeQueue
    (b : Broker)
    (ref : QueueRef)
    (table : QueueTable)
    (generated : Nat)
    (hMore : b.generated ≤ generated)
    (hUsed : ∀ n, ref = .generated n → n < generated) :
    Broker :=
  { b with
    queues := Function.update b.queues ref (some table)
    generated := generated
    lastDeclared := some ref
    boundDeclared := by
      intro binding hMem
      by_cases hHere : binding.queue = ref
      · rw [hHere, Function.update_self]
        rfl
      · rw [Function.update_of_ne hHere]
        exact b.boundDeclared binding hMem
    generatedFree := by
      intro n hLater
      have hNe : QueueRef.generated n ≠ ref := fun hEq =>
        absurd (hUsed n hEq.symm) (Nat.not_lt.mpr hLater)
      rw [Function.update_of_ne hNe]
      exact b.generatedFree n (hMore.trans hLater) }

/- A second declaration has to have the same arguments. -/
def queueDeclare
    (b : Broker)
    (name : String)
    (table : QueueTable) : Except String Broker :=
  if name = "" then
    .ok
      (b.storeQueue (.generated b.generated) table
        (b.generated + 1) (Nat.le_succ _)
        (by rintro n ⟨rfl⟩; exact Nat.lt_succ_self _))
  else
    match b.queues (.named name) with
    | none =>
        .ok
          (b.storeQueue (.named name) table b.generated le_rfl
            (by rintro n ⟨⟩))
    | some declared =>
        if declared = table then
          .ok { b with lastDeclared := some (.named name) }
        else
          .error "PRECONDITION_FAILED - inequivalent arg"

def exchangeDeclare
    (b : Broker)
    (name kind : String) : Except String Broker :=
  match b.exchanges name with
  | none =>
      .ok
        { b with
          exchanges :=
            Function.update b.exchanges name (some kind) }
  | some declared =>
      if declared = kind then
        .ok b
      else
        .error "PRECONDITION_FAILED - inequivalent arg 'type'"

def queueBind
    (b : Broker)
    (queue key exchange : String) : Except String Broker :=
  match
    if queue = "" then b.lastDeclared
    else some (QueueRef.named queue)
  with
  | none => .error "NOT_FOUND - no previously declared queue"
  | some ref =>
      if hDeclared : (b.queues ref).isSome then
        if (b.exchanges exchange).isSome then
          .ok
            { b with
              bindings := ⟨ref, key, exchange⟩ :: b.bindings
              boundDeclared :=
                List.forall_mem_cons.mpr
                  ⟨hDeclared, b.boundDeclared⟩ }
        else
          .error "NOT_FOUND - no exchange"
      else
        .error "NOT_FOUND - no queue"

def answer
    (b : Broker) : ChannelCall → Except String Broker
| .openChannel => .ok { b with lastDeclared := none }
| .exchangeDeclare name kind => b.exchangeDeclare name kind
| .queueDeclare name table => b.queueDeclare name table
| .queueBind queue key exchange =>
    b.queueBind queue key exchange

/-
  One call of declareTopology. A broker may refuse a call
  for reasons of its own (permissions, limits, a connection
  that is gone); `refuses` tells which it does.
-/
def call
    (refuses : ChannelCall → Option String)
    (b : Broker)
    (context : String)
    (c : ChannelCall) : Except String Broker :=
  match refuses c with
  | some e => .error (context ++ ": " ++ e)
  | none =>
      match b.answer c with
      | .error e => .error (context ++ ": " ++ e)
      | .ok b' => .ok b'

------------------------------------------------------------
-- The Topology
------------------------------------------------------------

/- A queue is declared and bound at once. -/
def declareAndBind
    (refuses : ChannelCall → Option String)
    (exchange what name key : String)
    (table : QueueTable)
    (b : Broker) : Except String Broker := do
  let b ←
    b.call refuses ("declare order timeout " ++ what)
      (.queueDeclare name table)
  b.call refuses ("bind order timeout " ++ what)
    (.queueBind name key exchange)

/- The table of the arguments of a ladder. -/
def ladderTable
    (ladder : DelayLadder)
    (top : Topology) : QueueTable :=
  let args := buildLadderQueueArguments ladder top
  { deadLetterExchange := some args.deadLetterExchange
    deadLetterRoutingKey := some args.deadLetterRoutingKey
    messageTTL := some args.messageTTL }

/- The table of a queue that only dead-letters. -/
def deadLetterTable
    (top : Topology)
    (key : String) : QueueTable where
  deadLetterExchange := some top.exchange
  deadLetterRoutingKey := some key
  messageTTL := none

def declareLadders
    (refuses : ChannelCall → Option String)
    (top : Topology) :
    List DelayLadder → Broker → Except String Broker
| [], b => .ok b
| ladder :: ladders, b => do
    let b ←
      declareAndBind refuses top.exchange
        ("ladder queue " ++ ladder.queueName) ladder.queueName
        ladder.routingKey (ladderTable ladder top) b
    declareLadders refuses top ladders b

/- The ladders, or else the one delay queue of old. -/
def declareDelays
    (refuses : ChannelCall → Option String)
    (top : Topology)
    (b : Broker) : Except String Broker :=
  if top.ladders ≠ [] then
    declareLadders refuses top top.ladders b
  else if top.delayQueue ≠ "" then
    declareAndBind refuses top.exchange "delay queue"
      top.delayQueue top.delayRoutingKey
      (deadLetterTable top top.cancelRoutingKey) b
  else
    .ok b

def declareTopology
    (b : Broker)
    (refuses : ChannelCall → Option String)
    (top : Topology) : Except String Broker := do
  let b ←
    b.call refuses "open RabbitMQ topology channel"
      .openChannel
  let b ←
    b.call refuses "declare order timeout exchange"
      (.exchangeDeclare top.exchange "direct")
  let b ← declareDelays refuses top b
  let b ←
    declareAndBind refuses top.exchange "cancel queue"
      top.cancelQueue top.cancelRoutingKey
      (deadLetterTable top top.failedRoutingKey) b
  declareAndBind refuses top.exchange "failed queue"
    top.failedQueue top.failedRoutingKey ⟨none, none, none⟩ b

------------------------------------------------------------
-- Effects of the Calls
------------------------------------------------------------

/- A sequence succeeds when both of its parts do. -/
theorem ok_of_bind
    {α β : Type}
    {x : Except String α}
    {f : α → Except String β}
    {result : β}
    (hOk : (x >>= f) = .ok result) :
    ∃ a, x = .ok a ∧ f a = .ok result := by
  cases x with
  | error e => cases hOk
  | ok a => exact ⟨a, rfl, hOk⟩

theorem answer_of_call
    {refuses : ChannelCall → Option String}
    {b b' : Broker}
    {context : String}
    {c : ChannelCall}
    (hCall : b.call refuses context c = .ok b') :
    b.answer c = .ok b' := by
  unfold call at hCall
  split at hCall
  case h_1 => cases hCall
  case h_2 =>
    split at hCall
    case h_1 => cases hCall
    case h_2 hAnswer =>
      rw [hAnswer]
      exact hCall

/-
  What was declared on the way from one broker to another:
  its bindings are all that is new, and its queues have the
  arguments they were declared with. No queue is lost or
  changed.
-/
structure Declares
    (b b' : Broker)
    (entries : List (Binding × QueueTable)) : Prop where
  bindings :
    ∀ binding,
      binding ∈ b'.bindings ↔
        binding ∈ b.bindings ∨
          ∃ entry ∈ entries, entry.1 = binding
  kept :
    ∀ ref table, b.queues ref = some table →
      b'.queues ref = some table
  declared :
    ∀ entry ∈ entries,
      b'.queues entry.1.queue = some entry.2

theorem Declares.of_same
    {b b' : Broker}
    (hQueues : b'.queues = b.queues)
    (hBindings : b'.bindings = b.bindings) :
    b.Declares b' [] where
  bindings binding := by simp [hBindings]
  kept ref table hFind := by rw [hQueues, hFind]
  declared := by simp

theorem Declares.append
    {b b' b'' : Broker}
    {entries entries' : List (Binding × QueueTable)}
    (hFirst : b.Declares b' entries)
    (hSecond : b'.Declares b'' entries') :
    b.Declares b'' (entries ++ entries') where
  bindings binding := by
    rw [hSecond.bindings, hFirst.bindings, or_assoc]
    simp only [List.mem_append, or_and_right, exists_or]
  kept ref table hFind :=
    hSecond.kept ref table (hFirst.kept ref table hFind)
  declared entry hMem := by
    rcases List.mem_append.mp hMem with hFront | hBack
    · exact hSecond.kept _ _ (hFirst.declared entry hFront)
    · exact hSecond.declared entry hBack

/- After a declaration there is a queue with the arguments,
   and an empty name stands for it. -/
theorem queueDeclare_ok
    {b b' : Broker}
    {name : String}
    {table : QueueTable}
    (hOk : b.queueDeclare name table = .ok b') :
    ∃ ref,
      b'.lastDeclared = some ref ∧
        (name ≠ "" → ref = .named name) ∧
        b'.queues ref = some table ∧
        b.Declares b' [] := by
  have hStored :
      ∀ ref n hMore hUsed, b.queues ref = none →
        b' = b.storeQueue ref table n hMore hUsed →
          b'.lastDeclared = some ref ∧
            b'.queues ref = some table ∧
            b.Declares b' [] := by
    rintro ref n hMore hUsed hFree rfl
    refine ⟨rfl, Function.update_self .., ?_⟩
    refine { bindings := ?_, kept := ?_, declared := ?_ }
    · simp [storeQueue]
    · intro other table' hFind
      have hNe : other ≠ ref := by
        rintro rfl
        rw [hFree] at hFind
        cases hFind
      rw [← hFind]
      exact Function.update_of_ne hNe ..
    · simp
  unfold queueDeclare at hOk
  by_cases hName : name = ""
  · rw [if_pos hName] at hOk
    rcases hStored _ _ _ _
        (b.generatedFree _ le_rfl) (Except.ok.inj hOk).symm with
      ⟨hLast, hQueue, hDeclares⟩
    exact ⟨_, hLast, fun hNot => absurd hName hNot, hQueue,
      hDeclares⟩
  · rw [if_neg hName] at hOk
    refine ⟨.named name, ?_⟩
    split at hOk
    case h_1 hFree =>
      rcases hStored _ _ _ _ hFree (Except.ok.inj hOk).symm
        with ⟨hLast, hQueue, hDeclares⟩
      exact ⟨hLast, fun _ => rfl, hQueue, hDeclares⟩
    case h_2 declared hFound =>
      split at hOk
      case isFalse => cases hOk
      case isTrue hSame =>
        cases hOk
        rw [hSame] at hFound
        exact ⟨rfl, fun _ => rfl, hFound,
          .of_same rfl rfl⟩

theorem queueBind_ok
    {b b' : Broker}
    {queue key exchange : String}
    {ref : QueueRef}
    (hLast : b.lastDeclared = some ref)
    (hRef : queue ≠ "" → ref = .named queue)
    (hOk : b.queueBind queue key exchange = .ok b') :
    b'.queues = b.queues ∧
      b'.bindings = ⟨ref, key, exchange⟩ :: b.bindings := by
  have hTarget :
      (if queue = "" then b.lastDeclared
        else some (QueueRef.named queue)) = some ref := by
    split
    case isTrue => exact hLast
    case isFalse hName => rw [hRef hName]
  unfold queueBind at hOk
  rw [hTarget] at hOk
  simp only at hOk
  split at hOk
  case isFalse => cases hOk
  case isTrue =>
    split at hOk
    case isFalse => cases hOk
    case isTrue =>
      cases hOk
      exact ⟨rfl, rfl⟩

/- A queue that is declared and bound is one entry. -/
theorem declareAndBind_ok
    {refuses : ChannelCall → Option String}
    {exchange what name key : String}
    {table : QueueTable}
    {b b' : Broker}
    (hOk :
      declareAndBind refuses exchange what name key table b =
        .ok b') :
    ∃ ref,
      (name ≠ "" → ref = .named name) ∧
        b.Declares b' [(⟨ref, key, exchange⟩, table)] := by
  rcases ok_of_bind hOk with ⟨mid, hDeclare, hBind⟩
  rcases queueDeclare_ok (answer_of_call hDeclare) with
    ⟨ref, hLast, hRef, hQueue, hDeclares⟩
  rcases queueBind_ok hLast hRef (answer_of_call hBind) with
    ⟨hQueues, hBindings⟩
  refine ⟨ref, hRef,
    { bindings := ?_, kept := ?_, declared := ?_ }⟩
  · intro binding
    rw [hBindings, List.mem_cons, hDeclares.bindings]
    simp [or_comm, eq_comm]
  · intro other table' hFind
    rw [hQueues]
    exact hDeclares.kept other table' hFind
  · intro entry hMem
    rw [List.mem_singleton.mp hMem, hQueues]
    exact hQueue

------------------------------------------------------------
-- Effects of the Topology
------------------------------------------------------------

/- The declarations that delay messages, as keys with the
   arguments of the queues that are bound under them. -/
def delayDeclarations
    (top : Topology) : List (String × QueueTable) :=
  if top.ladders ≠ [] then
    top.ladders.map fun ladder =>
      (ladder.routingKey, ladderTable ladder top)
  else if top.delayQueue ≠ "" then
    [ (top.delayRoutingKey,
        deadLetterTable top top.cancelRoutingKey) ]
  else
    []

def declarations
    (top : Topology) : List (String × QueueTable) :=
  delayDeclarations top ++
    [ (top.cancelRoutingKey,
        deadLetterTable top top.failedRoutingKey),
      (top.failedRoutingKey, ⟨none, none, none⟩) ]

/- They are the keys of the bindings that the system uses. -/
theorem declarations_keys
    (top : Topology) :
    (declarations top).map Prod.fst =
      (OrderManagement.declareTopology top).map Prod.snd := by
  unfold declarations delayDeclarations
    OrderManagement.declareTopology
  split
  case isTrue => simp [Function.comp_def]
  case isFalse => split <;> rfl

/- An entry without the name of its queue. -/
def entryView
    (entry : Binding × QueueTable) :
    String × String × QueueTable :=
  (entry.1.key, entry.1.exchange, entry.2)

theorem declareLadders_ok
    {refuses : ChannelCall → Option String}
    {top : Topology}
    {ladders : List DelayLadder}
    {b b' : Broker}
    (hOk : declareLadders refuses top ladders b = .ok b') :
    ∃ entries,
      b.Declares b' entries ∧
        entries.map entryView =
          ladders.map fun ladder =>
            (ladder.routingKey, top.exchange,
              ladderTable ladder top) := by
  induction ladders generalizing b with
  | nil =>
      cases hOk
      exact ⟨[], .of_same rfl rfl, rfl⟩
  | cons ladder ladders ih =>
      rcases ok_of_bind hOk with ⟨mid, hHead, hTail⟩
      rcases declareAndBind_ok hHead with ⟨ref, _, hEntry⟩
      rcases ih hTail with ⟨entries, hDeclares, hView⟩
      refine ⟨_, hEntry.append hDeclares, ?_⟩
      rw [List.map_append, hView]
      rfl

/- An exchange adds no queue. -/
theorem exchangeDeclare_ok
    {b b' : Broker}
    {name kind : String}
    (hOk : b.exchangeDeclare name kind = .ok b') :
    b.Declares b' [] := by
  unfold exchangeDeclare at hOk
  split at hOk
  case h_1 =>
    cases hOk
    exact .of_same rfl rfl
  case h_2 =>
    split at hOk
    case isFalse => cases hOk
    case isTrue =>
      cases hOk
      exact .of_same rfl rfl

theorem declareDelays_ok
    {refuses : ChannelCall → Option String}
    {top : Topology}
    {b b' : Broker}
    (hOk : declareDelays refuses top b = .ok b') :
    ∃ entries,
      b.Declares b' entries ∧
        entries.map entryView =
          (delayDeclarations top).map fun d =>
            (d.1, top.exchange, d.2) := by
  unfold declareDelays at hOk
  unfold delayDeclarations
  by_cases hLadders : top.ladders ≠ []
  · rw [if_pos hLadders] at hOk ⊢
    rcases declareLadders_ok hOk with
      ⟨entries, hDeclares, hView⟩
    refine ⟨entries, hDeclares, ?_⟩
    rw [hView, List.map_map]
    rfl
  · rw [if_neg hLadders] at hOk ⊢
    by_cases hQueue : top.delayQueue ≠ ""
    · rw [if_pos hQueue] at hOk ⊢
      rcases declareAndBind_ok hOk with ⟨ref, _, hEntry⟩
      exact ⟨_, hEntry, rfl⟩
    · rw [if_neg hQueue] at hOk ⊢
      cases hOk
      exact ⟨[], .of_same rfl rfl, rfl⟩

/- All declarations are made, on the one exchange, and the
   cancel queue is bound under its own name. -/
theorem declares_of_declareTopology
    {refuses : ChannelCall → Option String}
    {top : Topology}
    {b b' : Broker}
    (hCancel : top.cancelQueue ≠ "")
    (hOk : b.declareTopology refuses top = .ok b') :
    ∃ entries,
      b.Declares b' entries ∧
        entries.map entryView =
          (declarations top).map (fun d =>
            (d.1, top.exchange, d.2)) ∧
        (⟨.named top.cancelQueue, top.cancelRoutingKey,
          top.exchange⟩ : Binding) ∈ b'.bindings := by
  rcases ok_of_bind hOk with ⟨opened, hOpen, hRest⟩
  rcases ok_of_bind hRest with ⟨started, hExchange, hRest⟩
  rcases ok_of_bind hRest with ⟨delayed, hDelay, hRest⟩
  rcases ok_of_bind hRest with ⟨cancelled, hCancelOk, hFailed⟩
  have hOpened : b.Declares opened [] := by
    have hAnswer := answer_of_call hOpen
    cases hAnswer
    exact .of_same rfl rfl
  have hStarted := exchangeDeclare_ok (answer_of_call hExchange)
  rcases declareDelays_ok hDelay with
    ⟨entries, hDeclares, hView⟩
  rcases declareAndBind_ok hCancelOk with
    ⟨cancelRef, hCancelRef, hCancelEntry⟩
  rcases declareAndBind_ok hFailed with
    ⟨failedRef, _, hFailedEntry⟩
  refine ⟨_, (((hOpened.append hStarted).append
    hDeclares).append hCancelEntry).append hFailedEntry, ?_, ?_⟩
  · unfold declarations
    rw [List.map_append, List.map_append, List.map_append,
      List.map_append, hView]
    simp [entryView]
  · rw [hFailedEntry.bindings, hCancelEntry.bindings,
      hCancelRef hCancel]
    simp

------------------------------------------------------------
-- Routing
------------------------------------------------------------

end Broker

/- The queue keeps a message for some time, and then passes
   it on under the key of the cancel queue. -/
def QueueTable.Delays
    (table : QueueTable)
    (top : Topology)
    (publishing : Publishing) : Prop :=
  (table.messageTTL.isSome = true ∨
      publishing.expiration ≠ "") ∧
    table.deadLetterExchange = some top.exchange ∧
    table.deadLetterRoutingKey = some top.cancelRoutingKey

namespace Broker

/- The key is bound to a queue that delays the message. -/
def Delays
    (b : Broker)
    (top : Topology)
    (publishing : Publishing)
    (routingKey : String) : Prop :=
  ∃ ref table,
    (⟨ref, routingKey, top.exchange⟩ : Binding) ∈ b.bindings ∧
      b.queues ref = some table ∧
      table.Delays top publishing

/- A message under the key reaches the cancel queue. -/
def Routable
    (b : Broker)
    (top : Topology)
    (publishing : Publishing)
    (routingKey : String) : Prop :=
  b.Delays top publishing routingKey ∧
    (⟨.named top.cancelQueue, top.cancelRoutingKey,
      top.exchange⟩ : Binding) ∈ b.bindings

/- Declarations add the keys of their delaying queues to the
   keys that were bound before, and take none away. -/
theorem Declares.delays_iff
    {b b' : Broker}
    {entries : List (Binding × QueueTable)}
    (hDeclares : b.Declares b' entries)
    (top : Topology)
    (publishing : Publishing)
    (routingKey : String) :
    b'.Delays top publishing routingKey ↔
      b.Delays top publishing routingKey ∨
        ∃ view ∈ entries.map entryView,
          view.1 = routingKey ∧ view.2.1 = top.exchange ∧
            view.2.2.Delays top publishing := by
  constructor
  · rintro ⟨ref, table, hBinding, hQueue, hTable⟩
    rcases (hDeclares.bindings _).mp hBinding with
      hOld | ⟨entry, hEntry, hHere⟩
    · rcases Option.isSome_iff_exists.mp
          (b.boundDeclared _ hOld) with ⟨old, hOldTable⟩
      have hSame := hDeclares.kept _ _ hOldTable
      rw [hQueue] at hSame
      cases hSame
      exact Or.inl ⟨ref, table, hOld, hOldTable, hTable⟩
    · refine Or.inr
        ⟨entryView entry, List.mem_map_of_mem hEntry, ?_⟩
      have hEntryTable := hDeclares.declared entry hEntry
      rw [hHere, hQueue] at hEntryTable
      cases hEntryTable
      unfold entryView
      rw [hHere]
      exact ⟨rfl, rfl, hTable⟩
  · rintro (⟨ref, table, hBinding, hQueue, hTable⟩ |
      ⟨view, hView, hKey, hExchange, hTable⟩)
    · exact ⟨ref, table,
        (hDeclares.bindings _).mpr (Or.inl hBinding),
        hDeclares.kept _ _ hQueue, hTable⟩
    · rcases List.mem_map.mp hView with ⟨entry, hEntry, rfl⟩
      refine ⟨entry.1.queue, entry.2, ?_,
        hDeclares.declared entry hEntry, hTable⟩
      refine (hDeclares.bindings _).mpr
        (Or.inr ⟨entry, hEntry, ?_⟩)
      rw [← hKey, ← hExchange]
      rfl

/- After its declarations a worker delays what was delayed
   before, and what has the key of one of its ladders. -/
theorem delays_iff_of_declareTopology
    {w : TimeoutWorker}
    {refuses : ChannelCall → Option String}
    {b b' : Broker}
    (hDeclared :
      b.declareTopology refuses w.topology = .ok b')
    (publishing : Publishing)
    (routingKey : String) :
    b'.Delays w.topology publishing routingKey ↔
      b.Delays w.topology publishing routingKey ∨
        ∃ ladder ∈ w.topology.ladders,
          ladder.routingKey = routingKey := by
  have hNames := w.topology_names
  rcases declares_of_declareTopology hNames.1 hDeclared with
    ⟨entries, hDeclares, hView, _⟩
  rw [hDeclares.delays_iff, hView]
  refine or_congr_right ?_
  unfold declarations delayDeclarations
  rw [if_pos w.ladders_ne_nil]
  constructor
  · rintro ⟨view, hMem, hKey, _, hTable⟩
    rcases List.mem_map.mp hMem with ⟨d, hDecl, rfl⟩
    rcases List.mem_append.mp hDecl with hLadder | hOther
    · rcases List.mem_map.mp hLadder with
        ⟨ladder, hConfigured, rfl⟩
      exact ⟨ladder, hConfigured, hKey⟩
    · -- the cancel queue and the failed queue delay nothing
      rcases List.mem_pair.mp hOther with rfl | rfl
      · exact absurd (Option.some.inj hTable.2.2) hNames.2
      · cases hTable.2.1
  · rintro ⟨ladder, hLadder, hKey⟩
    refine ⟨_, List.mem_map_of_mem
      (List.mem_append_left _ (List.mem_map_of_mem hLadder)),
      hKey, rfl, Or.inl rfl, rfl, rfl⟩

/- Whatever it delays reaches the cancel queue. -/
theorem routable_iff
    {w : TimeoutWorker}
    {refuses : ChannelCall → Option String}
    {b b' : Broker}
    {publishing : Publishing}
    {routingKey : String}
    (hDeclared :
      b.declareTopology refuses w.topology = .ok b') :
    b'.Routable w.topology publishing routingKey ↔
      b.Delays w.topology publishing routingKey ∨
        ∃ ladder ∈ w.topology.ladders,
          ladder.routingKey = routingKey := by
  rcases declares_of_declareTopology w.topology_names.1
      hDeclared with ⟨_, _, _, hBound⟩
  unfold Routable
  rw [delays_iff_of_declareTopology hDeclared,
    and_iff_left hBound]

end Broker

/-
  Exactly when a published message is routable: the matching
  ladder has a routing key, or the key of the old delay
  queue, which is taken instead, happens to be bound.
-/
theorem published_routable_iff
    {w : TimeoutWorker}
    {refuses : ChannelCall → Option String}
    {b b' : Broker}
    {now : Time}
    {event : TimeoutEvent}
    {publishing : Publishing}
    {routingKey : String}
    (hDeclared :
      b.declareTopology refuses w.topology = .ok b')
    (hBuilt :
      buildOrderTimeoutPublishing now event w.topology =
        .ok (publishing, routingKey)) :
    b'.Routable w.topology publishing routingKey ↔
      (matchDelayLadder w.topology.ladders
          (durationBetween event.timeoutAt now)).routingKey ≠
          "" ∨
        (∃ ladder ∈ w.topology.ladders,
          ladder.routingKey = w.topology.delayRoutingKey) ∨
        b.Delays w.topology publishing
          w.topology.delayRoutingKey := by
  have hKey :=
    routingKey_eq_ite_of_buildOrderTimeoutPublishing
      w.ladders_ne_nil hBuilt
  rw [Broker.routable_iff hDeclared]
  by_cases hEmpty :
      (matchDelayLadder w.topology.ladders
        (durationBetween event.timeoutAt now)).routingKey = ""
  · rw [if_pos hEmpty] at hKey
    rw [hKey, or_comm]
    simp [hEmpty]
  · rw [if_neg hEmpty] at hKey
    refine iff_of_true (Or.inr ⟨_, ?_, hKey.symm⟩)
      (Or.inl hEmpty)
    exact matchDelayLadder_mem w.ladders_ne_nil _

/- With a routing key for every ladder nothing is lost. -/
theorem published_routable_of_named
    {w : TimeoutWorker}
    {refuses : ChannelCall → Option String}
    {b b' : Broker}
    {now : Time}
    {event : TimeoutEvent}
    {publishing : Publishing}
    {routingKey : String}
    (hNamed :
      ∀ ladder ∈ w.topology.ladders, ladder.routingKey ≠ "")
    (hDeclared :
      b.declareTopology refuses w.topology = .ok b')
    (hBuilt :
      buildOrderTimeoutPublishing now event w.topology =
        .ok (publishing, routingKey)) :
    b'.Routable w.topology publishing routingKey := by
  rw [Broker.routable_iff hDeclared]
  refine Or.inr
    ⟨_, matchDelayLadder_mem w.ladders_ne_nil
      (durationBetween event.timeoutAt now), ?_⟩
  exact (routingKey_eq_of_buildOrderTimeoutPublishing
    w.ladders_ne_nil hNamed hBuilt).symm

------------------------------------------------------------
-- A Ladder Without a Key
------------------------------------------------------------

/- A minute under no key, and an hour under one. -/
def unnamedLadders : List DelayLadder :=
  [ ⟨minute, "", "order.timeout.delay.1m"⟩,
    ⟨hour, "delay.1h", "order.timeout.delay.1h"⟩ ]

def unnamedWorker : TimeoutWorker where
  config := {
    url := "amqp://127.0.0.1:5672/"
    connectTimeout := 5000 * millisecond
    reconnectDelay := 5000 * millisecond
    outboxPollInterval := 1000 * millisecond
    outboxRetryDelay := 5000 * millisecond
    publishBatchSize := 100
    consumerPrefetch := 10
    delayLadders := unnamedLadders }
  parts := ⟨true, true, true⟩
  ladders := unnamedLadders
  accepted := by decide +kernel
  copied := List.Perm.refl _
  sorted := by decide

/- An event with the time that is left of its order. -/
def eventDue
    (timeoutAt : Time) : TimeoutEvent where
  eventID := "E7"
  orderID := 7
  userID := 3
  timeoutAt := timeoutAt

/- Its message, published at the zero instant. -/
def publishingDue
    (timeoutAt : Time) : Publishing where
  messageID := "E7"
  timestamp := 0
  body := marshalEvent (eventDue timeoutAt)
  expiration := ""

/- A new broker that refuses nothing takes the topology. -/
theorem unnamedWorker_declares :
    ∃ b,
      Broker.fresh.declareTopology (fun _ => none)
        unnamedWorker.topology = .ok b := by
  have hOk :
      (Broker.fresh.declareTopology (fun _ => none)
        unnamedWorker.topology).isOk = true := by
    decide +kernel
  cases hDeclared :
      Broker.fresh.declareTopology (fun _ => none)
        unnamedWorker.topology with
  | error e =>
      rw [hDeclared] at hOk
      cases hOk
  | ok b => exact ⟨b, rfl⟩

theorem unnamedWorker_builds :
    buildOrderTimeoutPublishing 0 (eventDue hour)
          unnamedWorker.topology =
        .ok (publishingDue hour, "delay.1h") ∧
      buildOrderTimeoutPublishing 0
          (eventDue (30000 * millisecond))
          unnamedWorker.topology =
        .ok (publishingDue (30000 * millisecond), "delay") := by
  decide +kernel

/- Neither a ladder nor an earlier declaration binds the key
   that the message of a minute is published under. -/
theorem unnamedWorker_unbound :
    ¬ ((matchDelayLadder unnamedWorker.topology.ladders
            (durationBetween
              (eventDue (30000 * millisecond)).timeoutAt
              0)).routingKey ≠ "" ∨
        (∃ ladder ∈ unnamedWorker.topology.ladders,
          ladder.routingKey =
            unnamedWorker.topology.delayRoutingKey) ∨
        Broker.fresh.Delays unnamedWorker.topology
          (publishingDue (30000 * millisecond))
          unnamedWorker.topology.delayRoutingKey) := by
  rintro (hKey | hKey | ⟨ref, table, hBinding, _⟩)
  · revert hKey
    decide +kernel
  · revert hKey
    decide +kernel
  · cases hBinding

/- With an hour left the message is routable, with half a
   minute left it is not. -/
theorem published_routable_unnamed :
    ∃ b,
      Broker.fresh.declareTopology (fun _ => none)
          unnamedWorker.topology = .ok b ∧
        b.Routable unnamedWorker.topology
          (publishingDue hour) "delay.1h" ∧
        ¬ b.Routable unnamedWorker.topology
          (publishingDue (30000 * millisecond)) "delay" := by
  rcases unnamedWorker_declares with ⟨b, hDeclared⟩
  rcases unnamedWorker_builds with ⟨hHour, hMinute⟩
  refine ⟨b, hDeclared, ?_, ?_⟩
  · exact (published_routable_iff hDeclared hHour).mpr
      (Or.inl (by decide +kernel))
  · rw [published_routable_iff hDeclared hMinute]
    exact unnamedWorker_unbound

theorem not_published_routable :
    ¬ ∀ (w : TimeoutWorker)
        (refuses : ChannelCall → Option String)
        (b b' : Broker)
        (now : Time)
        (event : TimeoutEvent)
        (publishing : Publishing)
        (routingKey : String),
      b.declareTopology refuses w.topology = .ok b' →
        buildOrderTimeoutPublishing now event w.topology =
            .ok (publishing, routingKey) →
          b'.Routable w.topology publishing routingKey := by
  intro hAll
  rcases unnamedWorker_declares with ⟨b, hDeclared⟩
  have hBuilt := unnamedWorker_builds.2
  have hRoutable := hAll _ _ _ _ _ _ _ _ hDeclared hBuilt
  rcases (Broker.routable_iff hDeclared).mp hRoutable with
    hBefore | hLadder
  · exact unnamedWorker_unbound (Or.inr (Or.inr hBefore))
  · exact unnamedWorker_unbound (Or.inr (Or.inl hLadder))

end OrderManagement
