import OrderManagement.Library.Transition
import OrderManagement.Ordertimeout.Worker

/-
  The way of one message through the queues. The consumer
  counts the deaths that the broker has written into the
  headers, but a requeue is no death: a message whose
  cancellation always fails is dead-lettered at its first
  delivery, or it is requeued for ever.

  Main declarations:
    * `recordDeath`
    * `Passage` and `Passage.Step`
    * `requeues_bounded_iff`
    * `poison_unbounded`
-/

namespace OrderManagement

------------------------------------------------------------
-- The Broker
------------------------------------------------------------

/- An entry of x-death for this queue and reason. -/
def isDeath
    (queue reason : String) : Field → Bool
| .table fields =>
    match fields.lookup "queue", fields.lookup "reason" with
    | some (.text q), some (.text r) =>
        q == queue && r == reason
    | _, _ => false
| _ => false

/- A classic queue counts a death in the entry of its queue
   and reason, which it puts first. -/
def recordDeath
    (queue reason : String)
    (headers : Option Headers) : Option Headers :=
  let headers := headers.getD []
  let deaths :=
    match headers.lookup "x-death" with
    | some (.list deaths) => deaths
    | _ => []
  let count :=
    ((deaths.find? (isDeath queue reason)).map deathsOf).getD 0
  let entry :=
    Field.table
      [ ("count", .int64 (count + 1)),
        ("reason", .text reason),
        ("queue", .text queue) ]
  let others := deaths.filter fun d => !isDeath queue reason d
  some
    (("x-death", .list (entry :: others)) ::
      headers.filter fun header => header.1 ≠ "x-death")

------------------------------------------------------------
-- The Way of a Message
------------------------------------------------------------

inductive Place
| delayed (queue : String)
| ready
| unacked
| failed
| done
deriving DecidableEq

structure Passage where
  place : Place
  headers : Option Headers

/- What happens to the message in a step. -/
inductive Passing
| expire
| deliver
| settle (cancelled : Except Err Outcome) (verdict : Verdict)
| connectionLost

/- A requeue, by the consumer or by the broker when the
   connection is lost, leaves the headers as they are. -/
inductive Passage.Step
    (body : MessageBody) : Passage → Passing → Passage → Prop
| expire (queue : String) (headers : Option Headers) :
    Passage.Step body ⟨.delayed queue, headers⟩ .expire
      ⟨.ready, recordDeath queue "expired" headers⟩
| deliver (headers : Option Headers) :
    Passage.Step body ⟨.ready, headers⟩ .deliver
      ⟨.unacked, headers⟩
| ack
    {headers : Option Headers}
    {cancelled : Except Err Outcome}
    (hVerdict :
      settleDelivery body headers cancelled = .ack) :
    Passage.Step body ⟨.unacked, headers⟩
      (.settle cancelled .ack) ⟨.done, headers⟩
| requeue
    {headers : Option Headers}
    {cancelled : Except Err Outcome}
    (hVerdict :
      settleDelivery body headers cancelled = .requeue) :
    Passage.Step body ⟨.unacked, headers⟩
      (.settle cancelled .requeue) ⟨.ready, headers⟩
| reject
    {headers : Option Headers}
    {cancelled : Except Err Outcome}
    (hVerdict :
      settleDelivery body headers cancelled = .reject) :
    Passage.Step body ⟨.unacked, headers⟩
      (.settle cancelled .reject)
      ⟨.failed,
        recordDeath productionTopology.cancelQueue "rejected"
          headers⟩
| connectionLost (headers : Option Headers) :
    Passage.Step body ⟨.unacked, headers⟩ .connectionLost
      ⟨.ready, headers⟩

/- No CancelExpiredOrder call has succeeded. -/
def Passing.fails : Passing → Bool
| .settle (.ok _) _ => false
| _ => true

def Passing.isRequeue : Passing → Bool
| .settle _ .requeue => true
| _ => false

def requeues
    (ls : List Passing) : Nat :=
  ls.countP Passing.isRequeue

------------------------------------------------------------
-- Requeues of a Poison Message
------------------------------------------------------------

/- A requeue brings the message back as it was. -/
theorem Passage.requeued
    {body : MessageBody}
    {event : TimeoutEvent}
    {headers : Option Headers}
    (hBody : decodeEvent body = .ok event)
    (hFew :
      extractDeathCount headers < defaultMaxCancelRetries)
    (e : Err)
    (n : Nat) :
    ∃ ls,
      Transition.Run (Passage.Step body) ⟨.ready, headers⟩ ls
          ⟨.ready, headers⟩ ∧
        (∀ l ∈ ls, l.fails = true) ∧
        requeues ls = n := by
  induction n with
  | zero => exact ⟨[], Transition.Run.refl _, by simp, rfl⟩
  | succ n ih =>
      rcases ih with ⟨ls, hRun, hFails, hCount⟩
      have hVerdict :
          settleDelivery body headers (.error e) = .requeue := by
        unfold settleDelivery
        rw [hBody]
        exact if_neg (not_le.mpr hFew)
      refine ⟨_,
        (hRun.snoc (Passage.Step.deliver headers)).snoc
          (Passage.Step.requeue hVerdict), ?_, ?_⟩
      · intro l hMem
        simp only [List.mem_append, List.mem_singleton] at hMem
        rcases hMem with (hOld | rfl) | rfl
        · exact hFails l hOld
        · rfl
        · rfl
      · unfold requeues at hCount ⊢
        rw [List.countP_append, List.countP_append, hCount]
        rfl

/- The consumer gives the message up as soon as it fails. -/
theorem Passage.never_requeued
    {body : MessageBody}
    {headers : Option Headers}
    {t : Passage}
    {ls : List Passing}
    (hMany :
      defaultMaxCancelRetries ≤ extractDeathCount headers)
    (hRun :
      Transition.Run (Passage.Step body) ⟨.ready, headers⟩ ls
        t) :
    requeues ls = 0 := by
  have hBoth :
      requeues ls = 0 ∧
        (t.place = .failed ∨ t.place = .done ∨
          (t.place = .ready ∨ t.place = .unacked) ∧
            t.headers = headers) := by
    refine hRun.history
      (P := fun ls t =>
        requeues ls = 0 ∧
          (t.place = .failed ∨ t.place = .done ∨
            (t.place = .ready ∨ t.place = .unacked) ∧
              t.headers = headers)) ?_ ?_
    · exact ⟨rfl, Or.inr (Or.inr ⟨Or.inl rfl, rfl⟩)⟩
    · intro ls t l u _ ⟨hNone, hPlace⟩ hStep
      have hKeep :
          l.isRequeue = false → requeues (ls ++ [l]) = 0 := by
        intro hOther
        unfold requeues at hNone ⊢
        rw [List.countP_append, hNone]
        simp [hOther]
      cases hStep with
      | expire =>
          rcases hPlace with hPlace | hPlace |
            ⟨hPlace | hPlace, _⟩ <;> cases hPlace
      | deliver =>
          refine ⟨hKeep rfl, Or.inr (Or.inr ⟨Or.inr rfl, ?_⟩)⟩
          rcases hPlace with hPlace | hPlace | ⟨_, hSame⟩
          · cases hPlace
          · cases hPlace
          · exact hSame
      | connectionLost =>
          refine ⟨hKeep rfl, Or.inr (Or.inr ⟨Or.inl rfl, ?_⟩)⟩
          rcases hPlace with hPlace | hPlace | ⟨_, hSame⟩
          · cases hPlace
          · cases hPlace
          · exact hSame
      | ack => exact ⟨hKeep rfl, Or.inr (Or.inl rfl)⟩
      | reject => exact ⟨hKeep rfl, Or.inl rfl⟩
      | requeue hVerdict =>
          rcases hPlace with hPlace | hPlace | ⟨_, hSame⟩
          · cases hPlace
          · cases hPlace
          · -- the death count has been too high all along
            dsimp only at hSame
            unfold settleDelivery at hVerdict
            rw [hSame] at hVerdict
            split at hVerdict
            · cases hVerdict
            · split at hVerdict
              · cases hVerdict
              · rw [if_pos hMany] at hVerdict
                cases hVerdict
  exact hBoth.1

/-
  A well-formed message that arrives in the cancel queue and
  whose cancellation always fails: in every run the consumer
  requeues it at most three times exactly if its headers
  count three deaths already.
-/
theorem requeues_bounded_iff
    {body : MessageBody}
    {event : TimeoutEvent}
    (hBody : decodeEvent body = .ok event)
    (headers : Option Headers) :
    (∀ ls t,
        Transition.Run (Passage.Step body) ⟨.ready, headers⟩ ls
          t →
        (∀ l ∈ ls, l.fails = true) →
          (requeues ls : Int) ≤ defaultMaxCancelRetries) ↔
      defaultMaxCancelRetries ≤ extractDeathCount headers := by
  constructor
  · intro hBounded
    by_contra hFew
    rcases Passage.requeued hBody (not_le.mp hFew) .database 4
      with ⟨ls, hRun, hFails, hCount⟩
    have hFour := hBounded ls _ hRun hFails
    rw [hCount] at hFour
    exact absurd hFour (by decide)
  · intro hMany ls t hRun _
    rw [Passage.never_requeued hMany hRun]
    decide

/- An event of the worker, three of whose deaths are known. -/
def poisonEvent : TimeoutEvent where
  eventID := "E7"
  orderID := 7
  userID := 3
  timeoutAt := 1800000

theorem poisonEvent_decoded :
    decodeEvent (marshalEvent poisonEvent) =
      .ok poisonEvent := rfl

theorem requeues_bounded_iff_sample :
    defaultMaxCancelRetries ≤
        extractDeathCount (some [("retry_count", .int 3)]) ∧
      ∀ ls t,
        Transition.Run
            (Passage.Step (marshalEvent poisonEvent))
            ⟨.ready, some [("retry_count", .int 3)]⟩ ls t →
          (∀ l ∈ ls, l.fails = true) →
            (requeues ls : Int) ≤ defaultMaxCancelRetries := by
  have hMany :
      defaultMaxCancelRetries ≤
        extractDeathCount
          (some [("retry_count", .int 3)]) := by
    decide
  exact ⟨hMany,
    (requeues_bounded_iff poisonEvent_decoded _).mpr hMany⟩

/- A message that the worker has published expires once, and
   is then requeued more often than any bound. -/
theorem poison_unbounded :
    decodeEvent (marshalEvent poisonEvent) = .ok poisonEvent ∧
      ∀ n,
        ∃ ls t,
          Transition.Run
              (Passage.Step (marshalEvent poisonEvent))
              ⟨.delayed "order.timeout.delay.30m", none⟩ ls t ∧
            (∀ l ∈ ls, l.fails = true) ∧
            requeues ls = n := by
  refine ⟨rfl, fun n => ?_⟩
  have hExpired :
      Passage.Step (marshalEvent poisonEvent)
        ⟨.delayed "order.timeout.delay.30m", none⟩ .expire
        ⟨.ready, recordDeath "order.timeout.delay.30m"
          "expired" none⟩ :=
    .expire _ none
  have hFew :
      extractDeathCount
          (recordDeath "order.timeout.delay.30m" "expired"
            none) < defaultMaxCancelRetries := by
    decide
  rcases Passage.requeued poisonEvent_decoded hFew .database n
    with ⟨ls, hRun, hFails, hCount⟩
  refine ⟨_, _, (Transition.Run.single hExpired).append hRun,
    ?_, ?_⟩
  · intro l hMem
    rcases List.mem_cons.mp hMem with rfl | hMem
    · rfl
    · exact hFails l hMem
  · unfold requeues at hCount ⊢
    rw [List.countP_append, hCount]
    exact Nat.zero_add n

end OrderManagement
