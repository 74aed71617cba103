import OrderManagement.System.Serial
import OrderManagement.System.Shop

/-
  Schedules of the shop that can be computed: a move names
  the call or the command that takes its next step. What a
  schedule plays is a run of the shop.

  Main declarations:
    * `Desk` and `Desk.shop`
    * `Move`, `Desk.move`, and `Desk.play`
    * `Desk.run_of_playBy` and `Desk.run_of_play`
-/

namespace OrderManagement

variable [Deployment]

------------------------------------------------------------
-- Desks
------------------------------------------------------------

/- A shop whose work in progress stands in a row. -/
structure Desk where
  db : DB
  calls : List Call
  redis : Redis
  followUps : List FollowUp
  resyncs : List Resync
  issued : List Int

def Desk.shop
    (d : Desk) : Shop where
  core := ⟨d.db, d.calls⟩
  redis := d.redis
  followUps := d.followUps
  resyncs := d.resyncs
  issued := d.issued

omit [Deployment] in
/- An entry of a list, and the entries besides it. -/
def pick
    {α : Type}
    (l : List α)
    (n : Nat) : Option (α × List α) :=
  match l[n]? with
  | none => none
  | some a => some (a, l.eraseIdx n)

omit [Deployment] in
theorem coe_of_pick
    {α : Type}
    {l rest : List α}
    {n : Nat}
    {a : α}
    (hPick : pick l n = some (a, rest)) :
    (l : Multiset α) = a ::ₘ (rest : Multiset α) := by
  unfold pick at hPick
  cases hGet : l[n]? with
  | none =>
      rw [hGet] at hPick
      cases hPick
  | some b =>
      rw [hGet] at hPick
      cases hPick
      rcases List.getElem?_eq_some_iff.mp hGet with
        ⟨hLength, rfl⟩
      rw [Multiset.cons_coe, Multiset.coe_eq_coe]
      exact (List.getElem_cons_eraseIdx_perm hLength).symm

omit [Deployment] in
theorem length_of_pick
    {α : Type}
    {l rest : List α}
    {n : Nat}
    {a : α}
    (hPick : pick l n = some (a, rest)) :
    l.length = rest.length + 1 := by
  have hCard := congrArg Multiset.card (coe_of_pick hPick)
  rw [Multiset.card_cons] at hCard
  exact hCard

omit [Deployment] in
/- What is put back stands where it was taken from. -/
theorem coe_put_back
    {α : Type}
    (l l' : List α)
    (n : Nat) :
    ((l.take n ++ l' ++ l.drop n : List α) : Multiset α) =
      ((l' ++ l : List α) : Multiset α) := by
  rw [Multiset.coe_eq_coe]
  have hFront : (l.take n ++ l').Perm (l' ++ l.take n) :=
    List.perm_append_comm
  have hSwap := hFront.append_right (l.drop n)
  rwa [List.append_assoc l', List.take_append_drop] at hSwap

omit [Deployment] in
theorem coe_append_comm
    {α : Type}
    (l l' : List α) :
    ((l ++ l' : List α) : Multiset α) =
      (l' : Multiset α) + (l : Multiset α) := by
  rw [← Multiset.coe_add, Multiset.add_comm]

instance
    (request : Request) :
    Decidable request.Bound :=
  match request with
  | .createOrder _ _ _ =>
      inferInstanceAs (Decidable (_ ∧ _ ∧ _ ∧ _))
  | .createProduct _ _ _ _ | .onSaleProduct _
  | .offSaleProduct _ | .initInventory _ _
  | .addInventory _ _ | .payOrder _ _ | .finishOrder _ _
  | .cancelOrder _ _ | .cancelExpiredOrder _ _ =>
      inferInstanceAs (Decidable True)

------------------------------------------------------------
-- Moves
------------------------------------------------------------

inductive Move
| arrive (request : Request) (delivery : Delivery)
| advance (n : Nat) (now nextAttemptAt : Time)
| lose (n : Nat) (e : Err)
| followUp (n : Nat) (delivered : Bool)
| listForRebuild
| listForReconcile
| compare (n : Nat)
| write (n : Nat) (delivered : Bool)
| resyncDone (n : Nat)
| evict (productID : Int)

/- The next step of a call: its event, the database, and
   what remains of the call. -/
def Call.advance
    (c : Call)
    (db : DB)
    (others : List Call)
    (now nextAttemptAt : Time) :
    Option (Option Event × DB × List Call) :=
  match c.stage with
  | .arrived =>
      match c.request.rejection c.preDeduct with
      | some e =>
          some
            (some {
              request := c.request
              preDeduct := c.preDeduct
              response := .error e
              executed := false
              before := db
              after := db }, db, [])
      | none =>
          match c.request.slot with
          | none =>
              some (none, db,
                [⟨c.request, c.preDeduct, .viewed false db⟩])
          | some slot =>
              if ∀ other ∈ others,
                  other.lockedSlot ≠ some slot then
                some (none, db,
                  [⟨c.request, c.preDeduct,
                    .keyed (db.orderIdempotencyKeys.find?
                      slot).isNone⟩])
              else
                none
  | .keyed acquired =>
      some (none, db,
        [⟨c.request, c.preDeduct, .viewed acquired db⟩])
  | .viewed _ view =>
      let result := c.request.run view now nextAttemptAt db
      some
        (some {
          request := c.request
          preDeduct := c.preDeduct
          response := result.1
          executed := true
          before := db
          after := result.2 }, result.2, [])

theorem Call.step_of_advance
    {c : Call}
    {db db' : DB}
    {others calls : List Call}
    {now nextAttemptAt : Time}
    {event : Option Event}
    (hAdvance :
      c.advance db others now nextAttemptAt =
        some (event, db', calls)) :
    OrderManagement.Step ⟨db, c ::ₘ (others : Multiset Call)⟩
        event ⟨db', ((calls ++ others : List Call) :
          Multiset Call)⟩ ∧
      calls.length ≤ 1 := by
  rcases c with ⟨request, preDeduct, stage⟩
  unfold Call.advance at hAdvance
  cases stage with
  | arrived =>
      dsimp only at hAdvance
      cases hRejection : request.rejection preDeduct with
      | some e =>
          rw [hRejection] at hAdvance
          cases hAdvance
          exact ⟨.reject hRejection, by simp⟩
      | none =>
          rw [hRejection] at hAdvance
          cases hSlot : request.slot with
          | none =>
              rw [hSlot] at hAdvance
              cases hAdvance
              exact ⟨.openView hSlot, by simp⟩
          | some slot =>
              rw [hSlot] at hAdvance
              dsimp only at hAdvance
              split at hAdvance
              case isTrue hUnlocked =>
                cases hAdvance
                exact ⟨.insertKey hSlot hRejection hUnlocked,
                  by simp⟩
              case isFalse => cases hAdvance
  | keyed acquired =>
      cases hAdvance
      exact ⟨.openKeyedView, by simp⟩
  | viewed acquired view =>
      cases hAdvance
      exact ⟨.finish rfl, by simp⟩

namespace Desk

/- The action of a move and the desk that it leaves. -/
def move
    (d : Desk) : Move → Option (Action × Desk)
| .arrive request delivery =>
    if request.Bound ∧
        ∀ id ∈ request.newOrderID.toList, id ∉ d.issued then
      some (.arrive request delivery, { d with
        calls :=
          d.calls ++
            [⟨request, (request.preDeduct delivery d.redis).1,
              .arrived⟩]
        redis := (request.preDeduct delivery d.redis).2
        issued := request.newOrderID.toList ++ d.issued })
    else
      none
| .advance n now nextAttemptAt => do
    let (c, others) ← pick d.calls n
    let (event, db, calls) ←
      c.advance d.db others now nextAttemptAt
    return (.core event, { d with
      db := db
      calls := others.take n ++ calls ++ others.drop n
      followUps :=
        d.followUps ++ (event.bind Event.followUp).toList })
| .lose n e => do
    let (c, others) ← pick d.calls n
    let event : Event := {
      request := c.request
      preDeduct := c.preDeduct
      response := .error e
      executed := false
      before := d.db
      after := d.db }
    return (.core (some event), { d with
      calls := others
      followUps := d.followUps ++ event.followUp.toList })
| .followUp n delivered => do
    let (command, rest) ← pick d.followUps n
    return (.followUp command delivered, { d with
      redis := if delivered then command.run d.redis else d.redis
      followUps := rest })
| .listForRebuild =>
    some (.listForRebuild, { d with
      resyncs := .writing (rebuildWrites d.db) :: d.resyncs })
| .listForReconcile =>
    some (.listForReconcile, { d with
      resyncs := .listed (reconcileRows d.db) :: d.resyncs })
| .compare n =>
    match pick d.resyncs n with
    | some (.listed rows, rest) =>
        some (.compare, { d with
          resyncs :=
            .writing (reconcileItems d.redis rows) :: rest })
    | _ => none
| .write n delivered =>
    match pick d.resyncs n with
    | some (.writing ((productID, quantity) :: writes), rest) =>
        some (.write productID quantity delivered, { d with
          redis :=
            if delivered then
              InventoryStockGuard.setInventoryStock d.redis
                productID quantity
            else
              d.redis
          resyncs := .writing writes :: rest })
    | _ => none
| .resyncDone n =>
    match pick d.resyncs n with
    | some (.writing [], rest) =>
        some (.resyncDone, { d with resyncs := rest })
    | _ => none
| .evict productID =>
    some (.evict productID, { d with
      redis := { d.redis with
        available := fun p =>
          if p = productID then none
          else d.redis.available p } })

/- One move after another, as a function plays them. -/
def playBy
    (next : Desk → Move → Option (Action × Desk))
    (d : Desk) : List Move → Option (List Action × Desk)
| [] => some ([], d)
| m :: ms => do
    let (action, d') ← next d m
    let (actions, d'') ← d'.playBy next ms
    return (action :: actions, d'')

def play
    (d : Desk)
    (ms : List Move) : Option (List Action × Desk) :=
  d.playBy move ms

------------------------------------------------------------
-- Schedules Are Runs
------------------------------------------------------------

theorem step_of_move
    {d d' : Desk}
    {m : Move}
    {action : Action}
    (hMove : d.move m = some (action, d')) :
    Shop.Step d.shop action d'.shop := by
  unfold move at hMove
  cases m with
  | arrive request delivery =>
      dsimp only at hMove
      split at hMove
      case isFalse => cases hMove
      case isTrue hAdmitted =>
        cases hMove
        unfold shop
        dsimp only
        rw [coe_append_comm]
        apply Shop.Step.arrive d.shop request delivery
          hAdmitted.1
        intro id hID
        exact hAdmitted.2 id (by rw [hID]; simp)
  | advance n now nextAttemptAt =>
      rcases Option.bind_eq_some_iff.mp hMove with
        ⟨⟨c, others⟩, hPick, hRest⟩
      rcases Option.bind_eq_some_iff.mp hRest with
        ⟨⟨event, db, calls⟩, hAdvance, hMoved⟩
      cases hMoved
      rcases Call.step_of_advance hAdvance with
        ⟨hStep, hLength⟩
      rw [← coe_of_pick hPick] at hStep
      unfold shop
      dsimp only
      rw [coe_put_back, coe_append_comm d.followUps]
      refine Shop.Step.core (s := d.shop) hStep ?_
      change (calls ++ others).length ≤ d.calls.length
      rw [List.length_append, length_of_pick hPick]
      omega
  | lose n e =>
      rcases Option.bind_eq_some_iff.mp hMove with
        ⟨⟨c, others⟩, hPick, hMoved⟩
      cases hMoved
      have hStep :
          OrderManagement.Step
            ⟨d.db, c ::ₘ (others : Multiset Call)⟩ _
            ⟨d.db, others⟩ :=
        .fail c e
      rw [← coe_of_pick hPick] at hStep
      unfold shop
      dsimp only
      rw [coe_append_comm d.followUps]
      refine Shop.Step.core (s := d.shop) hStep ?_
      change others.length ≤ d.calls.length
      rw [length_of_pick hPick]
      exact Nat.le_succ _
  | followUp n delivered =>
      rcases Option.bind_eq_some_iff.mp hMove with
        ⟨⟨command, rest⟩, hPick, hMoved⟩
      cases hMoved
      exact Shop.Step.followUp (s := d.shop) command
        delivered (coe_of_pick hPick)
  | listForRebuild =>
      cases hMove
      exact Shop.Step.listForRebuild d.shop
  | listForReconcile =>
      cases hMove
      exact Shop.Step.listForReconcile d.shop
  | compare n =>
      dsimp only at hMove
      split at hMove
      case h_1 hPick =>
        cases hMove
        exact Shop.Step.compare (s := d.shop)
          (coe_of_pick hPick)
      case h_2 => cases hMove
  | write n delivered =>
      dsimp only at hMove
      split at hMove
      case h_1 hPick =>
        cases hMove
        exact Shop.Step.write (s := d.shop) _ _ delivered
          (coe_of_pick hPick)
      case h_2 => cases hMove
  | resyncDone n =>
      dsimp only at hMove
      split at hMove
      case h_1 hPick =>
        cases hMove
        exact Shop.Step.resyncDone (s := d.shop)
          (coe_of_pick hPick)
      case h_2 => cases hMove
  | evict productID =>
      cases hMove
      exact Shop.Step.evict d.shop productID

theorem run_of_playBy
    {Step : Shop → Action → Shop → Prop}
    {next : Desk → Move → Option (Action × Desk)}
    (hNext :
      ∀ d m action d', next d m = some (action, d') →
        Step d.shop action d'.shop)
    {d d' : Desk}
    {ms : List Move}
    {actions : List Action}
    (hPlay : d.playBy next ms = some (actions, d')) :
    Transition.Run Step d.shop actions d'.shop := by
  induction ms generalizing d actions with
  | nil =>
      cases hPlay
      exact Transition.Run.refl _
  | cons m ms ih =>
      unfold playBy at hPlay
      cases hMove : next d m with
      | none =>
          rw [hMove] at hPlay
          cases hPlay
      | some played =>
          rcases played with ⟨action, mid⟩
          rw [hMove] at hPlay
          dsimp only [Option.bind_eq_bind, Option.bind_some]
            at hPlay
          cases hRest : mid.playBy next ms with
          | none =>
              rw [hRest] at hPlay
              cases hPlay
          | some rest =>
              rcases rest with ⟨tail, last⟩
              rw [hRest] at hPlay
              cases hPlay
              exact (Transition.Run.single
                (hNext d m action mid hMove)).append (ih hRest)

theorem run_of_play
    {d d' : Desk}
    {ms : List Move}
    {actions : List Action}
    (hPlay : d.play ms = some (actions, d')) :
    Transition.Run Shop.Step d.shop actions d'.shop :=
  run_of_playBy (fun _ _ _ _ => step_of_move) hPlay

end Desk

end OrderManagement
