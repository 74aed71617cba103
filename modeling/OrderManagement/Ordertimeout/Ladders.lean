import OrderManagement.Library.Rungs
import OrderManagement.Ordertimeout.Topology

/-
  The ladder that `matchDelayLadder` chooses from those that
  NewWorker has sorted.

  Main declarations:
    * `matchDelayLadder_cons`
    * `selects_matchDelayLadder`
    * `LadderSelection` and `ladder_selection`
-/

namespace OrderManagement

------------------------------------------------------------
-- The Scan
------------------------------------------------------------

/- The first ladder is compared on its own, and the others
   in a loop; behind the loop the last one is returned. -/
theorem matchDelayLadder_cons
    (first : DelayLadder)
    (rest : List DelayLadder)
    (delay : Time) :
    matchDelayLadder (first :: rest) delay =
      if delay ≤ first.duration then
        first
      else
        (rest.find? fun ladder =>
          delay ≤ ladder.duration).getD
            (rest.getLastD first) := by
  unfold matchDelayLadder
  by_cases hFirst : delay ≤ first.duration
  · rw [if_pos hFirst,
      List.find?_cons_of_pos (by simpa using hFirst)]
  · rw [if_neg hFirst,
      List.find?_cons_of_neg (by simpa using hFirst),
      List.getLastD_cons]
    cases rest.find? fun ladder =>
        delay ≤ ladder.duration with
    | some ladder => rfl
    | none => rfl

/- On sorted ladders the scan selects the least duration
   that suffices, or else the greatest. -/
theorem selects_matchDelayLadder
    {ladders : List DelayLadder}
    (hSome : ladders ≠ [])
    (hSorted :
      ladders.Pairwise fun a b => a.duration ≤ b.duration)
    (delay : Time) :
    Rungs.Selects (Rungs.rungsOf DelayLadder.duration ladders)
      delay (matchDelayLadder ladders delay).duration := by
  constructor
  case least =>
    rintro ⟨rung, ⟨ladder, hMem, rfl⟩, hLong⟩
    unfold matchDelayLadder
    split
    case h_1 found hFind =>
      exact Rungs.isLeast_of_find? hSorted hFind
    case h_2 hNone =>
      have hShort := List.find?_eq_none.mp hNone ladder hMem
      exact absurd hLong (by simpa using hShort)
  case greatest =>
    intro hShort
    rw [matchDelayLadder_of_forall_lt
      (fun ladder hMem => hShort _ ⟨ladder, hMem, rfl⟩) hSome]
    exact Rungs.isGreatest_getLast hSorted hSome

------------------------------------------------------------
-- The Choice of a Worker
------------------------------------------------------------

/-
  What a worker may expect of the choice among its ladders:
  the least duration that is not below the delay, or else
  the greatest. A delay between two durations is exceeded by
  less than what lies between them.
-/
structure LadderSelection
    (ladders : List DelayLadder)
    (choose : Time → DelayLadder) : Prop where
  mem : ∀ delay, choose delay ∈ ladders
  least :
    ∀ delay,
      (∃ ladder ∈ ladders, delay ≤ ladder.duration) →
        IsLeast
          {d | (∃ ladder ∈ ladders, ladder.duration = d) ∧
            delay ≤ d}
          (choose delay).duration
  greatest :
    ∀ delay,
      (∀ ladder ∈ ladders, ladder.duration < delay) →
        IsGreatest
          {d | ∃ ladder ∈ ladders, ladder.duration = d}
          (choose delay).duration
  mono :
    ∀ delay delay', delay ≤ delay' →
      (choose delay).duration ≤ (choose delay').duration
  gap :
    ∀ delay,
      (∃ ladder ∈ ladders, ladder.duration < delay) →
        (∃ ladder ∈ ladders, delay ≤ ladder.duration) →
          ∃ below,
            IsGreatest
                {d |
                  (∃ ladder ∈ ladders,
                    ladder.duration = d) ∧
                  d < (choose delay).duration}
                below ∧
              (choose delay).duration - delay <
                (choose delay).duration - below

/- In whatever order the ladders are configured, and in
   whatever order the sort leaves equal ones. -/
theorem ladder_selection
    (w : TimeoutWorker)
    (hSome : w.config.delayLadders ≠ []) :
    LadderSelection w.config.delayLadders
      (matchDelayLadder w.topology.ladders) := by
  have hLadders : w.topology.ladders = w.ladders := by
    unfold TimeoutWorker.topology
    rw [if_pos (List.length_pos_iff.mpr hSome)]
  have hNonempty : w.ladders ≠ [] := by
    rw [← hLadders]
    exact w.ladders_ne_nil
  have hSorted :
      w.ladders.Pairwise fun a b => a.duration ≤ b.duration :=
    w.sorted.imp fun hNotLess => Int.not_lt.mp hNotLess
  have hSelects := selects_matchDelayLadder hNonempty hSorted
  rw [Rungs.rungsOf_perm w.copied] at hSelects
  have hRung :
      ∀ {ladder : DelayLadder},
        ladder ∈ w.config.delayLadders →
          ladder.duration ∈
            Rungs.rungsOf DelayLadder.duration
              w.config.delayLadders :=
    fun hMem => ⟨_, hMem, rfl⟩
  rw [hLadders]
  constructor
  case mem =>
    intro delay
    exact w.copied.mem_iff.mp
      (matchDelayLadder_mem hNonempty delay)
  case least =>
    rintro delay ⟨ladder, hMem, hLong⟩
    exact (hSelects delay).least ⟨_, hRung hMem, hLong⟩
  case greatest =>
    intro delay hShort
    refine (hSelects delay).greatest ?_
    rintro rung ⟨ladder, hMem, rfl⟩
    exact hShort ladder hMem
  case mono =>
    intro delay delay' hLE
    exact (hSelects delay).mono (hSelects delay') hLE
  case gap =>
    rintro delay ⟨low, hLow, hBelow⟩ ⟨high, hHigh, hLong⟩
    rcases (hSelects delay).exists_below
        (Rungs.finite_rungsOf _ _)
        ⟨_, hRung hHigh, hLong⟩ ⟨_, hRung hLow, hBelow⟩ with
      ⟨below, hGreatest, hLess, _⟩
    exact ⟨below, hGreatest, Int.sub_lt_sub_left hLess _⟩

------------------------------------------------------------
-- Three Ladders
------------------------------------------------------------

/- Two of the ladders have the same duration. -/
def tiedLadders : List DelayLadder :=
  [ ⟨hour, "delay.1h", "order.timeout.delay.1h"⟩,
    ⟨minute, "delay.1m", "order.timeout.delay.1m"⟩,
    ⟨hour, "delay.60m", "order.timeout.delay.60m"⟩ ]

def tiedWorker : TimeoutWorker where
  config := { unnamedWorker.config with
    delayLadders := tiedLadders }
  parts := ⟨true, true, true⟩
  ladders :=
    [ ⟨minute, "delay.1m", "order.timeout.delay.1m"⟩,
      ⟨hour, "delay.60m", "order.timeout.delay.60m"⟩,
      ⟨hour, "delay.1h", "order.timeout.delay.1h"⟩ ]
  accepted := by decide +kernel
  copied := by decide +kernel
  sorted := by decide +kernel

theorem ladder_selection_tied :
    LadderSelection tiedLadders
        (matchDelayLadder tiedWorker.topology.ladders) ∧
      (matchDelayLadder tiedWorker.topology.ladders
        (2 * minute)).routingKey = "delay.60m" := by
  constructor
  · exact ladder_selection tiedWorker (by decide)
  · decide +kernel

end OrderManagement
