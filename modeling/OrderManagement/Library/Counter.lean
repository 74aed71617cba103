import Mathlib.Algebra.BigOperators.Group.List.Basic
import Mathlib.Algebra.Order.Ring.Int
import Mathlib.Tactic.Common

/-
  A cached counter that starts without a value. Additions
  are made to the real counter one after another, and each
  of them sends a command to the cache: its own amount, and
  the value of the real counter after it, in case that the
  cache is still empty. The commands may come in any order.

  Main declarations:
    * `Counter.Command` with `Counter.Command.run`
    * `Counter.Chain`
    * `Counter.Chain.run_eq_iff`
-/

namespace Counter

------------------------------------------------------------
-- Commands
------------------------------------------------------------

/- A first value, or an addition and its fallback. -/
inductive Command
| set (value : Int)
| incr (delta fallback : Int)
deriving DecidableEq, Repr

def Command.run
    (cache : Option Int) : Command → Option Int
| .set value => some value
| .incr delta fallback =>
    match cache with
    | none => some fallback
    | some n => some (n + delta)

/- What a command adds to the real counter. -/
def Command.amount : Command → Int
| .set value => value
| .incr delta _ => delta

def Command.IsIncr : Command → Prop
| .set _ => False
| .incr _ _ => True

def total
    (commands : List Command) : Int :=
  (commands.map Command.amount).sum

@[simp] theorem total_nil :
    total [] = 0 := rfl

@[simp] theorem total_cons
    (c : Command)
    (commands : List Command) :
    total (c :: commands) = c.amount + total commands := by
  simp [total]

@[simp] theorem total_append
    (first second : List Command) :
    total (first ++ second) = total first + total second := by
  simp [total]

theorem total_eq_of_perm
    {first second : List Command}
    (hPerm : first.Perm second) :
    total first = total second :=
  (hPerm.map Command.amount).sum_eq

theorem total_pos
    {commands : List Command}
    (hPositive : ∀ c ∈ commands, 0 < c.amount)
    (hSome : commands ≠ []) :
    0 < total commands := by
  induction commands with
  | nil => exact absurd rfl hSome
  | cons c commands ih =>
      have hFirst := hPositive c (List.mem_cons_self ..)
      rw [total_cons]
      by_cases hRest : commands = []
      · rw [hRest, total_nil]
        omega
      · have hMore := ih
          (fun c hMem => hPositive c
            (List.mem_cons_of_mem _ hMem)) hRest
        omega

/- On a cache that has a value, additions add up. -/
theorem foldl_incrs
    {commands : List Command}
    (hIncrs : ∀ c ∈ commands, c.IsIncr)
    (n : Int) :
    commands.foldl Command.run (some n) =
      some (n + total commands) := by
  induction commands generalizing n with
  | nil => simp
  | cons c commands ih =>
      have hRest : ∀ c ∈ commands, c.IsIncr := fun c hMem =>
        hIncrs c (List.mem_cons_of_mem _ hMem)
      cases c with
      | set value =>
          exact (hIncrs _ (List.mem_cons_self ..)).elim
      | incr delta fallback =>
          rw [List.foldl_cons, total_cons]
          show commands.foldl Command.run (some (n + delta)) = _
          rw [ih hRest, Int.add_assoc]
          rfl

------------------------------------------------------------
-- Chains
------------------------------------------------------------

/- Additions to a real counter that stands at `base`, in the
   order in which they are made. -/
inductive Additions : Int → List Command → Prop
| nil
    (base : Int) :
    Additions base []
| cons
    {base delta : Int}
    {rest : List Command}
    (hPositive : 0 < delta)
    (hRest : Additions (base + delta) rest) :
    Additions base (.incr delta (base + delta) :: rest)

/- The commands of all changes to a real counter: additions,
   or a first value of a counter at zero and additions. -/
inductive Chain : Int → List Command → Prop
| additions
    {base : Int}
    {commands : List Command}
    (hAdditions : Additions base commands) :
    Chain base commands
| starts
    {value : Int}
    {rest : List Command}
    (hRest : Additions value rest) :
    Chain 0 (.set value :: rest)

namespace Additions

theorem incrs
    {base : Int}
    {commands : List Command}
    (hAdditions : Additions base commands) :
    ∀ c ∈ commands, c.IsIncr := by
  induction hAdditions with
  | nil base => simp
  | cons hPositive _ ih =>
      intro c hMem
      rcases List.mem_cons.mp hMem with rfl | hRest
      · trivial
      · exact ih c hRest

theorem positive
    {base : Int}
    {commands : List Command}
    (hAdditions : Additions base commands) :
    ∀ c ∈ commands, 0 < c.amount := by
  induction hAdditions with
  | nil base => simp
  | cons hPositive _ ih =>
      intro c hMem
      rcases List.mem_cons.mp hMem with rfl | hRest
      · exact hPositive
      · exact ih c hRest

/- Only the first addition has no other one before it. -/
theorem fallback_eq_iff
    {base delta fallback : Int}
    {commands : List Command}
    (hAdditions : Additions base commands)
    (hMem : .incr delta fallback ∈ commands) :
    base + delta ≤ fallback ∧
      (fallback = base + delta ↔
        commands.head? = some (.incr delta fallback)) := by
  induction hAdditions with
  | nil base => cases hMem
  | @cons base first rest hPositive hRest ih =>
      rcases List.mem_cons.mp hMem with hHere | hLater
      · cases hHere
        simp
      · have hMore := (ih hLater).1
        refine ⟨by omega, ?_⟩
        simp only [List.head?_cons, Option.some.injEq,
          Command.incr.injEq]
        omega

theorem snoc
    {base delta : Int}
    {commands : List Command}
    (hAdditions : Additions base commands)
    (hPositive : 0 < delta) :
    Additions base
      (commands ++
        [.incr delta (base + total commands + delta)]) := by
  induction hAdditions with
  | nil base =>
      rw [total_nil, Int.add_zero]
      exact .cons hPositive (.nil _)
  | @cons base first rest hFirst _ ih =>
      rw [total_cons, List.cons_append,
        ← Int.add_assoc base]
      exact .cons hFirst ih

end Additions

namespace Chain

/- One more addition to the real counter. -/
theorem snoc
    {base delta : Int}
    {commands : List Command}
    (hChain : Chain base commands)
    (hPositive : 0 < delta) :
    Chain base
      (commands ++
        [.incr delta (base + total commands + delta)]) := by
  cases hChain with
  | additions hAdditions =>
      exact .additions (hAdditions.snoc hPositive)
  | @starts value rest hRest =>
      rw [total_cons, Int.zero_add]
      exact .starts (hRest.snoc hPositive)

/-
  Once every command has run, the cache shows the value of
  the real counter exactly if there is a first change whose
  command has run first.
-/
theorem run_eq_iff
    {base : Int}
    {due sent : List Command}
    (hChain : Chain base due)
    (hPerm : sent.Perm due) :
    sent.foldl Command.run none = some (base + total due) ↔
      ∃ c, due.head? = some c ∧ sent.head? = some c := by
  cases hChain with
  | additions hAdditions =>
      cases sent with
      | nil =>
          rw [hPerm.symm.eq_nil]
          simp
      | cons c rest =>
          have hMem : c ∈ due :=
            hPerm.mem_iff.mp (List.mem_cons_self ..)
          have hRest : ∀ c ∈ rest, c.IsIncr := fun c hRest =>
            hAdditions.incrs c
              (hPerm.mem_iff.mp (List.mem_cons_of_mem _ hRest))
          cases c with
          | set value =>
              exact (hAdditions.incrs _ hMem).elim
          | incr delta fallback =>
              have hFirst := (hAdditions.fallback_eq_iff hMem).2
              have hTotal := total_eq_of_perm hPerm
              rw [total_cons] at hTotal
              rw [List.foldl_cons]
              show rest.foldl Command.run (some fallback) = _ ↔ _
              rw [foldl_incrs hRest, Option.some.injEq]
              change delta + total rest = total due at hTotal
              constructor
              · intro hEqual
                have hEq : fallback = base + delta := by omega
                exact ⟨_, hFirst.mp hEq, rfl⟩
              · rintro ⟨c, hHead, hSame⟩
                cases hSame
                have hEq := hFirst.mpr hHead
                omega
  | @starts value rest hAdditions =>
      have hMem : .set value ∈ sent :=
        hPerm.mem_iff.mpr (List.mem_cons_self ..)
      rcases List.append_of_mem hMem with ⟨pre, post, rfl⟩
      have hRest : (pre ++ post).Perm rest :=
        (List.perm_middle.symm.trans hPerm).cons_inv
      have hPost : ∀ c ∈ post, c.IsIncr := fun c hMem =>
        hAdditions.incrs c
          (hRest.mem_iff.mp (List.mem_append_right _ hMem))
      have hPre : ∀ c ∈ pre, c ∈ rest := fun c hMem =>
        hRest.mem_iff.mp (List.mem_append_left _ hMem)
      have hTotal := total_eq_of_perm hRest
      rw [total_append] at hTotal
      rw [List.foldl_append, List.foldl_cons]
      show post.foldl Command.run (some value) = _ ↔ _
      rw [foldl_incrs hPost, Option.some.injEq, total_cons]
      change value + total post = 0 + (value + total rest) ↔ _
      cases pre with
      | nil =>
          rw [total_nil] at hTotal
          simp
          omega
      | cons c pre =>
          -- An addition came before the first value.
          have hLost : 0 < total (c :: pre) :=
            total_pos
              (fun c hMem =>
                hAdditions.positive c (hPre c hMem)) (by simp)
          refine iff_of_false (by omega) ?_
          rintro ⟨c', hHead, hSame⟩
          cases hHead
          cases hSame
          exact hAdditions.incrs _
            (hPre _ (List.mem_cons_self ..))

end Chain

end Counter
