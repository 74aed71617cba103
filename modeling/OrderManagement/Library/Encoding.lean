import Mathlib.Tactic.Common

/-
  Texts from which values can be read back. A text that shows
  where it ends can be followed by anything, so such texts
  can be put one after another.

  Main declarations:
    * `Encoding.SelfDelimiting`
    * `SelfDelimiting.append`, `SelfDelimiting.comap`
    * `SelfDelimiting.of_read` and `SelfDelimiting.row`
    * `selfDelimiting_terminated`
    * `Encoding.rest` and `SelfDelimiting.rest`
    * `selfDelimiting_decimal`
-/

namespace Encoding

variable {σ α β : Type}

------------------------------------------------------------
-- Self-Delimiting Texts
------------------------------------------------------------

/- The text of a value is cut off in one way only from what
   follows it. -/
def SelfDelimiting
    (text : α → List σ) : Prop :=
  ∀ ⦃a b s t⦄, text a ++ s = text b ++ t → a = b ∧ s = t

namespace SelfDelimiting

theorem injective
    {text : α → List σ}
    (hText : SelfDelimiting text) :
    Function.Injective text := by
  intro a b hEq
  have hBoth : text a ++ [] = text b ++ [] := by rw [hEq]
  exact (hText hBoth).1

/- A fixed text in front changes nothing. -/
theorem literal
    {text : α → List σ}
    (hText : SelfDelimiting text)
    (front : List σ) :
    SelfDelimiting (fun a => front ++ text a) := by
  intro a b s t hEq
  apply hText
  rw [List.append_assoc, List.append_assoc] at hEq
  exact List.append_cancel_left hEq

/- Nor does a fixed text at the end. -/
theorem closing
    {text : α → List σ}
    (hText : SelfDelimiting text)
    (back : List σ) :
    SelfDelimiting (fun a => text a ++ back) := by
  intro a b s t hEq
  rw [List.append_assoc, List.append_assoc] at hEq
  rcases hText hEq with ⟨rfl, hRest⟩
  exact ⟨rfl, List.append_cancel_left hRest⟩

/- Two texts one after the other are a text of the pair. -/
theorem append
    {text : α → List σ}
    {text' : β → List σ}
    (hText : SelfDelimiting text)
    (hText' : SelfDelimiting text') :
    SelfDelimiting
      (fun p : α × β => text p.1 ++ text' p.2) := by
  intro p q s t hEq
  rw [List.append_assoc, List.append_assoc] at hEq
  rcases hText hEq with ⟨hFirst, hRest⟩
  rcases hText' hRest with ⟨hSecond, hEnd⟩
  exact ⟨Prod.ext hFirst hSecond, hEnd⟩

/- What has no more values than a text has a text too. -/
theorem comap
    {text : α → List σ}
    (hText : SelfDelimiting text)
    {f : β → α}
    (hInjective : Function.Injective f) :
    SelfDelimiting (fun b => text (f b)) := by
  intro a b s t hEq
  rcases hText hEq with ⟨hSame, hRest⟩
  exact ⟨hInjective hSame, hRest⟩

end SelfDelimiting

/- It is enough that a reader finds the value and the end. -/
theorem SelfDelimiting.of_read
    {text : α → List σ}
    (read : List σ → Option (α × List σ))
    (hRead : ∀ a s, read (text a ++ s) = some (a, s)) :
    SelfDelimiting text := by
  intro a b s t hEq
  have hBoth := hRead a s
  rw [hEq, hRead b t, Option.some.injEq, Prod.mk.injEq]
    at hBoth
  exact ⟨hBoth.1.symm, hBoth.2.symm⟩

/- Texts in a row, up to a symbol that starts none of them. -/
theorem SelfDelimiting.row
    {text : α → List σ}
    (hText : SelfDelimiting text)
    {stop : σ}
    (hStart : ∀ a s t, text a ++ s ≠ stop :: t) :
    SelfDelimiting
      (fun as : List α => as.flatMap text ++ [stop]) := by
  intro as bs s t hEq
  simp only [List.append_assoc, List.singleton_append] at hEq
  induction as generalizing bs with
  | nil =>
      cases bs with
      | nil => simpa using hEq
      | cons b bs =>
          rw [List.flatMap_nil, List.nil_append,
            List.flatMap_cons, List.append_assoc] at hEq
          exact absurd hEq.symm (hStart b _ _)
  | cons a as ih =>
      cases bs with
      | nil =>
          rw [List.flatMap_nil, List.nil_append,
            List.flatMap_cons, List.append_assoc] at hEq
          exact absurd hEq (hStart a _ _)
      | cons b bs =>
          rw [List.flatMap_cons, List.flatMap_cons,
            List.append_assoc, List.append_assoc] at hEq
          rcases hText hEq with ⟨rfl, hRest⟩
          rcases ih hRest with ⟨rfl, hEnd⟩
          exact ⟨rfl, hEnd⟩

------------------------------------------------------------
-- Terminated Texts
------------------------------------------------------------

/- Up to a symbol that neither contains, two texts agree. -/
theorem append_cons_inj
    {stop : σ}
    {u v s t : List σ}
    (hLeft : stop ∉ u)
    (hRight : stop ∉ v)
    (hEq : u ++ stop :: s = v ++ stop :: t) :
    u = v ∧ s = t := by
  induction u generalizing v with
  | nil =>
      cases v with
      | nil => simpa using hEq
      | cons y v =>
          rw [List.nil_append, List.cons_append,
            List.cons.injEq] at hEq
          exact absurd (by simp [hEq.1]) hRight
  | cons x u ih =>
      cases v with
      | nil =>
          rw [List.nil_append, List.cons_append,
            List.cons.injEq] at hEq
          exact absurd (by simp [hEq.1]) hLeft
      | cons y v =>
          rw [List.cons_append, List.cons_append,
            List.cons.injEq] at hEq
          rcases hEq with ⟨rfl, hRest⟩
          rcases ih (fun h => hLeft (by simp [h]))
              (fun h => hRight (by simp [h])) hRest with
            ⟨rfl, hEnd⟩
          exact ⟨rfl, hEnd⟩

/- A symbol that no text contains marks where one ends. -/
theorem selfDelimiting_terminated
    {text : α → List σ}
    (hInjective : Function.Injective text)
    {stop : σ}
    (hStop : ∀ a, stop ∉ text a) :
    SelfDelimiting (fun a => text a ++ [stop]) := by
  intro a b s t hEq
  rw [List.append_assoc, List.append_assoc] at hEq
  rcases append_cons_inj (hStop a) (hStop b) hEq with
    ⟨hSame, hRest⟩
  exact ⟨hInjective hSame, hRest⟩

------------------------------------------------------------
-- Separated Lists
------------------------------------------------------------

/- What follows the first element of a list: every further
   element behind a separator, and a closing symbol. -/
def rest
    (text : α → List σ)
    (sep close : σ) : List α → List σ
| [] => [close]
| a :: as => sep :: (text a ++ rest text sep close as)

/- The closing symbol tells where the elements end. -/
theorem SelfDelimiting.rest
    {text : α → List σ}
    (hText : SelfDelimiting text)
    {sep close : σ}
    (hApart : sep ≠ close) :
    SelfDelimiting (Encoding.rest text sep close) := by
  intro as bs s t hEq
  induction as generalizing bs with
  | nil =>
      cases bs with
      | nil => simpa [Encoding.rest] using hEq
      | cons b bs =>
          simp only [Encoding.rest, List.cons_append,
            List.cons.injEq] at hEq
          exact absurd hEq.1.symm hApart
  | cons a as ih =>
      cases bs with
      | nil =>
          simp only [Encoding.rest, List.cons_append,
            List.cons.injEq] at hEq
          exact absurd hEq.1 hApart
      | cons b bs =>
          simp only [Encoding.rest, List.cons_append,
            List.cons.injEq, List.append_assoc] at hEq
          rcases hText hEq.2 with ⟨rfl, hRest⟩
          rcases ih hRest with ⟨rfl, hEnd⟩
          exact ⟨rfl, hEnd⟩

theorem mem_rest
    {text : α → List σ}
    {sep close c : σ}
    {as : List α}
    (hMem : c ∈ Encoding.rest text sep close as) :
    c = sep ∨ c = close ∨ ∃ a ∈ as, c ∈ text a := by
  induction as with
  | nil => exact Or.inr (Or.inl (List.mem_singleton.mp hMem))
  | cons a as ih =>
      rw [Encoding.rest, List.mem_cons, List.mem_append]
        at hMem
      rcases hMem with hSep | hText | hRest
      · exact Or.inl hSep
      · exact Or.inr (Or.inr ⟨a, by simp, hText⟩)
      · rcases ih hRest with hSep | hClose | ⟨b, hMem, hText⟩
        · exact Or.inl hSep
        · exact Or.inr (Or.inl hClose)
        · exact Or.inr (Or.inr ⟨b, by simp [hMem], hText⟩)

------------------------------------------------------------
-- Decimal Numbers
------------------------------------------------------------

/- An integer in decimal notation. -/
def decimal
    (n : Int) : List Char :=
  (toString n).toList

theorem decimal_ofNat
    (n : Nat) :
    decimal (Int.ofNat n) = Nat.toDigits 10 n := by
  change (Nat.repr n).toList = _
  simp [Nat.repr]

theorem decimal_negSucc
    (n : Nat) :
    decimal (Int.negSucc n) =
      '-' :: Nat.toDigits 10 (n + 1) := by
  change ("-" ++ Nat.repr (n + 1)).toList = _
  simp [Nat.repr]

theorem isDigit_of_mem_digits
    {n : Nat}
    {c : Char}
    (hChar : c ∈ Nat.toDigits 10 n) :
    c.isDigit = true := by
  apply Nat.isDigit_of_mem_toDigits _ _ hChar
  · decide
  · decide

/- Decimal notation is made of digits and of a minus sign. -/
theorem isDigit_of_mem_decimal
    {n : Int}
    {c : Char}
    (hChar : c ∈ decimal n) :
    c.isDigit = true ∨ c = '-' := by
  cases n with
  | ofNat n =>
      rw [decimal_ofNat] at hChar
      exact Or.inl (isDigit_of_mem_digits hChar)
  | negSucc n =>
      rw [decimal_negSucc] at hChar
      rcases List.mem_cons.mp hChar with hSign | hDigit
      · exact Or.inr hSign
      · exact Or.inl (isDigit_of_mem_digits hDigit)

theorem digits_injective :
    Function.Injective (Nat.toDigits 10) := by
  intro m n hEq
  rw [← Nat.ofDigitChars_ten_toDigits (n := m), hEq,
    Nat.ofDigitChars_ten_toDigits]

/- No list of digits starts with the minus sign. -/
theorem digits_ne_sign
    (n : Nat)
    (rest : List Char) :
    Nat.toDigits 10 n ≠ '-' :: rest := by
  intro hEq
  have hSign : '-' ∈ Nat.toDigits 10 n := by
    rw [hEq]
    apply List.mem_cons_self
  exact absurd (isDigit_of_mem_digits hSign) (by decide)

theorem decimal_injective :
    Function.Injective decimal := by
  intro m n hEq
  cases m with
  | ofNat m =>
      cases n with
      | ofNat n =>
          rw [decimal_ofNat, decimal_ofNat] at hEq
          exact congrArg Int.ofNat (digits_injective hEq)
      | negSucc n =>
          rw [decimal_ofNat, decimal_negSucc] at hEq
          exact absurd hEq (digits_ne_sign m _)
  | negSucc m =>
      cases n with
      | ofNat n =>
          rw [decimal_ofNat, decimal_negSucc] at hEq
          exact absurd hEq.symm (digits_ne_sign n _)
      | negSucc n =>
          rw [decimal_negSucc, decimal_negSucc,
            List.cons.injEq] at hEq
          have hSucc := digits_injective hEq.2
          rw [Nat.succ.inj hSucc]

/- A number ends before any symbol of another kind. -/
theorem selfDelimiting_decimal
    {stop : Char}
    (hDigit : stop.isDigit = false)
    (hSign : stop ≠ '-') :
    SelfDelimiting (fun n => decimal n ++ [stop]) := by
  apply selfDelimiting_terminated decimal_injective
  intro n hMem
  rcases isDigit_of_mem_decimal hMem with hYes | hYes
  · rw [hDigit] at hYes
    cases hYes
  · exact hSign hYes

end Encoding
