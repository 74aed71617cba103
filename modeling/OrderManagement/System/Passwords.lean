import OrderManagement.Library.Swap
import OrderManagement.Library.Transition
import OrderManagement.Service.User
import OrderManagement.System.Serial
import Mathlib.Data.Multiset.Filter

/-
  Password changes of any number of calls at once. A call
  verifies the old password on its snapshot, which may be
  stale by the time of the UPDATE; that compares the hash
  which was verified with the one of the current row.

  Main declarations:
    * `PasswordState` and `PasswordStep`
    * `Bcrypt.Exact`
    * `PasswordInv` with `PasswordStep.inv`
    * `PasswordsLinear` and `passwords_linear`
-/

namespace OrderManagement

open Transaction

------------------------------------------------------------
-- Calls
------------------------------------------------------------

/- A call in flight, with its snapshot once it has one. -/
structure PasswordCall where
  userID : Int
  req : UpdatePasswordRequest
  view : Option Users

/- A call that has returned, with the hash it generated. -/
structure PasswordEvent where
  userID : Int
  req : UpdatePasswordRequest
  response : Except UserErr Unit
  newHash : Option String
  before : Users
  after : Users

/- The table, the calls in flight, and the hashes that have
   been generated. -/
structure PasswordState where
  users : Users
  calls : Multiset PasswordCall
  generated : List String

/- No call in flight. -/
def PasswordState.start
    (users : Users) : PasswordState where
  users := users
  calls := 0
  generated := users.rows.map User.passwordHash

def passwordHashOf
    (users : Users)
    (userID : Int) : Option String :=
  (users.find? userID).map User.passwordHash

variable [Deployment]

/- The response of a call and the table that it leaves. -/
def UserService.runUpdatePassword
    (b : Bcrypt)
    (view : Users)
    (salt : String)
    (userID : Int)
    (req : UpdatePasswordRequest)
    (users : Users) : Except UserErr Unit × Users :=
  match (updatePassword b view salt userID req).run users with
  | .ok (_, users') => (.ok (), users')
  | .error e => (.error e, users)

/-
  A step carries the event of the call that it ends. A hash
  that a call generates is fresh: the column tells it from
  all others.
-/
inductive PasswordStep
    (b : Bcrypt) :
    PasswordState → Option PasswordEvent →
      PasswordState → Prop
| arrive
    (s : PasswordState)
    (userID : Int)
    (req : UpdatePasswordRequest) :
    PasswordStep b s none
      { s with calls := ⟨userID, req, none⟩ ::ₘ s.calls }
| reject
    {users : Users}
    {rest : Multiset PasswordCall}
    {generated : List String}
    {userID : Int}
    {req : UpdatePasswordRequest}
    {e : UserErr}
    (hCheck :
      UserService.checkUpdatePassword userID req =
        .error e) :
    PasswordStep b
      ⟨users, ⟨userID, req, none⟩ ::ₘ rest, generated⟩
      (some ⟨userID, req, .error e, none, users, users⟩)
      ⟨users, rest, generated⟩
| openView
    {users : Users}
    {rest : Multiset PasswordCall}
    {generated : List String}
    {userID : Int}
    {req : UpdatePasswordRequest}
    (hCheck :
      UserService.checkUpdatePassword userID req = .ok ()) :
    PasswordStep b
      ⟨users, ⟨userID, req, none⟩ ::ₘ rest, generated⟩ none
      ⟨users, ⟨userID, req, some users⟩ ::ₘ rest, generated⟩
| finish
    {users users' view : Users}
    {rest : Multiset PasswordCall}
    {generated : List String}
    {userID : Int}
    {req : UpdatePasswordRequest}
    {salt : String}
    {newHash : Option String}
    {response : Except UserErr Unit}
    (hHash :
      newHash =
        (UserService.hashPassword b view salt userID
          req).toOption.map Prod.snd)
    (hFresh :
      ∀ hash, newHash = some hash →
        ∀ other ∈ generated,
          Deployment.collate hash ≠ Deployment.collate other)
    (hRun :
      UserService.runUpdatePassword b view salt userID req
        users = (response, users')) :
    PasswordStep b
      ⟨users, ⟨userID, req, some view⟩ ::ₘ rest, generated⟩
      (some ⟨userID, req, response, newHash, users, users'⟩)
      ⟨users', rest, generated ++ newHash.toList⟩
| fail
    {users : Users}
    {rest : Multiset PasswordCall}
    {generated : List String}
    (c : PasswordCall)
    (e : UserErr) :
    PasswordStep b ⟨users, c ::ₘ rest, generated⟩
      (some ⟨c.userID, c.req, .error e, none, users, users⟩)
      ⟨users, rest, generated⟩

------------------------------------------------------------
-- Successes
------------------------------------------------------------

omit [Deployment] in
/- Whether a call returns nil. -/
def PasswordEvent.succeeded
    (e : PasswordEvent) : Bool :=
  e.response.toBool

/- The calls that changed the password of a user, in the
   order in which they committed. -/
def successes
    (userID : Int)
    (events : List PasswordEvent) : List PasswordEvent :=
  events.filter fun e => e.userID = userID ∧ e.succeeded

/- The hash and the password that a call has replaced, and
   the ones that it has set. -/
def PasswordEvent.change
    (e : PasswordEvent) : Swap.Change (String × String) where
  expected :=
    ((passwordHashOf e.before e.userID).getD "",
      e.req.oldPassword)
  new := (e.newHash.getD "", e.req.newPassword)

def changesOf
    (userID : Int)
    (events : List PasswordEvent) :
    List (Swap.Change (String × String)) :=
  (successes userID events).map PasswordEvent.change

/- The comparison accepts one password for a hash. -/
def Bcrypt.Accepts
    (b : Bcrypt)
    (hash password : String) : Prop :=
  ∀ q, b.compareHashAndPassword hash q = true ↔ q = password

/- What is assumed of the package, with its comparison taken
   as exact: a hash is good for the password that it was
   generated from, and for no other. -/
structure Bcrypt.Exact
    (b : Bcrypt) : Prop where
  accepts :
    ∀ salt password hash,
      validatePassword password = .ok () →
        b.generateFromPassword salt password = .ok hash →
          b.Accepts hash password

/- The events of a run, in order. -/
def passwordEvents
    (ls : List (Option PasswordEvent)) :
    List PasswordEvent :=
  ls.filterMap id

/- The hashes that a user has had, with their passwords. -/
def passwordsOf
    (start : String × String)
    (userID : Int)
    (events : List PasswordEvent) : List (String × String) :=
  Swap.values start (changesOf userID events)

/- The last of them. -/
def currentPasswordOf
    (start : String × String)
    (userID : Int)
    (events : List PasswordEvent) : String × String :=
  Swap.current start (changesOf userID events)

omit [Deployment] in
theorem passwordEvents_snoc
    (ls : List (Option PasswordEvent))
    (l : Option PasswordEvent) :
    passwordEvents (ls ++ [l]) =
      passwordEvents ls ++ l.toList := by
  cases l <;> simp [passwordEvents]

omit [Deployment] in
theorem successes_snoc_of_not
    {userID : Int}
    {e : PasswordEvent}
    (events : List PasswordEvent)
    (hOther : ¬ (e.userID = userID ∧ e.succeeded)) :
    successes userID (events ++ [e]) =
      successes userID events := by
  simp [successes, hOther]

omit [Deployment] in
theorem successes_snoc
    {userID : Int}
    {e : PasswordEvent}
    (events : List PasswordEvent)
    (hSuccess : e.userID = userID ∧ e.succeeded) :
    successes userID (events ++ [e]) =
      successes userID events ++ [e] := by
  simp [successes, hSuccess]

omit [Deployment] in
theorem changesOf_congr
    {userID : Int}
    {events events' : List PasswordEvent}
    (hSame :
      successes userID events' = successes userID events) :
    changesOf userID events' = changesOf userID events :=
  congrArg (List.map PasswordEvent.change) hSame

omit [Deployment] in
theorem changesOf_snoc
    {userID : Int}
    {e : PasswordEvent}
    (events : List PasswordEvent)
    (hSuccess : e.userID = userID ∧ e.succeeded) :
    changesOf userID (events ++ [e]) =
      changesOf userID events ++ [e.change] := by
  rw [changesOf, successes_snoc events hSuccess,
    List.map_append]
  rfl

------------------------------------------------------------
-- The Effect of a Call
------------------------------------------------------------

omit [Deployment] in
theorem UserService.validatePassword_of_check
    {userID : Int}
    {req : UpdatePasswordRequest}
    (hCheck : checkUpdatePassword userID req = .ok ()) :
    validatePassword req.newPassword = .ok () := by
  unfold checkUpdatePassword at hCheck
  by_cases hID : userID ≤ 0
  · simp [hID] at hCheck
  by_cases hSame : req.oldPassword = req.newPassword
  · simp [hID, hSame] at hCheck
  simpa only [hID, hSame, if_false] using hCheck

/- A call fails and changes nothing, or it commits. -/
theorem UserService.runUpdatePassword_cases
    {b : Bcrypt}
    {view users users' : Users}
    {salt : String}
    {userID : Int}
    {req : UpdatePasswordRequest}
    {response : Except UserErr Unit}
    (hRun :
      runUpdatePassword b view salt userID req users =
        (response, users')) :
    (∃ e, response = .error e ∧ users' = users) ∨
    (response = .ok () ∧
      Commits (updatePassword b view salt userID req)
        users () users') := by
  unfold runUpdatePassword at hRun
  split at hRun
  case h_1 users₁ hOk =>
    cases hRun
    exact Or.inr ⟨rfl, hOk⟩
  case h_2 e hError =>
    cases hRun
    exact Or.inl ⟨e, rfl, rfl⟩

omit [Deployment] in
theorem passwordHashOf_update
    {users : Users}
    {row : User}
    {userID : Int}
    (hRow : users.find? userID = some row)
    (newHash : String)
    (otherID : Int) :
    passwordHashOf
        (users.update { row with passwordHash := newHash })
        otherID =
      if userID = otherID then some newHash
      else passwordHashOf users otherID := by
  have hKey : row.id = userID := Table.key_of_find? hRow
  subst hKey
  unfold passwordHashOf
  rw [Table.find?_update]
  by_cases hOther : row.id = otherID
  · subst hOther
    simp [hRow]
  · simp [hOther]

------------------------------------------------------------
-- The Line of Passwords
------------------------------------------------------------

/-
  The successful calls of a user form a line: each of them
  has replaced what the one before has set, and the table
  has what the last one has set.
-/
structure PasswordLine
    (b : Bcrypt)
    (userID : Int)
    (start : String × String)
    (events : List PasswordEvent)
    (users : Users)
    (generated : List String) : Prop where
  linear : Swap.Linear start (changesOf userID events)
  stored :
    passwordHashOf users userID =
      some (currentPasswordOf start userID events).1
  accepts :
    ∀ v ∈ passwordsOf start userID events,
      b.Accepts v.1 v.2
  fresh :
    ((passwordsOf start userID events).map fun v =>
      Deployment.collate v.1).Nodup
  generated :
    ∀ v ∈ passwordsOf start userID events, v.1 ∈ generated
  known :
    ∀ e ∈ successes userID events,
      passwordHashOf e.before userID =
          some e.change.expected.1 ∧
        e.newHash = some e.change.new.1

namespace PasswordLine

variable
  {b : Bcrypt}
  {userID : Int}
  {start : String × String}
  {events : List PasswordEvent}
  {users : Users}
  {generated : List String}

theorem start_row
    {row : User}
    {initial : String}
    (hRow : users.find? userID = some row)
    (hInitial : b.Accepts row.passwordHash initial) :
    PasswordLine b userID (row.passwordHash, initial) []
      users (users.rows.map User.passwordHash) where
  linear := trivial
  stored := by
    unfold passwordHashOf
    rw [hRow]
    rfl
  accepts := by
    intro v hMem
    cases List.mem_singleton.mp hMem
    exact hInitial
  fresh := List.nodup_singleton _
  generated := by
    intro v hMem
    cases List.mem_singleton.mp hMem
    exact List.mem_map_of_mem (Table.mem_of_find? hRow)
  known := by
    intro e hMem
    cases hMem

/- What changes neither the hash nor the successful calls
   keeps the line. -/
theorem keep
    {events' : List PasswordEvent}
    {users' : Users}
    {generated' : List String}
    (hLine :
      PasswordLine b userID start events users generated)
    (hSame :
      successes userID events' = successes userID events)
    (hUsers :
      passwordHashOf users' userID =
        passwordHashOf users userID)
    (hGenerated : generated ⊆ generated') :
    PasswordLine b userID start events' users' generated' := by
  have hChanges := changesOf_congr hSame
  have hValues :
      passwordsOf start userID events' =
        passwordsOf start userID events :=
    congrArg (Swap.values start) hChanges
  refine ⟨?_, ?_, ?_, ?_, ?_, ?_⟩
  · rw [hChanges]
    exact hLine.linear
  · rw [hUsers, hLine.stored]
    unfold currentPasswordOf
    rw [hChanges]
  · rw [hValues]
    exact hLine.accepts
  · rw [hValues]
    exact hLine.fresh
  · rw [hValues]
    exact fun v hMem => hGenerated (hLine.generated v hMem)
  · rw [hSame]
    exact hLine.known

/-
  A hash that was seen at some time, that the UPDATE finds
  in the current row, and that the old password matches:
  both are the current ones.
-/
theorem expected_current
    {row : User}
    {seen oldPassword : String}
    {v : String × String}
    (hLine :
      PasswordLine b userID start events users generated)
    (hMem : v ∈ passwordsOf start userID events)
    (hSeen : seen = v.1)
    (hMatch :
      b.compareHashAndPassword seen oldPassword = true)
    (hRow : users.find? userID = some row)
    (hSame :
      Deployment.collate row.passwordHash =
        Deployment.collate seen) :
    (row.passwordHash, oldPassword) =
      currentPasswordOf start userID events := by
  have hStored := hLine.stored
  unfold passwordHashOf at hStored
  rw [hRow] at hStored
  have hHash :
      row.passwordHash =
        (currentPasswordOf start userID events).1 :=
    Option.some.inj hStored
  have hCurrent :
      v = currentPasswordOf start userID events := by
    apply Swap.eq_current_of_key hLine.fresh hMem
    change Deployment.collate v.1 =
      Deployment.collate
        (currentPasswordOf start userID events).1
    rw [← hHash, hSame, hSeen]
  have hOld : oldPassword = v.2 := by
    rw [hSeen] at hMatch
    exact (hLine.accepts v hMem oldPassword).mp hMatch
  rw [hOld, hHash, hCurrent]

/- A call that replaces the current hash extends the line. -/
theorem change
    {row : User}
    {newHash : String}
    {e : PasswordEvent}
    (hLine :
      PasswordLine b userID start events users generated)
    (hUser : e.userID = userID)
    (hSuccess : e.succeeded)
    (hBefore : e.before = users)
    (hNew : e.newHash = some newHash)
    (hRow : users.find? userID = some row)
    (hExpected :
      (row.passwordHash, e.req.oldPassword) =
        currentPasswordOf start userID events)
    (hAccepts : b.Accepts newHash e.req.newPassword)
    (hFresh :
      ∀ other ∈ generated,
        Deployment.collate newHash ≠
          Deployment.collate other) :
    PasswordLine b userID start (events ++ [e])
      (users.update { row with passwordHash := newHash })
      (generated ++ [newHash]) := by
  subst hUser hBefore
  have hHash :
      passwordHashOf e.before e.userID =
        some row.passwordHash := by
    unfold passwordHashOf
    rw [hRow]
    rfl
  have hChange :
      e.change =
        ⟨(row.passwordHash, e.req.oldPassword),
          (newHash, e.req.newPassword)⟩ := by
    unfold PasswordEvent.change
    rw [hHash, hNew]
    rfl
  have hChanges :=
    changesOf_snoc events ⟨rfl, hSuccess⟩
  have hValues :
      passwordsOf start e.userID (events ++ [e]) =
        passwordsOf start e.userID events ++
          [(newHash, e.req.newPassword)] := by
    unfold passwordsOf
    rw [hChanges, Swap.values_snoc, hChange]
  refine ⟨?_, ?_, ?_, ?_, ?_, ?_⟩
  · rw [hChanges]
    apply hLine.linear.snoc
    rw [hChange]
    exact hExpected
  · rw [passwordHashOf_update hRow, if_pos rfl]
    unfold currentPasswordOf
    rw [hChanges, Swap.current_snoc, hChange]
  · rw [hValues]
    intro v hMem
    rcases List.mem_append.mp hMem with hOld | hLast
    · exact hLine.accepts v hOld
    · cases List.mem_singleton.mp hLast
      exact hAccepts
  · rw [hValues, List.map_append, List.nodup_append]
    refine ⟨hLine.fresh, List.nodup_singleton _, ?_⟩
    intro hash hOld last hLast hEq
    rcases List.mem_map.mp hOld with ⟨v, hMem, rfl⟩
    cases List.mem_singleton.mp hLast
    exact hFresh v.1 (hLine.generated v hMem) hEq.symm
  · rw [hValues]
    intro v hMem
    rcases List.mem_append.mp hMem with hOld | hLast
    · exact List.mem_append_left _ (hLine.generated v hOld)
    · cases List.mem_singleton.mp hLast
      exact List.mem_append_right _ List.mem_cons_self
  · rw [successes_snoc events ⟨rfl, hSuccess⟩]
    intro d hMem
    rcases List.mem_append.mp hMem with hOld | hLast
    · exact hLine.known d hOld
    · cases List.mem_singleton.mp hLast
      rw [hChange]
      exact ⟨hHash, hNew⟩

end PasswordLine

------------------------------------------------------------
-- Any Number of Calls
------------------------------------------------------------

/- A call of a user whose snapshot is open has a password
   that may be set, and sees a hash that the user has had. -/
def PasswordCall.Sees
    (userID : Int)
    (values : List (String × String))
    (c : PasswordCall) : Prop :=
  ∀ view ∈ c.view,
    validatePassword c.req.newPassword = .ok () ∧
      (c.userID = userID →
        ∃ v ∈ values, passwordHashOf view userID = some v.1)

/- The line, what the calls in flight see, and what the
   calls that have failed did. -/
structure PasswordInv
    (b : Bcrypt)
    (userID : Int)
    (start : String × String)
    (events : List PasswordEvent)
    (s : PasswordState) : Prop where
  line :
    PasswordLine b userID start events s.users s.generated
  calls :
    ∀ c ∈ s.calls, c.Sees userID
      (passwordsOf start userID events)
  failed :
    ∀ e ∈ events, e.succeeded = false → e.after = e.before

namespace PasswordInv

variable
  {b : Bcrypt}
  {userID : Int}
  {start : String × String}
  {events : List PasswordEvent}

omit [Deployment] in
/- The hashes that a user has had stay such. -/
theorem sees_snoc
    {c : PasswordCall}
    (hSees : c.Sees userID (passwordsOf start userID events))
    (e : PasswordEvent) :
    c.Sees userID
      (passwordsOf start userID (events ++ [e])) := by
  intro view hView
  rcases hSees view hView with ⟨hPassword, hHash⟩
  refine ⟨hPassword, fun hUser => ?_⟩
  rcases hHash hUser with ⟨v, hMem, hSeen⟩
  refine ⟨v, ?_, hSeen⟩
  by_cases hSuccess : e.userID = userID ∧ e.succeeded
  · unfold passwordsOf
    rw [changesOf_snoc events hSuccess, Swap.values_snoc]
    exact List.mem_append_left _ hMem
  · unfold passwordsOf
    rw [changesOf_congr
      (successes_snoc_of_not events hSuccess)]
    exact hMem

omit [Deployment] in
theorem failed_snoc
    {e : PasswordEvent}
    (hFailed :
      ∀ d ∈ events, d.succeeded = false → d.after = d.before)
    (hLast : e.succeeded = false → e.after = e.before) :
    ∀ d ∈ events ++ [e],
      d.succeeded = false → d.after = d.before := by
  intro d hMem
  rcases List.mem_append.mp hMem with hOld | hNew
  · exact hFailed d hOld
  · cases List.mem_singleton.mp hNew
    exact hLast

/- A call that has come, or that has opened its snapshot. -/
theorem goes_on
    {users : Users}
    {c : PasswordCall}
    {calls rest : Multiset PasswordCall}
    {generated : List String}
    (hInv :
      PasswordInv b userID start events
        ⟨users, calls, generated⟩)
    (hRest : rest ⊆ calls)
    (hSees : c.Sees userID (passwordsOf start userID events)) :
    PasswordInv b userID start events
      ⟨users, c ::ₘ rest, generated⟩ where
  line := hInv.line
  calls := by
    intro d hMem
    rcases Multiset.mem_cons.mp hMem with rfl | hOld
    · exact hSees
    · exact hInv.calls d (hRest hOld)
  failed := hInv.failed

/- A call that ends without a change. -/
theorem quiet
    {users : Users}
    {c : PasswordCall}
    {rest : Multiset PasswordCall}
    {generated generated' : List String}
    {e : PasswordEvent}
    (hInv :
      PasswordInv b userID start events
        ⟨users, c ::ₘ rest, generated⟩)
    (hError : e.succeeded = false)
    (hKept : e.after = e.before)
    (hGenerated : generated ⊆ generated') :
    PasswordInv b userID start (events ++ [e])
      ⟨users, rest, generated'⟩ where
  line := by
    apply hInv.line.keep _ rfl hGenerated
    apply successes_snoc_of_not
    rw [hError]
    exact fun hSuccess => Bool.noConfusion hSuccess.2
  calls := fun d hMem =>
    sees_snoc (hInv.calls d (Multiset.mem_cons_of_mem hMem)) e
  failed := failed_snoc hInv.failed fun _ => hKept

/- A call that commits. Its own user's line grows; the one
   of another user does not. -/
theorem commit
    (hExact : b.Exact)
    {users users' view : Users}
    {rest : Multiset PasswordCall}
    {generated : List String}
    {callerID : Int}
    {req : UpdatePasswordRequest}
    {salt : String}
    {newHash : Option String}
    (hInv :
      PasswordInv b userID start events
        ⟨users, ⟨callerID, req, some view⟩ ::ₘ rest,
          generated⟩)
    (hHash :
      newHash =
        (UserService.hashPassword b view salt callerID
          req).toOption.map Prod.snd)
    (hFresh :
      ∀ hash, newHash = some hash →
        ∀ other ∈ generated,
          Deployment.collate hash ≠ Deployment.collate other)
    (hCommit :
      Commits
        (UserService.updatePassword b view salt callerID req)
        users () users') :
    PasswordInv b userID start
      (events ++
        [⟨callerID, req, .ok (), newHash, users, users'⟩])
      ⟨users', rest, generated ++ newHash.toList⟩ := by
  rcases commits_updatePassword hCommit with
    ⟨user, hash, row, hHashed, hRow, hSame, rfl⟩
  rw [hHashed] at hHash
  change newHash = some hash at hHash
  subst hHash
  rcases hashPassword_ok hHashed with
    ⟨hUser, hMatch, hGenerate⟩
  rcases hInv.calls _ (Multiset.mem_cons_self _ _) view rfl
    with ⟨hPassword, hSees⟩
  refine ⟨?_, ?_, ?_⟩
  case refine_2 =>
    exact fun d hMem =>
      sees_snoc
        (hInv.calls d (Multiset.mem_cons_of_mem hMem)) _
  case refine_3 =>
    exact failed_snoc hInv.failed
      fun hError => Bool.noConfusion hError
  case refine_1 =>
    by_cases hCaller : callerID = userID
    · subst hCaller
      rcases hSees rfl with ⟨v, hMem, hSeen⟩
      unfold passwordHashOf at hSeen
      rw [hUser] at hSeen
      exact hInv.line.change rfl rfl rfl rfl hRow
        (hInv.line.expected_current hMem
          (Option.some.inj hSeen) hMatch hRow hSame)
        (hExact.accepts salt req.newPassword hash hPassword
          hGenerate)
        (hFresh hash rfl)
    · apply hInv.line.keep
      · apply successes_snoc_of_not
        exact fun hSuccess => hCaller hSuccess.1
      · rw [passwordHashOf_update hRow, if_neg hCaller]
      · exact List.subset_append_left _ _

end PasswordInv

theorem PasswordStep.inv
    {b : Bcrypt}
    (hExact : b.Exact)
    {userID : Int}
    {start : String × String}
    {events : List PasswordEvent}
    {s t : PasswordState}
    {l : Option PasswordEvent}
    (hStep : PasswordStep b s l t)
    (hInv : PasswordInv b userID start events s) :
    PasswordInv b userID start (events ++ l.toList) t := by
  cases hStep with
  | arrive callerID req =>
      rw [Option.toList_none, List.append_nil]
      refine hInv.goes_on (Multiset.Subset.refl _) ?_
      intro view hView
      cases hView
  | reject hCheck =>
      exact hInv.quiet rfl rfl (List.Subset.refl _)
  | openView hCheck =>
      rw [Option.toList_none, List.append_nil]
      refine hInv.goes_on (Multiset.subset_cons _ _) ?_
      intro view hView
      cases hView
      refine ⟨UserService.validatePassword_of_check hCheck,
        fun _ => ?_⟩
      exact ⟨_, Swap.current_mem_values _ _,
        hInv.line.stored⟩
  | finish hHash hFresh hRun =>
      rcases UserService.runUpdatePassword_cases hRun with
        ⟨e, rfl, rfl⟩ | ⟨rfl, hCommit⟩
      · exact hInv.quiet rfl rfl
          (List.subset_append_left _ _)
      · exact hInv.commit hExact hHash hFresh hCommit
  | fail c e =>
      exact hInv.quiet rfl rfl (List.Subset.refl _)

/- Every run keeps the invariant. -/
theorem PasswordInv.of_run
    {b : Bcrypt}
    (hExact : b.Exact)
    {users : Users}
    {userID : Int}
    {row : User}
    {initial : String}
    (hRow : users.find? userID = some row)
    (hInitial : b.Accepts row.passwordHash initial)
    {ls : List (Option PasswordEvent)}
    {s : PasswordState}
    (hRun :
      Transition.Run (PasswordStep b)
        (PasswordState.start users) ls s) :
    PasswordInv b userID (row.passwordHash, initial)
      (passwordEvents ls) s := by
  refine hRun.history (P := fun ls t =>
    PasswordInv b userID (row.passwordHash, initial)
      (passwordEvents ls) t) ?_ ?_
  · refine ⟨PasswordLine.start_row hRow hInitial, ?_, ?_⟩
    · intro c hMem
      cases Multiset.notMem_zero c hMem
    · intro e hMem
      cases hMem
  · intro ls t l u _ hInv hStep
    rw [passwordEvents_snoc]
    exact hStep.inv hExact hInv

------------------------------------------------------------
-- Password Changes Are Linear
------------------------------------------------------------

namespace PasswordLine

variable
  {b : Bcrypt}
  {userID : Int}
  {start : String × String}
  {events : List PasswordEvent}
  {users : Users}
  {generated : List String}

theorem first
    (hLine :
      PasswordLine b userID start events users generated) :
    ∀ e ∈ (successes userID events).head?,
      e.req.oldPassword = start.2 := by
  intro e hHead
  have hFirst :
      (changesOf userID events).head? = some e.change := by
    unfold changesOf
    rw [List.head?_map, Option.mem_def.mp hHead]
    rfl
  exact congrArg Prod.snd (hLine.linear.head hFirst)

theorem chain
    (hLine :
      PasswordLine b userID start events users generated) :
    (successes userID events).IsChain fun e next =>
      next.req.oldPassword = e.req.newPassword := by
  have hChain := hLine.linear.chain
  unfold changesOf at hChain
  rw [List.isChain_map] at hChain
  exact hChain.imp fun _ _ hNext => congrArg Prod.snd hNext

omit [Deployment] in
/- The current hash and password, by the last call. -/
theorem current_eq
    (start : String × String)
    (userID : Int)
    (events : List PasswordEvent) :
    currentPasswordOf start userID events =
      (successes userID events).getLast?.elim start
        fun e => e.change.new := by
  unfold currentPasswordOf
  rw [Swap.current_eq_getLast?]
  unfold changesOf
  rw [List.getLast?_map]
  cases (successes userID events).getLast? <;> rfl

theorem replaced
    (hLine :
      PasswordLine b userID start events users generated) :
    ((successes userID events).map fun e =>
      passwordHashOf e.before userID).Nodup := by
  have hHashes :
      ((successes userID events).map fun e =>
        passwordHashOf e.before userID) =
      (successes userID events).map fun e =>
        some e.change.expected.1 :=
    List.map_congr_left fun e hMem => (hLine.known e hMem).1
  have hKeys := hLine.linear.nodup_expected hLine.fresh
  unfold changesOf at hKeys
  rw [List.map_map] at hKeys
  rw [hHashes]
  apply List.Nodup.of_map (Option.map Deployment.collate)
  rw [List.map_map]
  have hSome :
      ((successes userID events).map
        (Option.map Deployment.collate ∘
          fun e => some e.change.expected.1)) =
      ((successes userID events).map
        ((fun c => Deployment.collate c.expected.1) ∘
          PasswordEvent.change)).map some := by
    rw [List.map_map]
    rfl
  rw [hSome]
  exact hKeys.map (Option.some_injective _)

end PasswordLine

/-
  What a user may expect of the calls that change the
  password. Each of them that returns nil has the password
  of the one before it, the stored hash is that of the last
  one, and no hash is replaced twice. The other calls change
  nothing.
-/
structure PasswordsLinear
    (b : Bcrypt)
    (users : Users)
    (userID : Int)
    (initial : String)
    (events : List PasswordEvent)
    (s : PasswordState) : Prop where
  first :
    ∀ e ∈ (successes userID events).head?,
      e.req.oldPassword = initial
  chain :
    (successes userID events).IsChain fun e next =>
      next.req.oldPassword = e.req.newPassword
  stored :
    passwordHashOf s.users userID =
      (successes userID events).getLast?.elim
        (passwordHashOf users userID)
        PasswordEvent.newHash
  verifies :
    ∀ hash ∈ passwordHashOf s.users userID,
      b.Accepts hash
        ((successes userID events).getLast?.elim initial
          fun e => e.req.newPassword)
  replaced :
    ((successes userID events).map fun e =>
      passwordHashOf e.before userID).Nodup
  failed :
    ∀ e ∈ events, e.succeeded = false → e.after = e.before

/- Whatever the interleaving, the password changes of a user
   happen one after the other. -/
theorem passwords_linear
    {b : Bcrypt}
    (hExact : b.Exact)
    {users : Users}
    {userID : Int}
    {row : User}
    {initial : String}
    (hRow : users.find? userID = some row)
    (hInitial : b.Accepts row.passwordHash initial)
    {ls : List (Option PasswordEvent)}
    {s : PasswordState}
    (hRun :
      Transition.Run (PasswordStep b)
        (PasswordState.start users) ls s) :
    PasswordsLinear b users userID initial
      (passwordEvents ls) s := by
  have hInv :=
    PasswordInv.of_run hExact hRow hInitial hRun
  have hLine := hInv.line
  have hCurrent :=
    PasswordLine.current_eq (row.passwordHash, initial)
      userID (passwordEvents ls)
  have hFirst :
      passwordHashOf users userID =
        some row.passwordHash := by
    unfold passwordHashOf
    rw [hRow]
    rfl
  refine ⟨hLine.first, hLine.chain, ?_, ?_,
    hLine.replaced, hInv.failed⟩
  case refine_1 =>
    rw [hLine.stored, hCurrent]
    cases hLast :
        (successes userID (passwordEvents ls)).getLast? with
    | none => exact hFirst.symm
    | some e =>
        have hMem := List.mem_of_getLast? hLast
        exact (hLine.known e hMem).2.symm
  case refine_2 =>
    intro hash hStored
    rw [hLine.stored] at hStored
    cases hStored
    have hAccepts :=
      hLine.accepts _ (Swap.current_mem_values _ _)
    change b.Accepts
      (currentPasswordOf (row.passwordHash, initial) userID
        (passwordEvents ls)).1
      (currentPasswordOf (row.passwordHash, initial) userID
        (passwordEvents ls)).2 at hAccepts
    rw [hCurrent] at hAccepts ⊢
    cases hLast :
        (successes userID (passwordEvents ls)).getLast? with
    | none =>
        rw [hLast] at hAccepts
        exact hAccepts
    | some e =>
        rw [hLast] at hAccepts
        exact hAccepts

end OrderManagement

------------------------------------------------------------
-- A Race for a Password
------------------------------------------------------------

namespace OrderManagement

attribute [local instance] sampleDeployment

/- A salt, a password, and the hash of the two. -/
def sampleHashes : List (String × String × String) :=
  [ ("$2a$10$fVH8e28OQRj9tqiDXs1e1u", "secret1",
      "$2a$10$fVH8e28OQRj9tqiDXs1e1uvqX9IwY3jldBox4YzcAezjoIM.UUtdW"),
    ("$2a$10$LgfYWkbzEvQ4JakH7rOvHe", "secret2",
      "$2a$10$LgfYWkbzEvQ4JakH7rOvHe6pMyVfFMdqZHk0MYgOQ7SO2jsUw/0Xq"),
    ("$2a$10$XajjQvNhvvRt5GSeFk1xFe", "secret3",
      "$2a$10$XajjQvNhvvRt5GSeFk1xFeL/foHtpAB5DdACd.cRTK4zPXpGIIBNu") ]

def sampleBcrypt : Bcrypt where
  generateFromPassword salt password :=
    match sampleHashes.find? fun entry =>
        entry.1 = salt ∧ entry.2.1 = password with
    | none => .error .bcrypt
    | some entry => .ok entry.2.2
  compareHashAndPassword hash password :=
    sampleHashes.any fun entry =>
      entry.2.2 = hash ∧ entry.2.1 = password

theorem sampleBcrypt_accepts
    {entry : String × String × String}
    (hMem : entry ∈ sampleHashes) :
    sampleBcrypt.Accepts entry.2.2 entry.2.1 := by
  have hDistinct :
      ∀ e ∈ sampleHashes, ∀ e' ∈ sampleHashes,
        e.2.2 = e'.2.2 → e.2.1 = e'.2.1 := by
    decide +kernel
  intro q
  simp only [sampleBcrypt, List.any_eq_true,
    decide_eq_true_eq]
  constructor
  · rintro ⟨other, hOther, hHash, rfl⟩
    exact hDistinct other hOther entry hMem hHash
  · rintro rfl
    exact ⟨entry, hMem, rfl, rfl⟩

theorem sampleBcrypt_exact : sampleBcrypt.Exact where
  accepts := by
    intro salt password hash _ hGenerate
    simp only [sampleBcrypt] at hGenerate
    split at hGenerate
    case h_1 => cases hGenerate
    case h_2 entry hFound =>
      cases hGenerate
      have hBoth := List.find?_some hFound
      simp only [decide_eq_true_eq] at hBoth
      rw [← hBoth.2]
      exact sampleBcrypt_accepts
        (List.mem_of_find?_eq_some hFound)

/- A user whose password is the first one of the table. -/
def sampleUser : User where
  id := 7
  passwordHash :=
    "$2a$10$fVH8e28OQRj9tqiDXs1e1uvqX9IwY3jldBox4YzcAezjoIM.UUtdW"
  deletedAt := none

def sampleUsers : Users where
  rows := [sampleUser]
  nodup := List.nodup_singleton _

/- A call of the sample race. Its snapshot is the table at
   the start of the race. -/
def sampleChange
    (salt newPassword : String)
    (users : Users) : PasswordEvent :=
  let req : UpdatePasswordRequest :=
    ⟨"secret1", newPassword⟩
  let result :=
    UserService.runUpdatePassword sampleBcrypt sampleUsers
      salt 7 req users
  { userID := 7
    req := req
    response := result.1
    newHash :=
      (UserService.hashPassword sampleBcrypt sampleUsers salt
        7 req).toOption.map Prod.snd
    before := users
    after := result.2 }

theorem sampleChange_step
    {salt newPassword : String}
    {users : Users}
    {rest : Multiset PasswordCall}
    {generated : List String}
    (hFresh :
      ∀ hash ∈ (sampleChange salt newPassword users).newHash,
        ∀ other ∈ generated,
          Deployment.collate hash ≠
            Deployment.collate other) :
    PasswordStep sampleBcrypt
      ⟨users,
        ⟨7, ⟨"secret1", newPassword⟩, some sampleUsers⟩ ::ₘ
          rest,
        generated⟩
      (some (sampleChange salt newPassword users))
      ⟨(sampleChange salt newPassword users).after, rest,
        generated ++
          (sampleChange salt newPassword
            users).newHash.toList⟩ :=
  .finish rfl hFresh rfl

/- Both calls verify the old password before one of them
   changes it. -/
def winningChange : PasswordEvent :=
  sampleChange "$2a$10$XajjQvNhvvRt5GSeFk1xFe" "secret3"
    sampleUsers

def losingChange : PasswordEvent :=
  sampleChange "$2a$10$LgfYWkbzEvQ4JakH7rOvHe" "secret2"
    winningChange.after

theorem passwords_raced :
    Transition.Run (PasswordStep sampleBcrypt)
      (PasswordState.start sampleUsers)
      [none, none, none, none, some winningChange,
        some losingChange]
      ⟨losingChange.after, 0,
        sampleUsers.rows.map User.passwordHash ++
          winningChange.newHash.toList ++
          losingChange.newHash.toList⟩ := by
  have hOpened :
      Transition.Run (PasswordStep sampleBcrypt)
        (PasswordState.start sampleUsers)
        [none, none, none, none]
        ⟨sampleUsers,
          ⟨7, ⟨"secret1", "secret3"⟩, some sampleUsers⟩ ::ₘ
            ⟨7, ⟨"secret1", "secret2"⟩, some sampleUsers⟩ ::ₘ
              0,
          sampleUsers.rows.map User.passwordHash⟩ :=
    (((Transition.Run.single
      (.arrive _ 7 ⟨"secret1", "secret2"⟩)).snoc
      (.openView (by decide))).snoc
      (.arrive _ 7 ⟨"secret1", "secret3"⟩)).snoc
      (.openView (by decide))
  exact (hOpened.snoc
    (sampleChange_step (by decide +kernel))).snoc
    (sampleChange_step (by decide +kernel))

theorem passwords_linear_raced :
    PasswordsLinear sampleBcrypt sampleUsers 7 "secret1"
        [winningChange, losingChange]
        ⟨losingChange.after, 0,
          sampleUsers.rows.map User.passwordHash ++
            winningChange.newHash.toList ++
            losingChange.newHash.toList⟩ ∧
      winningChange.response = .ok () ∧
      losingChange.response =
        .error .passwordUpdateConflict := by
  have hRow : sampleUsers.find? 7 = some sampleUser := by
    decide +kernel
  have hInitial :
      sampleBcrypt.Accepts sampleUser.passwordHash
        "secret1" :=
    sampleBcrypt_accepts List.mem_cons_self
  refine ⟨passwords_linear sampleBcrypt_exact hRow hInitial
    passwords_raced, ?_, ?_⟩
  · decide +kernel
  · decide +kernel

end OrderManagement
