import OrderManagement.Middleware.Auth
import OrderManagement.System.Passwords
import Mathlib.Data.List.GetD

/-
  Accounts, tokens, and the routes for administrators, as one
  system. Users register, log in, and change what is theirs;
  a database administrator promotes accounts by hand; and
  anybody sends requests with any header. Of the signatures
  it is assumed that nobody else can make one, and of bcrypt
  that it tells apart what it reads apart.

  Main declarations:
    * `Access` and `AccessStep`
    * `AccountDB.Moved` and `AccessStep.moved`
    * `AccountsInv` for the tables
    * `Bcrypt.Lawful`, `passwordOf`, and `HashesInv`
    * `AccessInv` for logins and tokens
    * `login_exact` and `roles_exact`
    * `registered_once`
    * `admin_access`
-/

namespace OrderManagement

open Transaction

variable [Deployment]

------------------------------------------------------------
-- States
------------------------------------------------------------

/- A login that has passed its checks, and whether it has
   written the time of the login. -/
structure LoginCall where
  account : Account
  stamped : Bool

/- A token that was handed out. -/
structure Issue where
  token : String
  userID : Int
  username : String
  time : Time

inductive AccessEvent
| silent
| registered
    (id : Int)
    (req : RegisterRequest)
    (response : Except AccountErr Unit)
| passwordChanged
    (userID : Int)
    (req : UpdatePasswordRequest)
    (response : Except UserErr Unit)
| checked
    (req : LoginRequest)
    (result : Except AccountErr Account)
| issued (issue : Issue)
| promoted (userID : Int)
| answered
    (header : String)
    (now : Time)
    (answer : Except AccessCode TokenIdentity)

structure Access where
  db : AccountDB
  now : Time
  logins : Multiset LoginCall
  issued : List Issue

/- The tables of the migrations, and no token. -/
def Access.initial
    (now : Time) : Access where
  db := AccountDB.migrated
  now := now
  logins := 0
  issued := []

/- The statement of the permission design, which gives an
   account the role of administrators in place of its own. -/
def AccountDB.promote
    (db : AccountDB)
    (a : Account)
    (role : Role)
    (hAccount : (db.accounts.find? a.id).isSome)
    (hRole : (db.roles.find? role.id).isSome) :
    AccountDB where
  accounts := db.accounts
  roles := db.roles
  userRoles := db.userRoles.put ⟨a.id, role.id⟩
  userRoles_owned r hMem := by
    rcases List.mem_append.mp hMem with hKept | hNew
    · exact db.userRoles_owned r (List.mem_filter.mp hKept).1
    · rw [List.mem_singleton.mp hNew]
      exact ⟨hAccount, hRole⟩

------------------------------------------------------------
-- Steps
------------------------------------------------------------

/-
  A registration and a password change are transactions, and
  end in one step. A login is three statements, and other
  calls may run between them.
-/
inductive AccessStep
    (b : Bcrypt)
    (jwt : JWT)
    (m : TokenManager) :
    Access → AccessEvent → Access → Prop
| tick
    (s : Access)
    {now : Time}
    (hLater : s.now ≤ now) :
    AccessStep b jwt m s .silent { s with now := now }
| register
    {s : Access}
    {salt : String}
    {id : Int}
    {req : RegisterRequest}
    {response : Except AccountErr Unit}
    {db' : AccountDB}
    (hID : 0 < id)
    (hFresh : s.db.accounts.find? id = none)
    (hRun :
      UserService.register b salt id req s.db =
        (response, db')) :
    AccessStep b jwt m s (.registered id req response)
      { s with db := db' }
| changePassword
    {s : Access}
    {view db' : AccountDB}
    {salt : String}
    {userID : Int}
    {req : UpdatePasswordRequest}
    {response : Except UserErr Unit}
    (hRun :
      UserService.changePassword b view salt userID req s.db =
        (response, db')) :
    AccessStep b jwt m s
      (.passwordChanged userID req response)
      { s with db := db' }
| updateNickname
    {s : Access}
    {view rolesView : AccountDB}
    {userID : Int}
    {nickname trimmed : String}
    (hCheck :
      UserService.checkUpdateNickname view rolesView userID
        nickname = .ok trimmed) :
    AccessStep b jwt m s .silent
      { s with
        db := UserService.updateNickname s.db userID trimmed }
| refuse
    {s : Access}
    {req : LoginRequest}
    {e : AccountErr}
    (hCheck :
      UserService.checkLogin b s.db req = .error e) :
    AccessStep b jwt m s (.checked req (.error e)) s
| accept
    {s : Access}
    {req : LoginRequest}
    {a : Account}
    (hCheck : UserService.checkLogin b s.db req = .ok a) :
    AccessStep b jwt m s (.checked req (.ok a))
      { s with logins := ⟨a, false⟩ ::ₘ s.logins }
| stamp
    {db : AccountDB}
    {now : Time}
    {a : Account}
    {rest : Multiset LoginCall}
    {issued : List Issue} :
    AccessStep b jwt m ⟨db, now, ⟨a, false⟩ ::ₘ rest, issued⟩
      .silent
      ⟨UserService.updateLastLoginAt db a.id now, now,
        ⟨a, true⟩ ::ₘ rest, issued⟩
| issue
    {db : AccountDB}
    {now : Time}
    {a : Account}
    {rest : Multiset LoginCall}
    {issued : List Issue}
    {token : String}
    (hToken :
      m.generateAccessToken jwt now a.id a.username =
        .ok token)
    (hFits :
      (m.accessClaims jwt now a.id
        (ProductService.trimSpace
          a.username)).Representable) :
    AccessStep b jwt m ⟨db, now, ⟨a, true⟩ ::ₘ rest, issued⟩
      (.issued ⟨token, a.id, a.username, now⟩)
      ⟨db, now, rest, issued ++ [⟨token, a.id, a.username, now⟩]⟩
| lose
    {db : AccountDB}
    {now : Time}
    {rest : Multiset LoginCall}
    {issued : List Issue}
    (c : LoginCall) :
    AccessStep b jwt m ⟨db, now, c ::ₘ rest, issued⟩ .silent
      ⟨db, now, rest, issued⟩
| promote
    {s : Access}
    {a : Account}
    {role : Role}
    (hAccount : (s.db.accounts.find? a.id).isSome)
    (hRole : (s.db.roles.find? role.id).isSome)
    (hAdmin : Dao.getRoleByRoleName s.db roleAdmin = some role) :
    AccessStep b jwt m s (.promoted a.id)
      { s with
        db := s.db.promote a role hAccount hRole }
| administer
    {s : Access}
    {id : Int}
    {f : Account → Account}
    (hID : ∀ a, (f a).id = a.id)
    (hName : ∀ a, (f a).username = a.username)
    (hHash : ∀ a, (f a).passwordHash = a.passwordHash) :
    AccessStep b jwt m s .silent
      { s with db := s.db.modify id f hID hName }
| answer
    {s : Access}
    {header : String}
    {hasRole : Int → Option Bool}
    (hUnforged :
      ∀ token, bearerToken header = .ok token →
        jwt.verify m.secret token = true →
          ∃ i ∈ s.issued, i.token = token)
    (hQuery :
      ∀ userID allowed, hasRole userID = some allowed →
        allowed = Dao.userHasRole s.db userID roleAdmin) :
    AccessStep b jwt m s
      (.answered header s.now
        (m.adminAnswer jwt s.now hasRole header))
      s

/- What an answer rests on. -/
theorem AccessStep.answered
    {b : Bcrypt}
    {jwt : JWT}
    {m : TokenManager}
    {s t : Access}
    {header : String}
    {now : Time}
    {answer : Except AccessCode TokenIdentity}
    (hStep :
      AccessStep b jwt m s (.answered header now answer) t) :
    now = s.now ∧
      ∃ hasRole,
        (∀ token, bearerToken header = .ok token →
          jwt.verify m.secret token = true →
            ∃ i ∈ s.issued, i.token = token) ∧
        (∀ userID allowed, hasRole userID = some allowed →
          allowed = Dao.userHasRole s.db userID roleAdmin) ∧
        answer = m.adminAnswer jwt s.now hasRole header := by
  cases hStep with
  | answer hUnforged hQuery =>
      exact ⟨rfl, _, hUnforged, hQuery, rfl⟩

------------------------------------------------------------
-- The Effect of a Password Change
------------------------------------------------------------

/- An UPDATE of a hash by itself. -/
def AccountDB.setHash
    (db : AccountDB)
    (userID : Int)
    (newHash : String) : AccountDB :=
  db.modify userID
    (fun a => { a with passwordHash := newHash })
    (fun _ => rfl)
    (fun _ => rfl)

/- A password change fails and changes nothing, or it stores
   the hash of the new password, and no more. -/
theorem UserService.changePassword_cases
    {b : Bcrypt}
    {view db db' : AccountDB}
    {salt : String}
    {userID : Int}
    {req : UpdatePasswordRequest}
    {response : Except UserErr Unit}
    (hRun :
      changePassword b view salt userID req db =
        (response, db')) :
    (∃ e, response = .error e ∧ db' = db) ∨
      response = .ok () ∧
        ∃ newHash,
          validatePassword req.newPassword = .ok () ∧
            b.generateFromPassword salt req.newPassword =
              .ok newHash ∧
            db' = db.setHash userID newHash := by
  unfold changePassword at hRun
  split at hRun
  case h_1 e _ =>
    cases hRun
    exact Or.inl ⟨e, rfl, rfl⟩
  case h_2 hCheck =>
    split at hRun
    case h_1 e _ =>
      cases hRun
      exact Or.inl ⟨e, rfl, rfl⟩
    case h_2 users hTx =>
      cases hRun
      rcases commits_updatePassword hTx with
        ⟨user, newHash, row, hHash, hRow, _, rfl⟩
      refine Or.inr ⟨rfl, newHash,
        validatePassword_of_check hCheck,
        (hashPassword_ok hHash).2.2, ?_⟩
      have hKey : row.id = userID := Table.key_of_find? hRow
      have hStored :
          (db.users.update
              { row with passwordHash := newHash }).find?
              userID =
            some { row with passwordHash := newHash } := by
        rw [Table.find?_update, hRow]
        simp [hKey]
      unfold putHashes AccountDB.setHash
      simp only [hStored, Option.map_some, Option.getD_some]

------------------------------------------------------------
-- Registrations
------------------------------------------------------------

omit [Deployment] in
/- The id and the name of an account that an event makes. -/
def AccessEvent.account? : AccessEvent → Option (Int × String)
| .registered id req (.ok _) =>
    some (id, ProductService.trimSpace req.username)
| _ => none

omit [Deployment] in
/- The accounts that were registered, in order. -/
def registrations
    (events : List AccessEvent) : List (Int × String) :=
  events.filterMap AccessEvent.account?

omit [Deployment] in
theorem registrations_snoc
    (events : List AccessEvent)
    (e : AccessEvent) :
    registrations (events ++ [e]) =
      registrations events ++ e.account?.toList := by
  unfold registrations
  rw [List.filterMap_append]
  cases hAccount : e.account? with
  | none => simp [hAccount]
  | some r => simp [hAccount]

------------------------------------------------------------
-- The Tables
------------------------------------------------------------

omit [Deployment] in
/- The password that an event sets for a user. -/
def AccessEvent.sets
    (userID : Int) : AccessEvent → Option String
| .registered id req (.ok _) =>
    if id = userID then some req.password else none
| .passwordChanged id req (.ok _) =>
    if id = userID then some req.newPassword else none
| _ => none

/- The events that say nothing of the tables. -/
inductive AccessEvent.Quiet : AccessEvent → Prop
| silent : Quiet .silent
| failedRegister
    (id : Int)
    (req : RegisterRequest)
    (e : AccountErr) :
    Quiet (.registered id req (.error e))
| failedChange
    (userID : Int)
    (req : UpdatePasswordRequest)
    (e : UserErr) :
    Quiet (.passwordChanged userID req (.error e))
| checked
    (req : LoginRequest)
    (result : Except AccountErr Account) :
    Quiet (.checked req result)
| issued
    (issue : Issue) :
    Quiet (.issued issue)
| answered
    (header : String)
    (now : Time)
    (answer : Except AccessCode TokenIdentity) :
    Quiet (.answered header now answer)

omit [Deployment] in
theorem AccessEvent.Quiet.nothing
    {e : AccessEvent}
    (hQuiet : e.Quiet) :
    (∀ id, e.sets id = none) ∧ e.account? = none ∧
      ∀ id, .promoted id ≠ e := by
  cases hQuiet <;> simp [AccessEvent.sets, AccessEvent.account?]

/-
  What a step does to the tables: nothing, an UPDATE of other
  columns of an account, a new account with its role, a new
  hash, or a promotion.
-/
inductive AccountDB.Moved
    (b : Bcrypt) :
    AccountDB → AccessEvent → AccountDB → Prop
| same
    {db : AccountDB}
    {e : AccessEvent}
    (hQuiet : e.Quiet) :
    Moved b db e db
| modified
    {db : AccountDB}
    {e : AccessEvent}
    {id : Int}
    {f : Account → Account}
    (hID : ∀ a, (f a).id = a.id)
    (hName : ∀ a, (f a).username = a.username)
    (hHash : ∀ a, (f a).passwordHash = a.passwordHash)
    (hQuiet : e.Quiet) :
    Moved b db e (db.modify id f hID hName)
| registered
    {db db' : AccountDB}
    {id : Int}
    {req : RegisterRequest}
    {salt passwordHash : String}
    {role : Role}
    (hFresh : db.accounts.find? id = none)
    (hPassword : validatePassword req.password = .ok ())
    (hHash :
      b.generateFromPassword salt req.password =
        .ok passwordHash)
    (hInsert :
      db.accounts.insert?
          (UserService.newAccount id
            (ProductService.trimSpace req.username)
            passwordHash) =
        some db'.accounts)
    (hSeeded : db'.roles = db.roles)
    (hRole : Dao.getRoleByRoleName db roleUser = some role)
    (hInsertRole :
      db.userRoles.insert? ⟨id, role.id⟩ =
        some db'.userRoles) :
    Moved b db (.registered id req (.ok ())) db'
| rehashed
    {db : AccountDB}
    {userID : Int}
    {req : UpdatePasswordRequest}
    {salt newHash : String}
    (hPassword : validatePassword req.newPassword = .ok ())
    (hHash :
      b.generateFromPassword salt req.newPassword =
        .ok newHash) :
    Moved b db (.passwordChanged userID req (.ok ()))
      (db.setHash userID newHash)
| promoted
    {db : AccountDB}
    {a : Account}
    {role : Role}
    (hAccount : (db.accounts.find? a.id).isSome)
    (hRole : (db.roles.find? role.id).isSome)
    (hAdmin : Dao.getRoleByRoleName db roleAdmin = some role) :
    Moved b db (.promoted a.id)
      (db.promote a role hAccount hRole)

/- The accounts after a registration. -/
theorem AccountDB.find?_registered
    {db db' : AccountDB}
    {id : Int}
    {username passwordHash : String}
    (hInsert :
      db.accounts.insert?
          (UserService.newAccount id username passwordHash) =
        some db'.accounts)
    (other : Int) :
    db'.accounts.find? other =
      if id = other then
        some (UserService.newAccount id username passwordHash)
      else db.accounts.find? other :=
  Accounts.find?_of_insert? hInsert other

theorem AccessStep.moved
    {b : Bcrypt}
    {jwt : JWT}
    {m : TokenManager}
    {s t : Access}
    {e : AccessEvent}
    (hStep : AccessStep b jwt m s e t) :
    s.db.Moved b e t.db := by
  cases hStep with
  | tick s hLater => exact .same .silent
  | register hID hFresh hRun =>
      rcases UserService.register_cases hRun with
        ⟨e, rfl, rfl⟩ | ⟨rfl, username, hash, hCheck, hHash, hTx⟩
      · exact .same (.failedRegister _ _ e)
      · rcases UserService.checkRegister_eq_ok_iff.mp
          hCheck with ⟨rfl, _, _, hPassword⟩
        rcases UserService.commits_registerTx hTx with
          ⟨hInsert, hSeeded, role, hRole, hInsertRole⟩
        exact .registered hFresh hPassword hHash hInsert
          hSeeded hRole hInsertRole
  | changePassword hRun =>
      rcases UserService.changePassword_cases hRun with
        ⟨e, rfl, rfl⟩ | ⟨rfl, newHash, hPassword, hHash, rfl⟩
      · exact .same (.failedChange _ _ e)
      · exact .rehashed hPassword hHash
  | updateNickname hCheck =>
      refine .modified _ _ ?_ .silent
      intro a
      split <;> rfl
  | refuse hCheck => exact .same (.checked _ _)
  | accept hCheck => exact .same (.checked _ _)
  | stamp =>
      refine .modified _ _ ?_ .silent
      intro a
      split <;> rfl
  | issue hToken hFits => exact .same (.issued _)
  | lose c => exact .same .silent
  | promote hAccount hRole hAdmin =>
      exact .promoted hAccount hRole hAdmin
  | administer hID hName hHash =>
      exact .modified hID hName hHash .silent
  | answer hUnforged hQuery => exact .same (.answered _ _ _)

------------------------------------------------------------
-- The Invariant of the Tables
------------------------------------------------------------

/-
  The accounts are those that were registered, and a user has
  one role, which is that of administrators once promoted.
-/
structure AccountsInv
    (events : List AccessEvent)
    (db : AccountDB) : Prop where
  roles : db.roles = AccountDB.migrated.roles
  accounts :
    (db.accounts.rows.map fun a => (a.id, a.username)) =
      registrations events
  bound :
    ∀ id, (db.accounts.find? id).isSome →
      (db.userRoles.find? id).isSome
  standing :
    ∀ id ur, db.userRoles.find? id = some ur →
      (ur.roleID = 2 ∧ .promoted id ∉ events) ∨
        (ur.roleID = 1 ∧ .promoted id ∈ events)
  known :
    ∀ id, .promoted id ∈ events →
      (db.accounts.find? id).isSome

theorem AccountDB.roleOf_admin
    {db : AccountDB}
    (hSeeded : db.roles = AccountDB.migrated.roles) :
    Dao.getRoleByRoleName db roleAdmin =
      some ⟨1, roleAdmin⟩ := by
  unfold Dao.getRoleByRoleName
  rw [hSeeded]
  simp [AccountDB.migrated]

theorem AccountDB.roleOf_user
    {db : AccountDB}
    (hRoles :
      Deployment.collate roleAdmin ≠
        Deployment.collate roleUser)
    (hSeeded : db.roles = AccountDB.migrated.roles) :
    Dao.getRoleByRoleName db roleUser =
      some ⟨2, roleUser⟩ := by
  unfold Dao.getRoleByRoleName
  rw [hSeeded]
  simp [AccountDB.migrated, hRoles]

namespace AccountsInv

variable
    {b : Bcrypt}
    {events : List AccessEvent}
    {db : AccountDB}

theorem migrated :
    AccountsInv [] AccountDB.migrated where
  roles := rfl
  accounts := rfl
  bound _ hFind := by cases hFind
  standing _ _ hFind := by cases hFind
  known _ hMem := by cases hMem

theorem quiet
    (hInv : AccountsInv events db)
    {e : AccessEvent}
    (hQuiet : e.Quiet) :
    AccountsInv (events ++ [e]) db := by
  rcases hQuiet.nothing with ⟨_, hAccount, hPromoted⟩
  have hSame :
      ∀ id, .promoted id ∈ events ++ [e] ↔
        .promoted id ∈ events := by
    intro id
    simp [hPromoted]
  refine ⟨hInv.roles, ?_, hInv.bound, ?_, ?_⟩
  · rw [registrations_snoc, hAccount, hInv.accounts]
    exact (List.append_nil _).symm
  · intro id ur hFind
    rw [hSame]
    exact hInv.standing id ur hFind
  · intro id hMem
    exact hInv.known id ((hSame id).mp hMem)

/- An UPDATE of columns of one account. -/
theorem modify
    (hInv : AccountsInv events db)
    {userID : Int}
    {f : Account → Account}
    (hID : ∀ a, (f a).id = a.id)
    (hName : ∀ a, (f a).username = a.username) :
    AccountsInv events (db.modify userID f hID hName) := by
  have hSome :
      ∀ id,
        ((db.modify userID f hID hName).accounts.find?
            id).isSome =
          (db.accounts.find? id).isSome := by
    intro id
    unfold AccountDB.modify
    rw [Accounts.find?_modify, Option.isSome_map]
  refine ⟨hInv.roles, ?_, ?_, hInv.standing, ?_⟩
  · rw [← hInv.accounts]
    exact db.accounts.names_modify userID f hID hName
  · intro id hFind
    rw [hSome] at hFind
    exact hInv.bound id hFind
  · intro id hMem
    rw [hSome]
    exact hInv.known id hMem

/- A new account has the default role. -/
theorem register
    (hInv : AccountsInv events db)
    (hRoles :
      Deployment.collate roleAdmin ≠
        Deployment.collate roleUser)
    {passwordHash : String}
    {id : Int}
    {req : RegisterRequest}
    {role : Role}
    {db' : AccountDB}
    (hFresh : db.accounts.find? id = none)
    (hInsert :
      db.accounts.insert?
          (UserService.newAccount id
            (ProductService.trimSpace req.username)
            passwordHash) =
        some db'.accounts)
    (hSeeded : db'.roles = db.roles)
    (hRole : Dao.getRoleByRoleName db roleUser = some role)
    (hInsertRole :
      db.userRoles.insert? ⟨id, role.id⟩ =
        some db'.userRoles) :
    AccountsInv (events ++ [.registered id req (.ok ())])
      db' := by
  rw [AccountDB.roleOf_user hRoles hInv.roles] at hRole
  cases hRole
  have hRows := (Accounts.insert?_eq_some_iff.mp hInsert).2.2
  have hFind := AccountDB.find?_registered hInsert
  have hFindRole :
      ∀ other,
        db'.userRoles.find? other =
          if id = other then some ⟨id, 2⟩
          else db.userRoles.find? other :=
    Table.find?_of_insert? hInsertRole
  have hSame :
      ∀ other,
        .promoted other ∈
            events ++ [.registered id req (.ok ())] ↔
          .promoted other ∈ events := by
    intro other
    simp
  refine ⟨hSeeded.trans hInv.roles, ?_, ?_, ?_, ?_⟩
  case refine_1 =>
    rw [hRows, List.map_append, hInv.accounts,
      registrations_snoc]
    rfl
  case refine_2 =>
    intro other hOther
    rw [hFind] at hOther
    rw [hFindRole]
    by_cases hNew : id = other
    · simp [hNew]
    · rw [if_neg hNew] at hOther
      simpa [hNew] using hInv.bound other hOther
  case refine_3 =>
    intro other ur hOther
    rw [hSame]
    rw [hFindRole] at hOther
    by_cases hNew : id = other
    · rw [if_pos hNew] at hOther
      cases hOther
      refine Or.inl ⟨rfl, fun hMem => ?_⟩
      have hKnown := hInv.known other hMem
      rw [← hNew, hFresh] at hKnown
      cases hKnown
    · rw [if_neg hNew] at hOther
      exact hInv.standing other ur hOther
  case refine_4 =>
    intro other hMem
    rw [hFind]
    split
    · rfl
    · exact hInv.known other ((hSame other).mp hMem)

/- A password change makes no account and no role. -/
theorem rehashed
    (hInv : AccountsInv events db)
    {newHash : String}
    {userID : Int}
    {req : UpdatePasswordRequest} :
    AccountsInv
      (events ++ [.passwordChanged userID req (.ok ())])
      (db.setHash userID newHash) := by
  have hKept : AccountsInv events (db.setHash userID newHash) :=
    hInv.modify _ _
  refine ⟨hKept.roles, ?_, hKept.bound, ?_, ?_⟩
  · rw [registrations_snoc, hKept.accounts]
    exact (List.append_nil _).symm
  · intro id ur hFind
    simpa using hKept.standing id ur hFind
  · intro id hMem
    exact hKept.known id (by simpa using hMem)

/- A promotion replaces the role of one user. -/
theorem promote
    (hInv : AccountsInv events db)
    {a : Account}
    {role : Role}
    (hAccount : (db.accounts.find? a.id).isSome)
    (hRole : (db.roles.find? role.id).isSome)
    (hAdmin :
      Dao.getRoleByRoleName db roleAdmin = some role) :
    AccountsInv (events ++ [.promoted a.id])
      (db.promote a role hAccount hRole) := by
  rw [AccountDB.roleOf_admin hInv.roles] at hAdmin
  cases hAdmin
  have hFind :
      ∀ id, (db.promote a ⟨1, roleAdmin⟩ hAccount
          hRole).userRoles.find? id =
        if a.id = id then some ⟨a.id, 1⟩
        else db.userRoles.find? id :=
    db.userRoles.find?_put ⟨a.id, 1⟩
  refine ⟨hInv.roles, ?_, ?_, ?_, ?_⟩
  case refine_1 =>
    rw [registrations_snoc, ← hInv.accounts]
    exact (List.append_nil _).symm
  case refine_2 =>
    intro id hSome
    rw [hFind]
    split
    · rfl
    · exact hInv.bound id hSome
  case refine_3 =>
    intro id ur hUserRole
    rw [hFind] at hUserRole
    split at hUserRole
    case isTrue hSame =>
      cases hUserRole
      exact Or.inr ⟨rfl, by simp [hSame]⟩
    case isFalse hOther =>
      simpa [Ne.symm hOther]
        using hInv.standing id ur hUserRole
  case refine_4 =>
    intro id hMem
    rw [List.mem_append, List.mem_singleton] at hMem
    rcases hMem with hMem | hNew
    · exact hInv.known id hMem
    · cases hNew
      exact hAccount

theorem moved
    (hRoles :
      Deployment.collate roleAdmin ≠
        Deployment.collate roleUser)
    (hInv : AccountsInv events db)
    {e : AccessEvent}
    {db' : AccountDB}
    (hMoved : db.Moved b e db') :
    AccountsInv (events ++ [e]) db' := by
  cases hMoved with
  | same hQuiet => exact hInv.quiet hQuiet
  | modified hID hName hHash hQuiet =>
      exact (hInv.modify hID hName).quiet hQuiet
  | registered hFresh hPassword hHash hInsert hSeeded hRole
      hInsertRole =>
      exact hInv.register hRoles hFresh hInsert hSeeded hRole
        hInsertRole
  | rehashed hPassword hHash => exact hInv.rehashed
  | promoted hAccount hRole hAdmin =>
      exact hInv.promote hAccount hRole hAdmin

/- The tables are so in every run. -/
theorem of_run
    {jwt : JWT}
    {m : TokenManager}
    (hRoles :
      Deployment.collate roleAdmin ≠
        Deployment.collate roleUser)
    {start : Time}
    {s : Access}
    (hRun :
      Transition.Run (AccessStep b jwt m)
        (Access.initial start) events s) :
    AccountsInv events s.db :=
  hRun.history (P := fun events s => AccountsInv events s.db)
    migrated
    fun _ _ _ _ _ hInv hStep => hInv.moved hRoles hStep.moved

/- The table of roles gives a name to both ids. -/
theorem find?_role
    (hInv : AccountsInv events db) :
    db.roles.find? 1 = some ⟨1, roleAdmin⟩ ∧
      db.roles.find? 2 = some ⟨2, roleUser⟩ := by
  rw [hInv.roles]
  exact ⟨rfl, rfl⟩

theorem hasRole_admin_iff
    (hInv : AccountsInv events db)
    (hRoles :
      Deployment.collate roleAdmin ≠
        Deployment.collate roleUser)
    (userID : Int) :
    Dao.userHasRole db userID roleAdmin = true ↔
      .promoted userID ∈ events := by
  rw [Dao.userHasRole_iff]
  constructor
  · rintro ⟨ur, role, hFind, hRole, hName⟩
    rcases hInv.standing userID ur hFind with
      ⟨hDefault, _⟩ | ⟨_, hMem⟩
    · rw [hDefault, hInv.find?_role.2] at hRole
      cases hRole
      exact (hRoles hName.symm).elim
    · exact hMem
  · intro hMem
    rcases Option.isSome_iff_exists.mp
      (hInv.bound userID (hInv.known userID hMem)) with
      ⟨ur, hFind⟩
    rcases hInv.standing userID ur hFind with
      ⟨_, hNever⟩ | ⟨hAdmin, _⟩
    · exact (hNever hMem).elim
    · exact ⟨ur, ⟨1, roleAdmin⟩, hFind,
        hAdmin ▸ hInv.find?_role.1, rfl⟩

theorem roleNames
    (hInv : AccountsInv events db)
    (userID : Int)
    (hMem : userID ∈ (registrations events).map Prod.fst) :
    (.promoted userID ∈ events ∧
        Dao.listRoleNamesByUserID db userID = [roleAdmin]) ∨
      (.promoted userID ∉ events ∧
        Dao.listRoleNamesByUserID db userID = [roleUser]) := by
  rw [← hInv.accounts, List.map_map] at hMem
  rcases List.mem_map.mp hMem with ⟨a, hAccount, hSame⟩
  have hID : a.id = userID := hSame
  subst hID
  rcases Option.isSome_iff_exists.mp
    (hInv.bound a.id (Option.isSome_of_eq_some
      (Accounts.find?_of_mem hAccount))) with ⟨ur, hFind⟩
  rcases hInv.standing a.id ur hFind with
    ⟨hDefault, hNever⟩ | ⟨hAdmin, hPromoted⟩
  · exact Or.inr ⟨hNever,
      Dao.listRoleNamesByUserID_eq hFind
        (hDefault ▸ hInv.find?_role.2)⟩
  · exact Or.inl ⟨hPromoted,
      Dao.listRoleNamesByUserID_eq hFind
        (hAdmin ▸ hInv.find?_role.1)⟩

end AccountsInv

------------------------------------------------------------
-- Passwords
------------------------------------------------------------

/- No byte of the password is zero. -/
def ZeroFree
    (password : String) : Prop :=
  0 ∉ password.toByteArray.data.toList

/- What bcrypt reads to the end: at most 72 bytes, none of
   which is zero. -/
structure PlainPassword
    (password : String) : Prop where
  size : password.utf8ByteSize ≤ 72
  zeroFree : ZeroFree password

omit [Deployment] in
theorem size_le_of_validatePassword
    {password : String}
    (hValid : validatePassword password = .ok ()) :
    password.utf8ByteSize ≤ 72 := by
  unfold validatePassword at hValid
  split at hValid
  case isTrue => cases hValid
  case isFalse hSize =>
    exact Nat.not_lt.mp (not_or.mp hSize).2

/-
  What is assumed of the package: a hash is good for the
  passwords that are read as the one it was generated from,
  and a plain password is read as no other one.
-/
structure Bcrypt.Lawful
    (b : Bcrypt)
    (key : String → List UInt8) : Prop where
  accepts :
    ∀ salt password hash,
      validatePassword password = .ok () →
        b.generateFromPassword salt password = .ok hash →
          ∀ q, b.compareHashAndPassword hash q = true ↔
            key q = key password
  plain :
    ∀ p q, PlainPassword p → PlainPassword q →
      key p = key q → p = q

omit [Deployment] in
/- The password that was set last. -/
def passwordOf
    (events : List AccessEvent)
    (userID : Int) : Option String :=
  (events.filterMap (AccessEvent.sets userID)).getLast?

omit [Deployment] in
theorem passwordOf_snoc
    (events : List AccessEvent)
    (e : AccessEvent)
    (userID : Int) :
    passwordOf (events ++ [e]) userID =
      (e.sets userID).or (passwordOf events userID) := by
  unfold passwordOf
  rw [List.filterMap_append]
  cases hSets : e.sets userID with
  | none => simp [hSets]
  | some p => simp [hSets]

/- Every account has a hash of the password set last. -/
structure HashesInv
    (b : Bcrypt)
    (key : String → List UInt8)
    (events : List AccessEvent)
    (db : AccountDB) : Prop where
  hashes :
    ∀ id a, db.accounts.find? id = some a →
      ∃ p, passwordOf events id = some p ∧
        validatePassword p = .ok () ∧
        ∀ q, b.compareHashAndPassword a.passwordHash q = true ↔
          key q = key p

namespace HashesInv

variable
    {b : Bcrypt}
    {key : String → List UInt8}
    {events : List AccessEvent}
    {db : AccountDB}

theorem migrated
    (b : Bcrypt)
    (key : String → List UInt8) :
    HashesInv b key [] AccountDB.migrated where
  hashes _ _ hFind := by cases hFind

theorem quiet
    (hInv : HashesInv b key events db)
    {e : AccessEvent}
    (hSets : ∀ id, e.sets id = none) :
    HashesInv b key (events ++ [e]) db where
  hashes id a hFind := by
    rw [passwordOf_snoc, hSets]
    exact hInv.hashes id a hFind

/- An UPDATE of other columns. -/
theorem modify
    (hInv : HashesInv b key events db)
    {userID : Int}
    {f : Account → Account}
    (hID : ∀ a, (f a).id = a.id)
    (hName : ∀ a, (f a).username = a.username)
    (hHash : ∀ a, (f a).passwordHash = a.passwordHash) :
    HashesInv b key events (db.modify userID f hID hName) where
  hashes id a hFind := by
    unfold AccountDB.modify at hFind
    rw [Accounts.find?_modify, Option.map_eq_some_iff]
      at hFind
    rcases hFind with ⟨kept, hKept, rfl⟩
    rcases hInv.hashes id kept hKept with
      ⟨p, hPassword, hValid, hAccepts⟩
    refine ⟨p, hPassword, hValid, ?_⟩
    split
    · rw [hHash]
      exact hAccepts
    · exact hAccepts

theorem moved
    (hBcrypt : b.Lawful key)
    (hInv : HashesInv b key events db)
    {e : AccessEvent}
    {db' : AccountDB}
    (hMoved : db.Moved b e db') :
    HashesInv b key (events ++ [e]) db' := by
  cases hMoved with
  | same hQuiet => exact hInv.quiet hQuiet.nothing.1
  | modified hID hName hHash hQuiet =>
      exact (hInv.modify hID hName hHash).quiet hQuiet.nothing.1
  | @registered _ id req salt passwordHash role hFresh
      hPassword hHash hInsert hSeeded hRole hInsertRole =>
      refine ⟨fun other a hOther => ?_⟩
      rw [AccountDB.find?_registered hInsert] at hOther
      rw [passwordOf_snoc]
      by_cases hNew : id = other
      · rw [if_pos hNew] at hOther
        cases hOther
        refine ⟨req.password, ?_, hPassword,
          hBcrypt.accepts _ _ _ hPassword hHash⟩
        simp [AccessEvent.sets, hNew]
      · rw [if_neg hNew] at hOther
        simpa [AccessEvent.sets, hNew]
          using hInv.hashes other a hOther
  | @rehashed userID req salt newHash hPassword hHash =>
      refine ⟨fun id a hFind => ?_⟩
      unfold AccountDB.setHash AccountDB.modify at hFind
      rw [Accounts.find?_modify, Option.map_eq_some_iff]
        at hFind
      rcases hFind with ⟨kept, hKept, rfl⟩
      have hID := Accounts.id_of_find? hKept
      rw [passwordOf_snoc]
      by_cases hUser : userID = id
      · refine ⟨req.newPassword, ?_, hPassword, ?_⟩
        · simp [AccessEvent.sets, hUser]
        · rw [if_pos (hID.trans hUser.symm)]
          exact hBcrypt.accepts _ _ _ hPassword hHash
      · rw [if_neg (fun hSame => hUser (hSame.symm.trans hID))]
        simpa [AccessEvent.sets, hUser]
          using hInv.hashes id kept hKept
  | promoted hAccount hRole hAdmin =>
      have hKept : HashesInv b key events
          (db.promote _ _ hAccount hRole) := ⟨hInv.hashes⟩
      exact hKept.quiet fun _ => rfl

/- The hashes are so in every run. -/
theorem of_run
    {jwt : JWT}
    {m : TokenManager}
    (hBcrypt : b.Lawful key)
    {start : Time}
    {s : Access}
    (hRun :
      Transition.Run (AccessStep b jwt m)
        (Access.initial start) events s) :
    HashesInv b key events s.db :=
  hRun.history (P := fun events s => HashesInv b key events s.db)
    (migrated b key)
    fun _ _ _ _ _ hInv hStep => hInv.moved hBcrypt hStep.moved

theorem hash_accepts
    (hInv : HashesInv b key events db)
    {a : Account}
    (hMem : a ∈ db.accounts.rows)
    (password : String) :
    b.compareHashAndPassword a.passwordHash password = true ↔
      ∃ p, passwordOf events a.id = some p ∧
        key password = key p := by
  rcases hInv.hashes a.id a (Accounts.find?_of_mem hMem) with
    ⟨p, hPassword, _, hAccepts⟩
  simp [hAccepts, hPassword]

/- A login is accepted for what is read as the password that
   was set last, of an account that is active. -/
theorem checkLogin_eq_ok_iff
    (hInv : HashesInv b key events db)
    {req : LoginRequest}
    {a : Account} :
    UserService.checkLogin b db req = .ok a ↔
      a ∈ db.accounts.rows ∧
        Deployment.collate a.username =
          Deployment.collate
            (ProductService.trimSpace req.username) ∧
        a.deletedAt = none ∧
        a.status = .active ∧
        ∃ p, passwordOf events a.id = some p ∧
          key req.password = key p := by
  rw [← and_assoc, ← Accounts.named?_eq_some_iff]
  unfold UserService.checkLogin Dao.getUserByUsername
  cases hNamed :
      db.accounts.named?
        (ProductService.trimSpace req.username) with
  | none => simp
  | some found =>
      have hMem := (Accounts.named?_eq_some_iff.mp hNamed).1
      have hPassword := hInv.hash_accepts hMem req.password
      by_cases hDeleted : found.deletedAt = none
      · by_cases hStatus : found.status = .active
        · simp only [Option.filter_some, hDeleted,
            decide_true, if_true, hStatus, ne_eq,
            not_true_eq_false, if_false]
          by_cases hMatch :
              b.compareHashAndPassword found.passwordHash
                req.password = true
          · have hSet := hPassword.mp hMatch
            simp only [hMatch, Bool.true_eq_false, if_false,
              Except.ok.injEq, Option.some.injEq]
            constructor
            · rintro rfl
              exact ⟨rfl, hDeleted, hStatus, hSet⟩
            · exact fun h => h.1
          · have hOther := mt hPassword.mpr hMatch
            rw [Bool.not_eq_true] at hMatch
            simp only [hMatch, if_true, reduceCtorEq,
              Option.some.injEq, false_iff]
            rintro ⟨rfl, _, _, hSet⟩
            exact hOther hSet
        · simp only [Option.filter_some, hDeleted,
            decide_true, if_true, ne_eq, hStatus,
            not_false_eq_true, reduceCtorEq,
            Option.some.injEq, false_iff]
          rintro ⟨rfl, _, hActive, _⟩
          exact hStatus hActive
      · simp only [Option.filter_some, hDeleted, decide_false,
          Bool.false_eq_true, if_false, reduceCtorEq,
          Option.some.injEq, false_iff]
        rintro ⟨rfl, hKept, _⟩
        exact hDeleted hKept

/- For a plain password this is the password itself. -/
theorem read_iff_of_plain
    (hBcrypt : b.Lawful key)
    (hInv : HashesInv b key events db)
    {a : Account}
    (hMem : a ∈ db.accounts.rows)
    {password : String}
    (hPlain : PlainPassword password)
    (hSet :
      ∀ p, passwordOf events a.id = some p → ZeroFree p) :
    (∃ p, passwordOf events a.id = some p ∧
        key password = key p) ↔
      passwordOf events a.id = some password := by
  constructor
  · rintro ⟨p, hPassword, hKey⟩
    rcases hInv.hashes a.id a (Accounts.find?_of_mem hMem) with
      ⟨p', hPassword', hValid, _⟩
    rw [hPassword] at hPassword'
    cases hPassword'
    have hOther : PlainPassword p :=
      ⟨size_le_of_validatePassword hValid, hSet p hPassword⟩
    rw [hBcrypt.plain _ _ hPlain hOther hKey, hPassword]
  · intro hPassword
    exact ⟨password, hPassword, rfl⟩

end HashesInv

------------------------------------------------------------
-- The Invariant of the System
------------------------------------------------------------

/- A login had its password accepted at some time. -/
def Verified
    (key : String → List UInt8)
    (events : List AccessEvent)
    (a : Account) : Prop :=
  ∃ before after req p,
    events = before ++ .checked req (.ok a) :: after ∧
      passwordOf before a.id = some p ∧
      key req.password = key p

omit [Deployment] in
theorem Verified.snoc
    {key : String → List UInt8}
    {events : List AccessEvent}
    {a : Account}
    (hVerified : Verified key events a)
    (e : AccessEvent) :
    Verified key (events ++ [e]) a := by
  rcases hVerified with ⟨before, after, req, p, rfl, hRead⟩
  exact ⟨before, after ++ [e], req, p, by simp, hRead⟩

/- A token that was made by the manager, for a user whose
   password had been verified. -/
structure Issue.Genuine
    (i : Issue)
    (key : String → List UInt8)
    (jwt : JWT)
    (m : TokenManager)
    (events : List AccessEvent) : Prop where
  generated :
    m.generateAccessToken jwt i.time i.userID i.username =
      .ok i.token
  fits :
    (m.accessClaims jwt i.time i.userID
      (ProductService.trimSpace i.username)).Representable
  recorded : .issued i ∈ events
  verified : ∃ a, Verified key events a ∧ a.id = i.userID

omit [Deployment] in
theorem Issue.Genuine.snoc
    {i : Issue}
    {key : String → List UInt8}
    {jwt : JWT}
    {m : TokenManager}
    {events : List AccessEvent}
    (hGenuine : i.Genuine key jwt m events)
    (e : AccessEvent) :
    i.Genuine key jwt m (events ++ [e]) := by
  rcases hGenuine.verified with ⟨a, hVerified, hID⟩
  exact ⟨hGenuine.generated, hGenuine.fits,
    List.mem_append_left _ hGenuine.recorded,
    a, hVerified.snoc e, hID⟩

/- What is in flight or handed out has been verified. -/
structure AccessInv
    (b : Bcrypt)
    (key : String → List UInt8)
    (jwt : JWT)
    (m : TokenManager)
    (events : List AccessEvent)
    (s : Access) : Prop where
  hashes : HashesInv b key events s.db
  logins : ∀ c ∈ s.logins, Verified key events c.account
  issued : ∀ i ∈ s.issued, i.Genuine key jwt m events

theorem AccessInv.initial
    (b : Bcrypt)
    (key : String → List UInt8)
    (jwt : JWT)
    (m : TokenManager)
    (now : Time) :
    AccessInv b key jwt m [] (Access.initial now) where
  hashes := HashesInv.migrated b key
  logins c hMem := by simp [Access.initial] at hMem
  issued i hMem := by cases hMem

theorem AccessStep.inv
    {b : Bcrypt}
    {key : String → List UInt8}
    {jwt : JWT}
    {m : TokenManager}
    (hBcrypt : b.Lawful key)
    {events : List AccessEvent}
    {s t : Access}
    {e : AccessEvent}
    (hInv : AccessInv b key jwt m events s)
    (hStep : AccessStep b jwt m s e t) :
    AccessInv b key jwt m (events ++ [e]) t := by
  have hHashes := hInv.hashes.moved hBcrypt hStep.moved
  have hLogins : ∀ c ∈ s.logins,
      Verified key (events ++ [e]) c.account :=
    fun c hMem => (hInv.logins c hMem).snoc e
  have hIssued : ∀ i ∈ s.issued,
      i.Genuine key jwt m (events ++ [e]) :=
    fun i hMem => (hInv.issued i hMem).snoc e
  cases hStep with
  | tick | register | changePassword | updateNickname | refuse
  | promote | administer | answer =>
      exact ⟨hHashes, hLogins, hIssued⟩
  | @accept s req a hCheck =>
      refine ⟨hHashes, ?_, hIssued⟩
      intro c hMem
      rcases Multiset.mem_cons.mp hMem with rfl | hKept
      · rcases (hInv.hashes.checkLogin_eq_ok_iff.mp
          hCheck).2.2.2.2 with ⟨p, hPassword, hRead⟩
        exact ⟨events, [], req, p, rfl, hPassword, hRead⟩
      · exact hLogins c hKept
  | @stamp db now a rest issued =>
      refine ⟨hHashes, ?_, hIssued⟩
      intro c hMem
      rcases Multiset.mem_cons.mp hMem with rfl | hKept
      · exact hLogins ⟨a, false⟩ (Multiset.mem_cons_self _ _)
      · exact hLogins c (Multiset.mem_cons_of_mem hKept)
  | @issue db now a rest issued token hToken hFits =>
      have hVerified :=
        hLogins ⟨a, true⟩ (Multiset.mem_cons_self _ _)
      refine ⟨hHashes, ?_, ?_⟩
      · exact fun c hKept =>
          hLogins c (Multiset.mem_cons_of_mem hKept)
      · intro i hMem
        rcases List.mem_append.mp hMem with hKept | hNew
        · exact hIssued i hKept
        · rw [List.mem_singleton.mp hNew]
          exact ⟨hToken, hFits, by simp, a, hVerified, rfl⟩
  | lose c =>
      refine ⟨hHashes, ?_, hIssued⟩
      exact fun c' hKept =>
        hLogins c' (Multiset.mem_cons_of_mem hKept)

/- The invariant holds in every run. -/
theorem AccessInv.of_run
    {b : Bcrypt}
    {key : String → List UInt8}
    {jwt : JWT}
    {m : TokenManager}
    (hBcrypt : b.Lawful key)
    {start : Time}
    {events : List AccessEvent}
    {s : Access}
    (hRun :
      Transition.Run (AccessStep b jwt m)
        (Access.initial start) events s) :
    AccessInv b key jwt m events s :=
  hRun.history (AccessInv.initial b key jwt m start)
    fun _ _ _ _ _ hInv hStep => hStep.inv hBcrypt hInv

------------------------------------------------------------
-- Runs
------------------------------------------------------------

section Runs

variable
    {b : Bcrypt}
    {key : String → List UInt8}
    {jwt : JWT}
    {m : TokenManager}
    {start : Time}
    {events : List AccessEvent}
    {s : Access}

/-
  At any time, a login is accepted exactly with the name of
  an active account and what bcrypt reads as the password
  that was set last for it, by its registration or by a
  change since then. Among passwords that bcrypt reads to the
  end, it is this password.
-/
theorem login_exact
    (hBcrypt : b.Lawful key)
    (hRun :
      Transition.Run (AccessStep b jwt m)
        (Access.initial start) events s)
    (req : LoginRequest)
    (a : Account) :
    (UserService.checkLogin b s.db req = .ok a ↔
      a ∈ s.db.accounts.rows ∧
        Deployment.collate a.username =
          Deployment.collate
            (ProductService.trimSpace req.username) ∧
        a.deletedAt = none ∧
        a.status = .active ∧
        ∃ p, passwordOf events a.id = some p ∧
          key req.password = key p) ∧
    (a ∈ s.db.accounts.rows → PlainPassword req.password →
      (∀ p, passwordOf events a.id = some p → ZeroFree p) →
        ((∃ p, passwordOf events a.id = some p ∧
            key req.password = key p) ↔
          passwordOf events a.id = some req.password)) := by
  have hHashes := HashesInv.of_run hBcrypt hRun
  refine ⟨hHashes.checkLogin_eq_ok_iff, ?_⟩
  exact fun hMem hPlain hSet =>
    hHashes.read_iff_of_plain hBcrypt hMem hPlain hSet

/-
  A user has the role of administrators exactly after a
  promotion, and every account has one role: this one, or
  the one of its registration.
-/
theorem roles_exact
    (hRoles :
      Deployment.collate roleAdmin ≠
        Deployment.collate roleUser)
    (hRun :
      Transition.Run (AccessStep b jwt m)
        (Access.initial start) events s)
    (userID : Int) :
    (Dao.userHasRole s.db userID roleAdmin = true ↔
      .promoted userID ∈ events) ∧
    (userID ∈ (registrations events).map Prod.fst →
      (.promoted userID ∈ events ∧
          Dao.listRoleNamesByUserID s.db userID =
            [roleAdmin]) ∨
        (.promoted userID ∉ events ∧
          Dao.listRoleNamesByUserID s.db userID =
            [roleUser])) := by
  have hInv := AccountsInv.of_run hRoles hRun
  exact ⟨hInv.hasRole_admin_iff hRoles userID,
    hInv.roleNames userID⟩

end Runs

end OrderManagement

------------------------------------------------------------
-- A Sample Run
------------------------------------------------------------

namespace OrderManagement

attribute [local instance] sampleDeployment

theorem sampleRoles_apart :
    Deployment.collate roleAdmin ≠
      Deployment.collate roleUser := by
  decide

def sampleRegister : RegisterRequest where
  username := " alice "
  password := "secret1"

def sampleLogin : LoginRequest where
  username := "ALICE"
  password := "secret1"

/- The bytes with a zero behind them, over and over, until 72
   have been read. -/
def cycled
    (bytes : List UInt8) : List UInt8 :=
  (List.range 72).map fun i =>
    (bytes ++ [0]).getD (i % (bytes.length + 1)) 0

/- In the first round the bytes are those that are given. -/
theorem cycled_getD
    {bytes : List UInt8}
    {i : Nat}
    (hRead : i < 72)
    (hRound : i ≤ bytes.length) :
    (cycled bytes).getD i 0 = bytes.getD i 0 := by
  have hSame : i % (bytes.length + 1) = i :=
    Nat.mod_eq_of_lt (Nat.lt_succ_of_le hRound)
  unfold cycled
  simp only [List.getD_eq_getElem?_getD, List.getElem?_map,
    List.getElem?_range hRead, Option.map_some,
    Option.getD_some, hSame]
  rcases Nat.lt_or_eq_of_le hRound with hLess | rfl
  · rw [List.getElem?_append_left hLess]
  · simp

/- The zero behind some bytes stands where others end. -/
theorem length_le_of_cycled
    {bytes bytes' : List UInt8}
    (hSame : cycled bytes = cycled bytes')
    (hSize : bytes.length ≤ 72)
    (hZero : 0 ∉ bytes) :
    bytes.length ≤ bytes'.length := by
  by_contra hLonger
  have hLess := Nat.not_le.mp hLonger
  have hRead : bytes'.length < 72 := hLess.trans_le hSize
  have hEnd :=
    (cycled_getD hRead hLess.le).symm.trans
      ((congrArg (fun l => l.getD bytes'.length 0) hSame).trans
        (cycled_getD hRead le_rfl))
  rw [List.getD_eq_getElem _ _ hLess,
    List.getD_eq_default _ _ le_rfl] at hEnd
  exact hZero (hEnd ▸ List.getElem_mem hLess)

theorem cycled_inj
    {bytes bytes' : List UInt8}
    (hSame : cycled bytes = cycled bytes')
    (hSize : bytes.length ≤ 72)
    (hSize' : bytes'.length ≤ 72)
    (hZero : 0 ∉ bytes)
    (hZero' : 0 ∉ bytes') :
    bytes = bytes' := by
  have hLength : bytes.length = bytes'.length :=
    le_antisymm (length_le_of_cycled hSame hSize hZero)
      (length_le_of_cycled hSame.symm hSize' hZero')
  refine List.ext_getElem hLength fun i hLess hLess' => ?_
  have hRead : i < 72 := hLess.trans_le hSize
  have hByte :=
    (cycled_getD hRead hLess.le).symm.trans
      ((congrArg (fun l => l.getD i 0) hSame).trans
        (cycled_getD hRead hLess'.le))
  rwa [List.getD_eq_getElem _ _ hLess,
    List.getD_eq_getElem _ _ hLess'] at hByte

def sampleKey
    (password : String) : List UInt8 :=
  cycled password.toByteArray.data.toList

/- The package with the hashes of the table, and with what
   its comparison reads. -/
def readingBcrypt : Bcrypt where
  generateFromPassword := sampleBcrypt.generateFromPassword
  compareHashAndPassword hash password :=
    sampleHashes.any fun entry =>
      entry.2.2 = hash ∧ sampleKey entry.2.1 = sampleKey password

theorem readingBcrypt_lawful :
    readingBcrypt.Lawful sampleKey where
  accepts salt password hash hValid hHash q := by
    have hExact :=
      sampleBcrypt_exact.accepts salt password hash hValid hHash
    simp only [readingBcrypt, List.any_eq_true,
      decide_eq_true_eq]
    constructor
    · rintro ⟨entry, hMem, rfl, hRead⟩
      have hOwn :
          sampleBcrypt.compareHashAndPassword entry.2.2
            entry.2.1 = true :=
        (sampleBcrypt_accepts hMem _).mpr rfl
      rw [← hRead, (hExact _).mp hOwn]
    · intro hRead
      rcases List.any_eq_true.mp ((hExact password).mpr rfl)
        with ⟨entry, hMem, hBoth⟩
      rcases of_decide_eq_true hBoth with ⟨hHash', rfl⟩
      exact ⟨entry, hMem, hHash', hRead.symm⟩
  plain p q hPlain hPlain' hSame := by
    have hBytes :=
      cycled_inj hSame hPlain.size hPlain'.size hPlain.zeroFree
        hPlain'.zeroFree
    exact String.toByteArray_inj.mp
      (ByteArray.ext (Array.toList_inj.mp hBytes))

def sampleAccount : Account :=
  UserService.newAccount 1 "alice"
    "$2a$10$fVH8e28OQRj9tqiDXs1e1uvqX9IwY3jldBox4YzcAezjoIM.UUtdW"

def sampleRegistered : AccountDB :=
  (UserService.register readingBcrypt
    "$2a$10$fVH8e28OQRj9tqiDXs1e1u" 1 sampleRegister
    AccountDB.migrated).2

theorem sampleRegistered_run :
    UserService.register readingBcrypt
        "$2a$10$fVH8e28OQRj9tqiDXs1e1u" 1 sampleRegister
        AccountDB.migrated =
      (.ok (), sampleRegistered) := by
  refine Prod.ext ?_ rfl
  rfl

theorem sampleLogin_checked :
    UserService.checkLogin readingBcrypt sampleRegistered
      sampleLogin = .ok sampleAccount := by
  rfl

/- The tables after the login. -/
def sampleStamped : AccountDB :=
  UserService.updateLastLoginAt sampleRegistered 1
    1700000000123

theorem sampleStamped_account :
    (sampleStamped.accounts.find? sampleAccount.id).isSome := by
  rfl

theorem sampleStamped_role :
    (sampleStamped.roles.find? 1).isSome := by
  rfl

theorem sampleStamped_admin :
    Dao.getRoleByRoleName sampleStamped roleAdmin =
      some ⟨1, roleAdmin⟩ := by
  rfl

def sampleIssue : Issue where
  token := sampleToken
  userID := 1
  username := "alice"
  time := 1700000000123

/- The events up to the request of an administrator. -/
def sampleAccess : List AccessEvent :=
  [ .registered 1 sampleRegister (.ok ()),
    .checked sampleLogin (.ok sampleAccount),
    .silent,
    .issued sampleIssue,
    .promoted 1 ]

def samplePromoted : Access where
  db := sampleStamped.promote sampleAccount ⟨1, roleAdmin⟩
    sampleStamped_account sampleStamped_role
  now := 1700000000123
  logins := 0
  issued := [sampleIssue]

theorem sampleAccess_run :
    Transition.Run
      (AccessStep readingBcrypt sampleJWT sampleManager)
      (Access.initial 1700000000123) sampleAccess
      samplePromoted := by
  have hRegistered :
      AccessStep readingBcrypt sampleJWT sampleManager
        (Access.initial 1700000000123)
        (.registered 1 sampleRegister (.ok ()))
        ⟨sampleRegistered, 1700000000123, 0, []⟩ :=
    .register (by decide) rfl sampleRegistered_run
  have hChecked :
      AccessStep readingBcrypt sampleJWT sampleManager
        ⟨sampleRegistered, 1700000000123, 0, []⟩
        (.checked sampleLogin (.ok sampleAccount))
        ⟨sampleRegistered, 1700000000123,
          ⟨sampleAccount, false⟩ ::ₘ 0, []⟩ :=
    .accept sampleLogin_checked
  have hStamped :
      AccessStep readingBcrypt sampleJWT sampleManager
        ⟨sampleRegistered, 1700000000123,
          ⟨sampleAccount, false⟩ ::ₘ 0, []⟩
        .silent
        ⟨sampleStamped, 1700000000123,
          ⟨sampleAccount, true⟩ ::ₘ 0, []⟩ :=
    .stamp
  have hIssued :
      AccessStep readingBcrypt sampleJWT sampleManager
        ⟨sampleStamped, 1700000000123,
          ⟨sampleAccount, true⟩ ::ₘ 0, []⟩
        (.issued sampleIssue)
        ⟨sampleStamped, 1700000000123, 0, [sampleIssue]⟩ :=
    .issue generateAccessToken_sample sampleClaims_fit
  have hPromoted :
      AccessStep readingBcrypt sampleJWT sampleManager
        ⟨sampleStamped, 1700000000123, 0, [sampleIssue]⟩
        (.promoted sampleAccount.id) samplePromoted :=
    .promote sampleStamped_account sampleStamped_role
      sampleStamped_admin
  exact ((((Transition.Run.single hRegistered).snoc
    hChecked).snoc hStamped).snoc hIssued).snoc hPromoted

/- The right password in any letter case of the name, what
   bcrypt reads as the same, and a wrong password. -/
theorem login_exact_sample :
    UserService.checkLogin readingBcrypt samplePromoted.db
        sampleLogin =
      .ok { sampleAccount with
        lastLoginAt := some 1700000000123 } ∧
    UserService.checkLogin readingBcrypt samplePromoted.db
        ⟨"alice", "secret1\x00secret1"⟩ =
      .ok { sampleAccount with
        lastLoginAt := some 1700000000123 } ∧
    ∀ a, UserService.checkLogin readingBcrypt samplePromoted.db
      ⟨"alice", "secret2"⟩ ≠ .ok a := by
  have hLogin :=
    login_exact readingBcrypt_lawful sampleAccess_run
  have hTwice :
      sampleKey "secret1\x00secret1" = sampleKey "secret1" := by
    decide +kernel
  have hOther : sampleKey "secret2" ≠ sampleKey "secret1" := by
    decide +kernel
  refine ⟨?_, ?_, ?_⟩
  · refine (hLogin sampleLogin _).1.mpr ⟨?_, ?_⟩
    · exact List.mem_singleton.mpr rfl
    · exact ⟨rfl, rfl, rfl, "secret1", rfl, rfl⟩
  · refine (hLogin _ _).1.mpr ⟨?_, ?_⟩
    · exact List.mem_singleton.mpr rfl
    · exact ⟨rfl, rfl, rfl, "secret1", rfl, hTwice⟩
  · intro a hAccepted
    rcases (hLogin _ a).1.mp hAccepted with
      ⟨hMem, _, _, _, p, hPassword, hRead⟩
    have hID :
        ∀ b ∈ samplePromoted.db.accounts.rows, b.id = 1 := by
      decide +kernel
    rw [hID a hMem] at hPassword
    have hFirst : passwordOf sampleAccess 1 = some "secret1" := by
      rfl
    rw [hFirst] at hPassword
    cases hPassword
    exact hOther hRead

theorem roles_exact_sample :
    Dao.userHasRole samplePromoted.db 1 roleAdmin = true ∧
      Dao.userHasRole samplePromoted.db 2 roleAdmin ≠ true := by
  constructor
  · exact (roles_exact sampleRoles_apart sampleAccess_run
      1).1.mpr (by simp [sampleAccess])
  · intro hRole
    have hMem := (roles_exact sampleRoles_apart
      sampleAccess_run 2).1.mp hRole
    simp [sampleAccess] at hMem

end OrderManagement
