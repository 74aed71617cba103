import OrderManagement.Service.Inventory
import OrderManagement.Service.User

/-
  Registration, login, and the profile of `user_service.go`,
  with the tables `users`, `roles`, and `user_roles`. What
  Service/User says of the password change is about columns
  of these rows.

  Main declarations:
    * `Account`, `Accounts`, and `AccountDB`
    * `UserService.register`
    * `UserService.checkLogin` and `UserService.getProfile`
    * `UserService.updateNickname` and
      `UserService.changePassword`
    * `UserService.register_cases` and
      `UserService.commits_registerTx`
    * `UserService.registerAnswer`
-/

namespace OrderManagement

open Transaction

------------------------------------------------------------
-- Rows
------------------------------------------------------------

/- The values that the CHECK of the column admits. -/
inductive UserStatus
| active
| disabled
deriving DecidableEq

/- A whole row of `users`. -/
structure Account extends User where
  username : String
  nickname : String
  status : UserStatus
  lastLoginAt : Option Time
deriving DecidableEq

structure Role where
  id : Int
  roleName : String
deriving DecidableEq

structure UserRole where
  userID : Int
  roleID : Int
deriving DecidableEq

def roleAdmin : String := "admin"

def roleUser : String := "user"

instance : Keyed Account Int where
  key a := a.id

instance : Keyed Role Int where
  key := Role.id

/- The unique index uk_user_id: a user has one role. -/
instance : Keyed UserRole Int where
  key := UserRole.userID

@[simp] theorem key_account
    (a : Account) :
    Keyed.key a = a.id := rfl

@[simp] theorem key_role
    (r : Role) :
    Keyed.key r = r.id := rfl

variable [Deployment]

/- The table with its second unique index, which holds rows
   that are marked as deleted too. -/
@[ext]
structure Accounts where
  table : Table Account
  usernames :
    (table.rows.map fun a =>
      Deployment.collate a.username).Nodup

namespace Accounts

def empty : Accounts where
  table := Table.empty
  usernames := List.nodup_nil

def find?
    (accounts : Accounts)
    (id : Int) : Option Account :=
  accounts.table.find? id

def rows
    (accounts : Accounts) : List Account :=
  accounts.table.rows

/- The row with a name, deleted or not. -/
def named?
    (accounts : Accounts)
    (username : String) : Option Account :=
  accounts.rows.find? fun a =>
    Deployment.collate a.username =
      Deployment.collate username

/- A row is stored if its name is new. The id is one that
   the table has not given out. -/
def insert?
    (accounts : Accounts)
    (a : Account) : Option Accounts :=
  if hName :
      Deployment.collate a.username ∈
        accounts.rows.map fun b =>
          Deployment.collate b.username then
    none
  else if hID : a.id ∈ accounts.rows.map fun b => b.id then
    none
  else
    some {
      table := {
        rows := accounts.rows ++ [a]
        nodup := by
          have hKeys := accounts.table.nodup
          change (accounts.rows.map fun b => b.id).Nodup
            at hKeys
          change ((accounts.rows ++ [a]).map
            fun b => b.id).Nodup
          simpa [List.nodup_append, hKeys] using hID }
      usernames := by
        have hNames := accounts.usernames
        change (accounts.rows.map fun b =>
          Deployment.collate b.username).Nodup at hNames
        change ((accounts.rows ++ [a]).map fun b =>
          Deployment.collate b.username).Nodup
        simpa [List.nodup_append, hNames] using hName }

omit [Deployment] in
theorem id_of_modified
    {id : Int}
    {f : Account → Account}
    (hID : ∀ a, (f a).id = a.id)
    (a : Account) :
    (if a.id = id then f a else a).id = a.id := by
  split
  · exact hID a
  · rfl

/- An UPDATE of the row with an id, of columns other than the
   id and the name. -/
def modify
    (accounts : Accounts)
    (id : Int)
    (f : Account → Account)
    (hID : ∀ a, (f a).id = a.id)
    (hName : ∀ a, (f a).username = a.username) :
    Accounts where
  table :=
    accounts.table.map (fun a => if a.id = id then f a else a)
      (id_of_modified hID)
  usernames := by
    have hNames := accounts.usernames
    unfold Table.map
    rw [List.map_map]
    convert hNames using 2
    funext a
    simp only [Function.comp_apply]
    split
    · rw [hName]
    · rfl

------------------------------------------------------------
-- Lookups
------------------------------------------------------------

theorem named?_eq_none_iff
    {accounts : Accounts}
    {username : String} :
    accounts.named? username = none ↔
      Deployment.collate username ∉
        accounts.rows.map fun b =>
          Deployment.collate b.username := by
  simp [named?, List.find?_eq_none]

theorem insert?_eq_some_iff
    {accounts accounts' : Accounts}
    {a : Account} :
    accounts.insert? a = some accounts' ↔
      accounts.named? a.username = none ∧
        accounts.find? a.id = none ∧
        accounts'.rows = accounts.rows ++ [a] := by
  have hFound :
      accounts.find? a.id = none ↔
        a.id ∉ accounts.rows.map fun b => b.id :=
    Table.find?_eq_none_iff
  rw [named?_eq_none_iff, hFound]
  unfold insert?
  split
  case isTrue hTaken => simp [hTaken]
  case isFalse hName =>
    split
    case isTrue hTaken => simp [hTaken]
    case isFalse hID =>
      constructor
      · rintro ⟨⟩
        exact ⟨hName, hID, rfl⟩
      · rintro ⟨_, _, hRows⟩
        exact congrArg some
          (Accounts.ext (Table.ext hRows.symm))

/- Only the new id answers anew. -/
theorem find?_of_insert?
    {accounts accounts' : Accounts}
    {a : Account}
    (hInsert : accounts.insert? a = some accounts')
    (id : Int) :
    accounts'.find? id =
      if a.id = id then some a else accounts.find? id := by
  rcases insert?_eq_some_iff.mp hInsert with ⟨_, hFree, hRows⟩
  exact Table.find?_of_insert?
    (Table.insert?_eq_some_iff.mpr ⟨hFree, hRows⟩) id

@[simp] theorem find?_modify
    (accounts : Accounts)
    (id : Int)
    (f : Account → Account)
    (hID : ∀ a, (f a).id = a.id)
    (hName : ∀ a, (f a).username = a.username)
    (other : Int) :
    (accounts.modify id f hID hName).find? other =
      (accounts.find? other).map fun a =>
        if a.id = id then f a else a :=
  Table.find?_map accounts.table _ (id_of_modified hID) other

/- Which accounts there are, and their names, stay. -/
theorem names_modify
    (accounts : Accounts)
    (id : Int)
    (f : Account → Account)
    (hID : ∀ a, (f a).id = a.id)
    (hName : ∀ a, (f a).username = a.username) :
    ((accounts.modify id f hID hName).rows.map
        fun a => (a.id, a.username)) =
      accounts.rows.map fun a => (a.id, a.username) := by
  unfold modify rows Table.map
  rw [List.map_map]
  refine List.map_congr_left fun a _ => ?_
  simp only [Function.comp_apply]
  split
  · rw [hID, hName]
  · rfl

theorem id_of_find?
    {accounts : Accounts}
    {id : Int}
    {a : Account}
    (hFind : accounts.find? id = some a) :
    a.id = id :=
  Table.key_of_find? hFind

theorem find?_of_mem
    {accounts : Accounts}
    {a : Account}
    (hMem : a ∈ accounts.rows) :
    accounts.find? a.id = some a :=
  Table.find?_key_of_mem hMem

/- A name belongs to one row. -/
theorem named?_eq_some_iff
    {accounts : Accounts}
    {username : String}
    {a : Account} :
    accounts.named? username = some a ↔
      a ∈ accounts.rows ∧
        Deployment.collate a.username =
          Deployment.collate username := by
  constructor
  · intro hFind
    exact ⟨List.mem_of_find?_eq_some hFind,
      by simpa using List.find?_some hFind⟩
  · rintro ⟨hMem, hName⟩
    cases hFind : accounts.named? username with
    | none =>
        have hNone := List.find?_eq_none.mp hFind a hMem
        simp [hName] at hNone
    | some b =>
        have hHere := List.mem_of_find?_eq_some hFind
        have hSame := List.find?_some hFind
        rw [decide_eq_true_eq] at hSame
        rw [List.inj_on_of_nodup_map accounts.usernames hHere
          hMem (hSame.trans hName.symm)]

end Accounts

------------------------------------------------------------
-- Database
------------------------------------------------------------

/- The three tables, with the two foreign keys of
   `user_roles`. -/
structure AccountDB where
  accounts : Accounts
  roles : Table Role
  userRoles : Table UserRole
  userRoles_owned :
    ∀ r ∈ userRoles.rows,
      (accounts.find? r.userID).isSome ∧
        (roles.find? r.roleID).isSome

/- An UPDATE of one row, which leaves its id and its name. -/
def AccountDB.modify
    (db : AccountDB)
    (id : Int)
    (f : Account → Account)
    (hID : ∀ a, (f a).id = a.id)
    (hName : ∀ a, (f a).username = a.username) :
    AccountDB where
  accounts := db.accounts.modify id f hID hName
  roles := db.roles
  userRoles := db.userRoles
  userRoles_owned r hMem := by
    simpa using db.userRoles_owned r hMem

/- The columns that the password change works on. -/
def AccountDB.users
    (db : AccountDB) : Users where
  rows := db.accounts.rows.map Account.toUser
  nodup := by
    rw [List.map_map]
    exact db.accounts.table.nodup

theorem AccountDB.find?_users
    (db : AccountDB)
    (id : Int) :
    db.users.find? id =
      (db.accounts.find? id).map Account.toUser := by
  unfold AccountDB.users Table.find? Accounts.find? Table.find?
  rw [List.find?_map]
  rfl

/- The tables after the migrations, without a user. -/
def AccountDB.migrated : AccountDB where
  accounts := Accounts.empty
  roles := {
    rows := [⟨1, roleAdmin⟩, ⟨2, roleUser⟩]
    nodup := by decide }
  userRoles := Table.empty
  userRoles_owned r hMem := by cases hMem

/-
  Errors by the names of their variables, or by the codes
  that they are wrapped with. `duplicatedKey` is the error
  that gorm makes of a violated unique index, and
  `createUserRoleFailed` tells whether it wraps this one.
-/
inductive AccountErr
| duplicatedKey
| usernameAlreadyExists
| usernameInvalid
| passwordInvalid
| invalidCredentials
| userDisabled
| userNotFound
| invalidUserID
| nicknameInvalid
| defaultRoleNotFound
| createUserRoleFailed (duplicated : Bool)
| registerFailed
| loginFailed
| userRoleCheckFailed
| updateNicknameFailed
| database
deriving DecidableEq

abbrev AccountTx (α : Type) :=
  Transaction AccountDB AccountErr α

------------------------------------------------------------
-- Statements
------------------------------------------------------------

namespace Dao

def createUser
    (a : Account) : AccountTx Unit := do
  let db ← get
  match hInsert : db.accounts.insert? a with
  | none => throw .duplicatedKey
  | some accounts =>
      set {
        db with
        accounts := accounts
        userRoles_owned := fun r hMem => by
          refine ⟨?_, (db.userRoles_owned r hMem).2⟩
          rw [Accounts.find?_of_insert? hInsert]
          split
          · rfl
          · exact (db.userRoles_owned r hMem).1 }

/- The row with a name that is not marked as deleted. -/
def getUserByUsername
    (view : AccountDB)
    (username : String) : Option Account :=
  (view.accounts.named? username).filter fun a =>
    a.deletedAt = none

def getAccountByID
    (view : AccountDB)
    (id : Int) : Option Account :=
  (view.accounts.find? id).filter fun a => a.deletedAt = none

def getRoleByRoleName
    (view : AccountDB)
    (roleName : String) : Option Role :=
  view.roles.rows.find? fun role =>
    Deployment.collate role.roleName =
      Deployment.collate roleName

/- The foreign keys are checked with the unique index. -/
def createUserRole
    (userID roleID : Int) : AccountTx Unit := do
  let db ← get
  match hInsert : db.userRoles.insert? ⟨userID, roleID⟩ with
  | none => throw .duplicatedKey
  | some userRoles =>
      if hOwned :
          (db.accounts.find? userID).isSome ∧
            (db.roles.find? roleID).isSome then
        set {
          db with
          userRoles := userRoles
          userRoles_owned := fun r hMem => by
            rw [(Table.insert?_eq_some_iff.mp hInsert).2,
              List.mem_append, List.mem_singleton] at hMem
            rcases hMem with hMem | rfl
            · exact db.userRoles_owned r hMem
            · exact hOwned }
      else
        throw .database

def userHasRole
    (view : AccountDB)
    (userID : Int)
    (roleName : String) : Bool :=
  view.userRoles.rows.any fun ur =>
    ur.userID = userID &&
      view.roles.rows.any fun r =>
        r.id = ur.roleID &&
          Deployment.collate r.roleName =
            Deployment.collate roleName

/- ORDER BY has at most one row to order: `user_id` is
   unique. -/
def listRoleNamesByUserID
    (view : AccountDB)
    (userID : Int) : List String :=
  view.userRoles.rows.flatMap fun ur =>
    if ur.userID = userID then
      (view.roles.rows.filter fun r =>
        r.id = ur.roleID).map Role.roleName
    else
      []

end Dao

------------------------------------------------------------
-- Registration
------------------------------------------------------------

structure RegisterRequest where
  username : String
  password : String
deriving DecidableEq

structure LoginRequest where
  username : String
  password : String
deriving DecidableEq

namespace UserService

/- What is checked before a hash is made. The name goes on
   without the spaces around it. -/
def checkRegister
    (req : RegisterRequest) : Except AccountErr String :=
  let username := ProductService.trimSpace req.username
  if username.utf8ByteSize < 3 ∨ 64 < username.utf8ByteSize then
    .error .usernameInvalid
  else
    match validatePassword req.password with
    | .error _ => .error .passwordInvalid
    | .ok _ => .ok username

/- The row that is stored. -/
def newAccount
    (id : Int)
    (username passwordHash : String) : Account where
  id := id
  passwordHash := passwordHash
  deletedAt := none
  username := username
  nickname := username
  status := .active
  lastLoginAt := none

/- The transaction of Register. -/
def registerTx
    (id : Int)
    (username passwordHash : String) : AccountTx Unit := do
  Dao.createUser (newAccount id username passwordHash)
  let db ← get
  let role ←
    fetch (Dao.getRoleByRoleName db roleUser)
      .defaultRoleNotFound
  onError (fun e => .createUserRoleFailed (e = .duplicatedKey))
    (Dao.createUserRole id role.id)

/- What is made of an error of the transaction. -/
def registerError : AccountErr → AccountErr
| .duplicatedKey => .usernameAlreadyExists
| .createUserRoleFailed true => .usernameAlreadyExists
| .createUserRoleFailed false => .createUserRoleFailed false
| .defaultRoleNotFound => .defaultRoleNotFound
| _ => .registerFailed

/- The response and the tables that a call leaves. The id is
   the next one of the table. -/
def register
    (b : Bcrypt)
    (salt : String)
    (id : Int)
    (req : RegisterRequest)
    (db : AccountDB) : Except AccountErr Unit × AccountDB :=
  match checkRegister req with
  | .error e => (.error e, db)
  | .ok username =>
      match b.generateFromPassword salt req.password with
      | .error _ => (.error .registerFailed, db)
      | .ok passwordHash =>
          match (registerTx id username passwordHash).run db with
          | .ok (_, db') => (.ok (), db')
          | .error e => (.error (registerError e), db)

------------------------------------------------------------
-- Login and Profile
------------------------------------------------------------

/- Login up to the comparison of the password. -/
def checkLogin
    (b : Bcrypt)
    (view : AccountDB)
    (req : LoginRequest) : Except AccountErr Account :=
  match Dao.getUserByUsername view
      (ProductService.trimSpace req.username) with
  | none => .error .invalidCredentials
  | some user =>
      if user.status ≠ .active then
        .error .userDisabled
      else if b.compareHashAndPassword user.passwordHash
          req.password = false then
        .error .invalidCredentials
      else
        .ok user

/- `UpdateLastLoginAtByID`; rows that are marked as deleted
   stay. -/
def updateLastLoginAt
    (db : AccountDB)
    (id : Int)
    (time : Time) : AccountDB :=
  db.modify id
    (fun a =>
      if a.deletedAt = none then
        { a with lastLoginAt := some time }
      else
        a)
    (fun a => by split <;> rfl)
    (fun a => by split <;> rfl)

def getProfile
    (view rolesView : AccountDB)
    (userID : Int) :
    Except AccountErr (Account × List String) :=
  if userID ≤ 0 then
    .error .invalidUserID
  else
    match Dao.getAccountByID view userID with
    | none => .error .userNotFound
    | some user =>
        if user.status ≠ .active then
          .error .userDisabled
        else
          .ok (user, Dao.listRoleNamesByUserID rolesView userID)

/- What is checked before the nickname is written. -/
def checkUpdateNickname
    (view rolesView : AccountDB)
    (userID : Int)
    (nickname : String) : Except AccountErr String :=
  let nickname := ProductService.trimSpace nickname
  if userID ≤ 0 then
    .error .invalidUserID
  else if nickname = "" ∨ 64 < nickname.utf8ByteSize then
    .error .nicknameInvalid
  else
    match getProfile view rolesView userID with
    | .error e => .error e
    | .ok _ => .ok nickname

def updateNickname
    (db : AccountDB)
    (id : Int)
    (nickname : String) : AccountDB :=
  db.modify id
    (fun a =>
      if a.deletedAt = none then
        { a with nickname := nickname }
      else
        a)
    (fun a => by split <;> rfl)
    (fun a => by split <;> rfl)

/- The column that an UPDATE of the hashes has written. -/
def putHashes
    (db : AccountDB)
    (users : Users)
    (id : Int) : AccountDB :=
  db.modify id
    (fun a =>
      { a with
        passwordHash :=
          ((users.find? id).map User.passwordHash).getD
            a.passwordHash })
    (fun _ => rfl)
    (fun _ => rfl)

/- UpdatePassword on the whole rows. -/
def changePassword
    (b : Bcrypt)
    (view : AccountDB)
    (salt : String)
    (userID : Int)
    (req : UpdatePasswordRequest)
    (db : AccountDB) : Except UserErr Unit × AccountDB :=
  match checkUpdatePassword userID req with
  | .error e => (.error e, db)
  | .ok _ =>
      match (updatePassword b view.users salt userID req).run
          db.users with
      | .error e => (.error e, db)
      | .ok (_, users) => (.ok (), putHashes db users userID)

end UserService

------------------------------------------------------------
-- Effects
------------------------------------------------------------

theorem Dao.commits_createUser
    {a : Account}
    {db db' : AccountDB}
    {r : Unit}
    (hCommit : Commits (Dao.createUser a) db r db') :
    db.accounts.insert? a = some db'.accounts ∧
      db'.roles = db.roles ∧ db'.userRoles = db.userRoles := by
  unfold Dao.createUser at hCommit
  rw [commits_bind] at hCommit
  rcases hCommit with ⟨_, _, hGet, hRest⟩
  rcases commits_get.mp hGet with ⟨rfl, rfl⟩
  split at hRest
  case h_1 => simp at hRest
  case h_2 accounts hInsert =>
    rw [commits_set] at hRest
    subst hRest
    exact ⟨hInsert, rfl, rfl⟩

theorem Dao.commits_createUserRole
    {userID roleID : Int}
    {db db' : AccountDB}
    {r : Unit}
    (hCommit :
      Commits (Dao.createUserRole userID roleID) db r db') :
    db.userRoles.insert? ⟨userID, roleID⟩ =
        some db'.userRoles ∧
      db'.accounts = db.accounts ∧ db'.roles = db.roles := by
  unfold Dao.createUserRole at hCommit
  rw [commits_bind] at hCommit
  rcases hCommit with ⟨_, _, hGet, hRest⟩
  rcases commits_get.mp hGet with ⟨rfl, rfl⟩
  split at hRest
  case h_1 => simp at hRest
  case h_2 userRoles hInsert =>
    split at hRest
    case isTrue =>
      rw [commits_set] at hRest
      subst hRest
      exact ⟨hInsert, rfl, rfl⟩
    case isFalse => simp at hRest

namespace UserService

/- What a registration has done when it commits: one account,
   under a new name, and its one role. -/
theorem commits_registerTx
    {id : Int}
    {username passwordHash : String}
    {db db' : AccountDB}
    {r : Unit}
    (hCommit :
      Commits (registerTx id username passwordHash) db r db') :
    db.accounts.insert? (newAccount id username passwordHash) =
        some db'.accounts ∧
      db'.roles = db.roles ∧
      ∃ role,
        Dao.getRoleByRoleName db roleUser = some role ∧
          db.userRoles.insert? ⟨id, role.id⟩ =
            some db'.userRoles := by
  unfold registerTx at hCommit
  simp only [commits_bind, commits_get, commits_fetch,
    commits_onError] at hCommit
  rcases hCommit with
    ⟨_, mid, hUser, _, _, ⟨rfl, rfl⟩, role, _,
      ⟨hRole, rfl⟩, hUserRole⟩
  rcases Dao.commits_createUser hUser with
    ⟨hInsert, hRoles, hUserRoles⟩
  rcases Dao.commits_createUserRole hUserRole with
    ⟨hInsertRole, hAccounts, hRoles'⟩
  rw [Dao.getRoleByRoleName, hRoles] at hRole
  rw [hUserRoles] at hInsertRole
  exact ⟨hAccounts ▸ hInsert, hRoles'.trans hRoles, role,
    hRole, hInsertRole⟩

omit [Deployment] in
theorem checkRegister_eq_ok_iff
    {req : RegisterRequest}
    {username : String} :
    checkRegister req = .ok username ↔
      username = ProductService.trimSpace req.username ∧
        3 ≤ username.utf8ByteSize ∧
        username.utf8ByteSize ≤ 64 ∧
        validatePassword req.password = .ok () := by
  unfold checkRegister
  dsimp only
  split
  case isTrue hBad =>
    refine iff_of_false (by simp) ?_
    rintro ⟨rfl, hLow, hHigh, _⟩
    omega
  case isFalse hGood =>
    rw [not_or, Nat.not_lt, Nat.not_lt] at hGood
    cases validatePassword req.password with
    | error e => simp
    | ok =>
        rw [Except.ok.injEq]
        constructor
        · rintro rfl
          exact ⟨rfl, hGood.1, hGood.2, rfl⟩
        · rintro ⟨rfl, _⟩
          rfl

/- A call fails and changes nothing, or it commits. -/
theorem register_cases
    {b : Bcrypt}
    {salt : String}
    {id : Int}
    {req : RegisterRequest}
    {db db' : AccountDB}
    {response : Except AccountErr Unit}
    (hRun : register b salt id req db = (response, db')) :
    (∃ e, response = .error e ∧ db' = db) ∨
      response = .ok () ∧
        ∃ username passwordHash,
          checkRegister req = .ok username ∧
            b.generateFromPassword salt req.password =
              .ok passwordHash ∧
            Commits (registerTx id username passwordHash) db ()
              db' := by
  unfold register at hRun
  split at hRun
  case h_1 e _ =>
    cases hRun
    exact Or.inl ⟨e, rfl, rfl⟩
  case h_2 username hCheck =>
    split at hRun
    case h_1 =>
      cases hRun
      exact Or.inl ⟨_, rfl, rfl⟩
    case h_2 passwordHash hHash =>
      split at hRun
      case h_1 db₁ hTx =>
        cases hRun
        exact Or.inr
          ⟨rfl, username, passwordHash, hCheck, hHash, hTx⟩
      case h_2 e _ =>
        cases hRun
        exact Or.inl ⟨_, rfl, rfl⟩

end UserService

------------------------------------------------------------
-- Roles
------------------------------------------------------------

namespace Dao

/- The one role row of a user decides. -/
theorem userHasRole_iff
    {view : AccountDB}
    {userID : Int}
    {roleName : String} :
    userHasRole view userID roleName = true ↔
      ∃ ur role,
        view.userRoles.find? userID = some ur ∧
          view.roles.find? ur.roleID = some role ∧
          Deployment.collate role.roleName =
            Deployment.collate roleName := by
  unfold userHasRole
  simp only [List.any_eq_true, Bool.and_eq_true,
    decide_eq_true_eq]
  constructor
  · rintro ⟨ur, hMem, rfl, role, hRole, hID, hName⟩
    exact ⟨ur, role, Table.find?_key_of_mem hMem,
      hID ▸ Table.find?_key_of_mem hRole, hName⟩
  · rintro ⟨ur, role, hFind, hRole, hName⟩
    exact ⟨ur, Table.mem_of_find? hFind,
      Table.key_of_find? hFind, role,
      Table.mem_of_find? hRole, Table.key_of_find? hRole,
      hName⟩

omit [Deployment] in
theorem filter_role
    {roles : Table Role}
    {id : Int}
    {role : Role}
    (hRole : roles.find? id = some role) :
    roles.rows.filter (fun r => r.id = id) = [role] := by
  apply Table.filter_eq_of_sublist
  · exact List.singleton_sublist.mpr (Table.mem_of_find? hRole)
  · intro r hMem
    rw [decide_eq_true_eq, List.mem_singleton]
    constructor
    · rintro rfl
      have hFind := Table.find?_key_of_mem hMem
      rw [key_role, hRole] at hFind
      exact (Option.some.inj hFind).symm
    · rintro rfl
      exact Table.key_of_find? hRole

/- The list has one name. -/
theorem listRoleNamesByUserID_eq
    {view : AccountDB}
    {userID : Int}
    {ur : UserRole}
    {role : Role}
    (hFind : view.userRoles.find? userID = some ur)
    (hRole : view.roles.find? ur.roleID = some role) :
    listRoleNamesByUserID view userID = [role.roleName] := by
  rcases Table.exists_split_of_find? hFind with
    ⟨pre, post, hRows, hOthers⟩
  have hKey : ur.userID = userID := Table.key_of_find? hFind
  have hNone :
      ∀ rows : List UserRole, (∀ r ∈ rows, r.userID ≠ userID) →
        (rows.flatMap fun r =>
          if r.userID = userID then
            (view.roles.rows.filter fun role =>
              role.id = r.roleID).map Role.roleName
          else
            []) = [] := by
    intro rows hRows
    rw [List.flatMap_eq_nil_iff]
    exact fun r hMem => if_neg (hRows r hMem)
  unfold listRoleNamesByUserID
  rw [hRows, List.flatMap_append, List.flatMap_cons,
    hNone pre fun r hMem =>
      hOthers r (List.mem_append_left _ hMem),
    hNone post fun r hMem =>
      hOthers r (List.mem_append_right _ hMem),
    if_pos hKey, filter_role hRole]
  rfl

end Dao

------------------------------------------------------------
-- Failures
------------------------------------------------------------

namespace UserService

end UserService

end OrderManagement
