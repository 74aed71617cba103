import OrderManagement.Library.Table
import OrderManagement.Library.Transaction
import OrderManagement.Model.Schema

/-
  The password change of `user_service.go`, with the rows
  and the statements of `user_dao.go` that it needs. The
  package bcrypt is a parameter.

  Main declarations:
    * `User` and `Bcrypt`
    * `Dao.getUserByID` and `Dao.updateUserPassword`
    * `UserService.checkUpdatePassword` and
      `UserService.updatePassword`
    * `commits_updatePassword`
-/

namespace OrderManagement

open Transaction

------------------------------------------------------------
-- Users
------------------------------------------------------------

structure User where
  id : Int
  passwordHash : String
  deletedAt : Option Time
deriving DecidableEq

instance : Keyed User Int where
  key := User.id

@[simp] theorem key_user
    (u : User) :
    Keyed.key u = u.id := rfl

abbrev Users := Table User

structure UpdatePasswordRequest where
  oldPassword : String
  newPassword : String
deriving DecidableEq

/- `database` is an error of the driver, and `bcrypt` one of
   the package. -/
inductive UserErr
| invalidUserID
| passwordUnchanged
| passwordInvalid
| userNotFound
| oldPasswordIncorrect
| passwordUpdateConflict
| database
| bcrypt
deriving DecidableEq

/- A transaction over the table of users. -/
abbrev UserTx (α : Type) := Transaction Users UserErr α

/-
  The two functions of the package: a hash from the random
  bytes of the salt and a password, with the cost that the
  code asks for, and whether a comparison has no error.
-/
structure Bcrypt where
  generateFromPassword :
    String → String → Except UserErr String
  compareHashAndPassword : String → String → Bool

------------------------------------------------------------
-- Statements
------------------------------------------------------------

namespace Dao

/- A plain read answers from the snapshot. Rows that are
   marked as deleted do not count. -/
def getUserByID
    (view : Users)
    (id : Int) : Option User :=
  (view.find? id).filter fun user => user.deletedAt = none

/- The number of rows that the conditional UPDATE changed;
   the hashes are compared as the column compares texts. -/
def updateUserPassword
    [Deployment]
    (id : Int)
    (oldHash newHash : String) : UserTx Nat := do
  let users ← get
  match (users.find? id).filter
      fun user =>
        user.deletedAt = none ∧
          Deployment.collate user.passwordHash =
            Deployment.collate oldHash with
  | none => return 0
  | some user =>
      set (users.update { user with passwordHash := newHash })
      return 1

end Dao

------------------------------------------------------------
-- The Password Change
------------------------------------------------------------

/- `len` counts bytes. -/
def validatePassword
    (password : String) : Except UserErr Unit :=
  if password.utf8ByteSize < 6 ∨
      72 < password.utf8ByteSize then
    .error .passwordInvalid
  else
    .ok ()

namespace UserService

/- What is checked before the transaction. -/
def checkUpdatePassword
    (userID : Int)
    (req : UpdatePasswordRequest) : Except UserErr Unit :=
  if userID ≤ 0 then
    .error .invalidUserID
  else if req.oldPassword = req.newPassword then
    .error .passwordUnchanged
  else
    validatePassword req.newPassword

/- The part of the transaction that computes: the row that
   was read and the new hash. -/
def hashPassword
    (b : Bcrypt)
    (view : Users)
    (salt : String)
    (userID : Int)
    (req : UpdatePasswordRequest) :
    Except UserErr (User × String) :=
  match Dao.getUserByID view userID with
  | none => .error .userNotFound
  | some user =>
      if b.compareHashAndPassword user.passwordHash
          req.oldPassword = false then
        .error .oldPasswordIncorrect
      else
        match b.generateFromPassword salt req.newPassword with
        | .error e => .error e
        | .ok newHash => .ok (user, newHash)

variable [Deployment]

/- The transaction of UpdatePassword. -/
def updatePassword
    (b : Bcrypt)
    (view : Users)
    (salt : String)
    (userID : Int)
    (req : UpdatePasswordRequest) : UserTx Unit :=
  match hashPassword b view salt userID req with
  | .error e => throw e
  | .ok (user, newHash) => do
      let rows ←
        Dao.updateUserPassword userID user.passwordHash
          newHash
      ensure (rows = 1) .passwordUpdateConflict

end UserService

------------------------------------------------------------
-- Effects
------------------------------------------------------------

theorem hashPassword_ok
    {b : Bcrypt}
    {view : Users}
    {salt newHash : String}
    {userID : Int}
    {req : UpdatePasswordRequest}
    {user : User}
    (hHash :
      UserService.hashPassword b view salt userID req =
        .ok (user, newHash)) :
    view.find? userID = some user ∧
      b.compareHashAndPassword user.passwordHash
        req.oldPassword = true ∧
      b.generateFromPassword salt req.newPassword =
        .ok newHash := by
  unfold UserService.hashPassword at hHash
  cases hFound : Dao.getUserByID view userID with
  | none => simp [hFound] at hHash
  | some seen =>
      simp only [hFound] at hHash
      cases hMatch :
          b.compareHashAndPassword seen.passwordHash
            req.oldPassword with
      | false => simp [hMatch] at hHash
      | true =>
          cases hGenerate :
              b.generateFromPassword salt
                req.newPassword with
          | error e => simp [hMatch, hGenerate] at hHash
          | ok hash =>
              simp only [hMatch, hGenerate, Bool.true_eq_false,
                if_false, Except.ok.injEq,
                Prod.mk.injEq] at hHash
              rcases hHash with ⟨rfl, rfl⟩
              exact ⟨(Option.filter_eq_some_iff.mp hFound).1,
                hMatch, rfl⟩

/-
  A change that commits replaces the hash of the current
  row, which equals the one that was read.
-/
theorem commits_updatePassword
    [Deployment]
    {b : Bcrypt}
    {view users users' : Users}
    {salt : String}
    {userID : Int}
    {req : UpdatePasswordRequest}
    (hCommit :
      Commits
        (UserService.updatePassword b view salt userID req)
        users () users') :
    ∃ user newHash row,
      UserService.hashPassword b view salt userID req =
          .ok (user, newHash) ∧
        users.find? userID = some row ∧
        Deployment.collate row.passwordHash =
          Deployment.collate user.passwordHash ∧
        users' =
          users.update { row with passwordHash := newHash } := by
  unfold UserService.updatePassword at hCommit
  cases hHash :
      UserService.hashPassword b view salt userID req with
  | error e => simp [hHash] at hCommit
  | ok hashed =>
      rcases hashed with ⟨user, newHash⟩
      unfold Dao.updateUserPassword at hCommit
      simp only [hHash, commits_bind, commits_get,
        commits_ensure] at hCommit
      rcases hCommit with
        ⟨rows, mid, ⟨_, _, ⟨rfl, rfl⟩, hUpdate⟩, rfl, rfl⟩
      split at hUpdate
      case h_1 => simp at hUpdate
      case h_2 row hWhere =>
        simp only [commits_bind, commits_set,
          commits_pure] at hUpdate
        rcases hUpdate with ⟨_, _, rfl, _, rfl⟩
        rcases Option.filter_eq_some_iff.mp hWhere with
          ⟨hRow, hSame⟩
        refine ⟨user, newHash, row, rfl, hRow, ?_, rfl⟩
        simp only [decide_eq_true_eq] at hSame
        exact hSame.2

end OrderManagement
