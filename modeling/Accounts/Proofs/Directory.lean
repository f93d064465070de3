import Accounts.Proofs.Transport.Answering
import Accounts.Session.State

/-!
Directories. To a caller the service is no more than a directory, which says who is known under each
name: a call comes to what the directory has, and may put accounts into it or take them out.
-/

namespace Accounts

open Accounts.Client

/-- Who is known under each name. -/
abbrev Directory := String → Option User

namespace Directory

def empty : Directory := fun _ => none

def put (directory : Directory) (name : String) (user : User) : Directory :=
  fun other => if other = name then some user else directory other

def remove (directory : Directory) (name : String) : Directory :=
  fun other => if other = name then none else directory other

/-- Puts in users in order, unless there is one without a name among them. -/
def putAll? (directory : Directory) : List User → Option Directory
  | [] => some directory
  | user :: later =>
    match user.username with
    | none => none
    | some name => (directory.put name user).putAll? later

def register (directory : Directory) (users : List User) : Session.Item × Directory :=
  match directory.putAll? users with
  | none => (.error (.http 400 ""), directory)
  | some later => (.ok .nothing, later)

/-- What a call comes to for its caller, and the directory after it. A login hands out a session. -/
def answer (session : String) (call : Call) (directory : Directory) : Session.Item × Directory :=
  match call with
  | .createUser user =>
    match user.username with
    | none => (.error (.http 400 ""), directory)
    | some name => (.ok .nothing, directory.put name user)
  | .createUsersWithArray users | .createUsersWithList users => directory.register users
  | .deleteUser name =>
    match directory name with
    | none => (.error .notFound, directory)
    | some _ => (.ok .nothing, directory.remove name)
  | .getUser name =>
    match directory name with
    | none => (.error .notFound, directory)
    | some user => (.ok (.user user), directory)
  | .login _ _ => (.ok (.text ("logged in user session:" ++ session)), directory)
  | .logout => (.ok .nothing, directory)
  | .updateUser name user =>
    match directory name with
    | none => (.error .notFound, directory)
    | some _ =>
      let key := user.username.getD name
      (.ok .nothing, (directory.remove name).put key { user with username := some key })

end Directory

namespace Server

/-! What a store has. -/
section Tracking

/-- Whether a store has what a directory says, and nothing else. -/
def Store.Tracks (store : Store) (directory : Directory) : Prop :=
  ∀ name, store.find? name = (directory name).map .ofUser

def Store.directory (store : Store) : Directory := fun name => (store.find? name).map Account.toUser

theorem tracks_directory (store : Store) : store.Tracks store.directory := by
  intro name
  rw [Store.directory, Option.map_map]
  exact (congrFun Option.map_id (store.find? name)).symm

theorem tracks_empty : Store.empty.Tracks Directory.empty := fun _ => rfl

variable (store : Store) (directory : Directory) (tracks : store.Tracks directory)
include tracks

theorem tracks_insert (name : String) (user : User) :
    (store.insert name (.ofUser user)).Tracks (directory.put name user) := by
  intro other
  rw [Store.find?_insert, Directory.put, tracks other]
  split <;> rfl

theorem tracks_erase (name : String) : (store.erase name).Tracks (directory.remove name) := by
  intro other
  rw [Store.find?_erase, Directory.remove, tracks other]
  split <;> rfl

omit tracks in
theorem tracks_insertAll (users : List User) (tracks : store.Tracks directory) :
    match directory.putAll? users with
    | none => ((users.map Account.ofUser).any fun account => account.username.isNone) = true
    | some later =>
      ((users.map Account.ofUser).any fun account => account.username.isNone) = false ∧
        (insertAll (users.map .ofUser) store).Tracks later := by
  induction users generalizing store directory with
  | nil => exact ⟨rfl, tracks⟩
  | cons user rest ih =>
    cases named : user.username with
    | none => simp [Directory.putAll?, named, Account.ofUser]
    | some name =>
      -- The tail speaks of the store with this user in it, which the directory still describes.
      have later := ih (store.insert name (.ofUser user)) (directory.put name user)
        (tracks_insert store directory tracks name user)
      have put : directory.putAll? (user :: rest) = (directory.put name user).putAll? rest := by
        rw [Directory.putAll?, named]
      have known : (Account.ofUser user).username = some name := named
      have stored : insertAll (.ofUser user :: rest.map .ofUser) store =
          insertAll (rest.map .ofUser) (store.insert name (.ofUser user)) := by
        simp [insertAll, known]
      rw [put, List.map_cons, stored, List.any_cons, known]
      exact later

end Tracking

end Server

/-! What a caller makes of the server's answers. -/
section Decoding

open Accounts.Transport

/-- Whether an answer with a store comes to what a caller is told, with the directory after it. -/
def ComesTo (kind : BodyKind) (answered : Server.Response × Server.Store)
    (told : Session.Item × Directory) : Prop :=
  (∀ headers, ∃ outcome : Session.Outcome,
    decodeResponse ⟨200, 300⟩ kind ⟨answered.1.status, headers, answered.1.body⟩ = outcome ∧
      Session.itemOf outcome = told.1 ∧ ∀ reply, outcome = .ok reply → reply.status = 200) ∧
    answered.2.Tracks told.2

theorem comesTo_done (store : Server.Store) (directory : Directory)
    (tracks : store.Tracks directory) :
    ComesTo .nothing (Server.statusOnly 200, store) (.ok .nothing, directory) := by
  refine ⟨?_, tracks⟩
  intro headers
  refine ⟨_, rfl, rfl, ?_⟩
  rintro reply ⟨rfl⟩
  rfl

theorem comesTo_failed (kind : BodyKind) (status : Nat) (failure : Failure)
    (fails : ∀ headers,
      decodeResponse ⟨200, 300⟩ kind ⟨status, headers, ""⟩ = .error failure)
    (store : Server.Store) (directory : Directory) (tracks : store.Tracks directory) :
    ComesTo kind (Server.statusOnly status, store) (.error failure, directory) := by
  refine ⟨?_, tracks⟩
  intro headers
  refine ⟨_, fails headers, rfl, ?_⟩
  intro reply impossible
  cases impossible

theorem comesTo_missing (kind : BodyKind) (store : Server.Store) (directory : Directory)
    (tracks : store.Tracks directory) :
    ComesTo kind (Server.statusOnly 404, store) (.error .notFound, directory) :=
  comesTo_failed kind 404 .notFound (fun _ => rfl) store directory tracks

theorem comesTo_unnamed (kind : BodyKind) (store : Server.Store) (directory : Directory)
    (tracks : store.Tracks directory) :
    ComesTo kind (Server.statusOnly 400, store) (.error (.http 400 ""), directory) :=
  comesTo_failed kind 400 (.http 400 "") (fun _ => rfl) store directory tracks

theorem comesTo_found (user : User) (store : Server.Store) (directory : Directory)
    (tracks : store.Tracks directory) :
    ComesTo .user (Server.accountReply (.ofUser user), store) (.ok (.user user), directory) := by
  refine ⟨?_, tracks⟩
  intro headers
  have read : BodyKind.user.decode user.write = .ok (.user user) := by
    rw [BodyKind.decode, User.read_write]
    rfl
  have decoded : decodeResponse ⟨200, 300⟩ .user ⟨200, headers, user.write⟩ =
      .ok ⟨200, headers, .user user⟩ := by
    rw [decodeResponse, read]
    rfl
  refine ⟨_, decoded, rfl, ?_⟩
  rintro reply ⟨rfl⟩
  rfl

theorem comesTo_registered (users : List User) (store : Server.Store) (directory : Directory)
    (tracks : store.Tracks directory) :
    ComesTo .nothing (Server.createUsers (users.map .ofUser) store)
      (directory.register users) := by
  have stored := Server.tracks_insertAll store directory users tracks
  unfold Server.createUsers Directory.register
  cases put : directory.putAll? users with
  | none =>
    rw [put] at stored
    rw [if_pos stored]
    exact comesTo_unnamed .nothing store directory tracks
  | some later =>
    rw [put] at stored
    rw [stored.1]
    exact comesTo_done _ later stored.2

/-- The server answers a call with what its caller makes of the directory. -/
theorem answerTo_comesTo (ticket : Server.Ticket) (call : Call) (store : Server.Store)
    (directory : Directory) (tracks : store.Tracks directory) :
    ComesTo call.expects (answerTo ticket call store) (directory.answer ticket.session call) := by
  cases call with
  | createUser user =>
    have same : (Server.Account.ofUser user).username = user.username := rfl
    simp only [answerTo, Server.createUser, Directory.answer, same]
    cases user.username with
    | none => exact comesTo_unnamed .nothing store directory tracks
    | some name => exact comesTo_done _ _ (Server.tracks_insert store directory tracks name user)
  | createUsersWithArray users => exact comesTo_registered users store directory tracks
  | createUsersWithList users => exact comesTo_registered users store directory tracks
  | deleteUser name =>
    simp only [answerTo, Server.deleteUser, Directory.answer, tracks name]
    cases directory name with
    | none => exact comesTo_missing .nothing store directory tracks
    | some user => exact comesTo_done _ _ (Server.tracks_erase store directory tracks name)
  | getUser name =>
    simp only [answerTo, Server.getUser, Directory.answer, tracks name]
    cases directory name with
    | none => exact comesTo_missing .user store directory tracks
    | some user => exact comesTo_found user store directory tracks
  | login username password =>
    refine ⟨?_, tracks⟩
    intro headers
    refine ⟨_, rfl, rfl, ?_⟩
    rintro reply ⟨rfl⟩
    rfl
  | logout => exact comesTo_done store directory tracks
  | updateUser name user =>
    simp only [answerTo, Server.updateUser, Directory.answer, tracks name]
    cases directory name with
    | none => exact comesTo_missing .nothing store directory tracks
    | some former =>
      have erased := Server.tracks_erase store directory tracks name
      exact comesTo_done _ _ (Server.tracks_insert _ _ erased (user.username.getD name)
        { user with username := some (user.username.getD name) })

end Decoding

end Accounts
