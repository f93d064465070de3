import Mathlib.Data.List.Forall2
import Accounts.Proofs.Server.Handling

/-!
Several accounts at once. Storing a list of accounts comes to the same as storing them one by one in
the order of the list, under either of the two paths for it, so that of accounts with the same name
the last one stays. All of them must have names, or none is stored. A list has to be short enough to
be read as one body, though each of its accounts may be.
-/

namespace Accounts.Server

open Accounts.Text

/-! What is found after a list of accounts has been stored. -/
section Lists

theorem insertAll_cons (account : Account) (rest : List Account) (store : Store) (name : String)
    (named : account.username = some name) :
    insertAll (account :: rest) store = insertAll rest (store.insert name account) := by
  simp [insertAll, named]

theorem find?_insertAll (accounts : List Account) (store : Store) (name : String) :
    (insertAll accounts store).find? name =
      (accounts.findRev? fun account => account.username = some name).or (store.find? name) := by
  induction accounts generalizing store with
  | nil => rfl
  | cons account rest ih =>
    cases named : account.username with
    | none =>
      have skipped : insertAll (account :: rest) store = insertAll rest store := by
        simp [insertAll, named]
      rw [skipped, ih, List.findRev?]
      cases rest.findRev? fun account => account.username = some name <;> simp [named]
    | some own =>
      -- Whoever is found in the rest has been stored after this account.
      rw [insertAll_cons account rest store own named, ih, List.findRev?, Store.find?_insert]
      cases rest.findRev? fun account => account.username = some name with
      | some later => rfl
      | none =>
        by_cases same : name = own
        · simp [named, same]
        · have other : ¬ own = name := fun equal => same equal.symm
          simp [named, same, other]

theorem createUsers_named (accounts : List Account) (store : Store)
    (named : ∀ account ∈ accounts, account.username ≠ none) :
    createUsers accounts store = (statusOnly 200, insertAll accounts store) := by
  rw [createUsers, if_neg]
  intro nameless
  obtain ⟨account, member, none⟩ := List.any_eq_true.mp nameless
  exact named account member (Option.isNone_iff_eq_none.mp none)

theorem createUsers_nameless (accounts : List Account) (store : Store) (account : Account)
    (member : account ∈ accounts) (nameless : account.username = none) :
    createUsers accounts store = (statusOnly 400, store) := by
  rw [createUsers, if_pos]
  exact List.any_eq_true.mpr ⟨account, member, Option.isNone_iff_eq_none.mpr nameless⟩

end Lists

/-! Requests that post a document. -/
section Posting

def bulkPaths : List String := ["/user/createWithArray", "/user/createWithList"]

structure Sends (path : String) (request : Request) : Prop where
  method : request.method = "POST"
  path : (Target.ofBytes request.target).path = bytes path

/-- Whether a request posts a document to a path, in a form in which it is read there. -/
structure Posts {Value : Type} (path : String) (read : List UInt8 → Except Json.Fault Value)
    (request : Request) (value : Value) : Prop extends Sends path request where
  labelled : isLabelledJson request = true
  short : request.body.length ≤ bodyLimit
  reads : read request.body = .ok value

def PostsAll (request : Request) (accounts : List Account) : Prop :=
  ∃ path ∈ bulkPaths, Posts path Account.readList request accounts

def PostsEach (requests : List Request) (accounts : List Account) : Prop :=
  List.Forall₂ (Posts "/user" Account.read) requests accounts

variable (ticket : Ticket) (request : Request) (store : Store)

theorem ofPath?_bulk (path : String) (bulk : path ∈ bulkPaths) :
    Route.ofPath? (bytes path) = some .bulk := by
  simp only [bulkPaths, List.mem_cons, List.not_mem_nil, or_false] at bulk
  rcases bulk with rfl | rfl
  · exact ofPath?_fixed.2.1
  · exact ofPath?_fixed.2.2.1

theorem handle_bulk (path : String) (bulk : path ∈ bulkPaths) (sends : Sends path request) :
    handle ticket request store =
      (withLength (perform ticket request [] .createUsers store).1,
        (perform ticket request [] .createUsers store).2) := by
  have asks : Route.bulk.operation? request.method = some .createUsers := by
    rw [sends.method]
    rfl
  exact handle_asked ticket request store (bytes path) (Target.ofBytes request.target).query .bulk
    .createUsers (by rw [← sends.path]) (ofPath?_bulk path bulk) asks (by simp [sends.method])

theorem handle_postsAll (accounts : List Account) (posts : PostsAll request accounts) :
    handle ticket request store =
      (withLength (createUsers accounts store).1, (createUsers accounts store).2) := by
  obtain ⟨path, bulk, post⟩ := posts
  have read := readBody_written Account.readList request post.labelled post.short accounts
    post.reads
  rw [handle_bulk ticket request store path bulk post.toSends]
  simp only [perform, read]

theorem handle_posts (account : Account) (post : Posts "/user" Account.read request account) :
    handle ticket request store =
      (withLength (createUser account store).1, (createUser account store).2) := by
  have asks : Route.users.operation? request.method = some .createUser := by
    rw [post.method]
    rfl
  have read := readBody_written Account.read request post.labelled post.short account post.reads
  rw [handle_asked ticket request store (bytes "/user") _ .users .createUser
    (by rw [← post.path]) ofPath?_fixed.1 asks (by simp [post.method])]
  simp only [perform, read]

theorem serve_postsEach (requests : List Request) (accounts : List Account)
    (posts : PostsEach requests accounts) (named : ∀ account ∈ accounts, account.username ≠ none) :
    serve ticket store requests =
      (accounts.map fun _ => withLength (statusOnly 200), insertAll accounts store) := by
  induction posts generalizing store with
  | nil => rfl
  | @cons request account _ rest post _ ih =>
    obtain ⟨name, given⟩ := Option.ne_none_iff_exists'.mp (named account List.mem_cons_self)
    have first : handle ticket request store =
        (withLength (statusOnly 200), store.insert name account) := by
      rw [handle_posts ticket request store account post]
      simp only [createUser, given]
    -- The requests for the rest meet a store that has this account.
    have later := ih (store.insert name account) fun other member =>
      named other (List.mem_cons_of_mem account member)
    rw [serve, first, later, insertAll_cons account rest store name given]
    rfl

theorem handle_bulk_alike (another : Request) (path other : String) (bulk : path ∈ bulkPaths)
    (bulkToo : other ∈ bulkPaths) (posted : (Target.ofBytes request.target).path = bytes path)
    (postedToo : (Target.ofBytes another.target).path = bytes other)
    (method : another.method = request.method) (headers : another.headers = request.headers)
    (body : another.body = request.body) :
    handle ticket another store = handle ticket request store := by
  have read := readBody_alike Account.readList request another headers body
  by_cases posts : request.method = "POST"
  · rw [handle_bulk ticket request store path bulk ⟨posts, posted⟩,
      handle_bulk ticket another store other bulkToo ⟨method.trans posts, postedToo⟩]
    simp only [perform, read]
  · have unknown : Route.bulk.operation? request.method = none := if_neg posts
    simp only [handle, posted, postedToo, ofPath?_bulk path bulk, ofPath?_bulk other bulkToo,
      method, unknown]

theorem handle_bulk_tooLong (path : String) (bulk : path ∈ bulkPaths)
    (sends : Sends path request) (labelled : isLabelledJson request = true)
    (long : bodyLimit < request.body.length) :
    handle ticket request store =
      (withLength
        (plainText 413 "Failed to buffer the request body: length limit exceeded" []), store) := by
  have refused : readBody Account.readList request =
      .error (plainText 413 "Failed to buffer the request body: length limit exceeded" []) := by
    rw [readBody, labelled, if_neg (by simp), if_pos long]
  rw [handle_bulk ticket request store path bulk sends]
  simp only [perform, refused]

end Posting

/-! Lists that are written out. -/
section Writing

def posting (path text : String) : Request :=
  ⟨"POST", bytes path, [(bytes "content-type", bytes "application/json")], bytes text⟩

theorem posting_sends (path text : String) (known : path ∈ "/user" :: bulkPaths) :
    Sends path (posting path text) := by
  constructor
  case method => rfl
  case path =>
    change (Target.ofBytes (bytes path)).path = bytes path
    simp only [bulkPaths, List.mem_cons, List.not_mem_nil, or_false] at known
    rcases known with rfl | rfl | rfl <;> decide

theorem posting_labelled (path text : String) : isLabelledJson (posting path text) = true := by
  have labels : isLabelledJson (posting "" "") = true := by decide +kernel
  exact labels

theorem posting_posts {Value : Type} (path text : String)
    (read : List UInt8 → Except Json.Fault Value) (value : Value)
    (known : path ∈ "/user" :: bulkPaths) (short : (bytes text).length ≤ bodyLimit)
    (reads : read (bytes text) = .ok value) : Posts path read (posting path text) value :=
  ⟨posting_sends path text known, posting_labelled path text, short, reads⟩

theorem posting_postsEach (users : List User)
    (short : ∀ user ∈ users, (bytes user.write).length ≤ bodyLimit) :
    PostsEach (users.map fun user => posting "/user" user.write) (users.map .ofUser) := by
  rw [PostsEach, List.forall₂_map_left_iff, List.forall₂_map_right_iff, List.forall₂_same]
  intro user member
  exact posting_posts "/user" _ Account.read (.ofUser user) List.mem_cons_self (short user member)
    (Account.carries_ofUser user)

theorem mem_elementsTail (elements : List (List UInt8)) (element : List UInt8)
    (member : element ∈ elements) : element.length < (Json.elementsTail elements).length := by
  obtain ⟨before, after, rfl⟩ := List.append_of_mem member
  simp only [Json.elementsTail, List.flatMap_append, List.flatMap_cons, List.length_append,
    List.length_cons]
  omega

theorem elementsTail_length (elements : List (List UInt8)) (least : Nat)
    (each : ∀ element ∈ elements, least ≤ element.length) :
    elements.length * (least + 1) ≤ (Json.elementsTail elements).length := by
  induction elements with
  | nil => simp
  | cons element rest ih =>
    have here := each element List.mem_cons_self
    have later := ih fun other member => each other (List.mem_cons_of_mem element member)
    simp only [Json.elementsTail, List.flatMap_cons, List.length_append, List.length_cons,
      Nat.add_one_mul] at later ⊢
    omega

theorem writeList_length (users : List User) : (bytes (User.writeList users)).length =
    (Json.joinElements (users.map fun user => bytes user.write)).length + 2 := by
  have wrapped := User.bytes_wrapped "[" "]" 0x5B 0x5D (",".intercalate (users.map User.write))
    User.bytes_brackets.1 User.bytes_brackets.2.1 []
  rw [User.bytes_intercalate, List.append_nil, List.map_map] at wrapped
  rw [User.writeList, wrapped]
  simp [Function.comp_def]

theorem write_length (users : List User) (user : User) (member : user ∈ users) :
    (bytes user.write).length < (bytes (User.writeList users)).length := by
  rw [writeList_length]
  cases users with
  | nil => cases member
  | cons first later =>
    rw [List.map_cons, Json.joinElements, List.length_append]
    rcases List.mem_cons.mp member with rfl | behind
    · omega
    · have within := mem_elementsTail _ _
        (List.mem_map_of_mem (f := fun user : User => bytes user.write) behind)
      omega

/-- A list takes at least the room that it would take if all its users were as short as can be, with
a sign before each of them. -/
theorem writeList_long (users : List User) (least : Nat)
    (each : ∀ user ∈ users, least ≤ (bytes user.write).length) :
    users.length * (least + 1) < (bytes (User.writeList users)).length := by
  rw [writeList_length]
  cases users with
  | nil => simp
  | cons first later =>
    have here := each first List.mem_cons_self
    have tail := elementsTail_length (later.map fun user => bytes user.write) least (by
      simpa using fun user member => each user (List.mem_cons_of_mem first member))
    rw [List.length_map] at tail
    rw [List.map_cons, Json.joinElements, List.length_append, List.length_cons, Nat.add_one_mul]
    omega

end Writing

/-- Storing several accounts in one go against storing them one by one. -/
structure StoresInTurn (ticket : Ticket) (store : Store) : Prop where
  /-- The two paths are one: under either, the same request comes to the same. -/
  paths : ∀ (request another : Request) (path other : String), path ∈ bulkPaths →
    other ∈ bulkPaths → (Target.ofBytes request.target).path = bytes path →
    (Target.ofBytes another.target).path = bytes other → another.method = request.method →
    another.headers = request.headers → another.body = request.body →
    handle ticket another store = handle ticket request store
  /-- A list is answered as each of its accounts would be, and leaves the store that they would
  leave one after the other. -/
  singles : ∀ request accounts requests, PostsAll request accounts → PostsEach requests accounts →
    (∀ account ∈ accounts, account.username ≠ none) →
    serve ticket store requests =
      (accounts.map fun _ => (handle ticket request store).1, (handle ticket request store).2)
  /-- The last account of a name stays, and names that are not in the list keep theirs. -/
  stored : ∀ request accounts, PostsAll request accounts →
    (∀ account ∈ accounts, account.username ≠ none) →
    (handle ticket request store).1 = withLength (statusOnly 200) ∧
      ∀ name, (handle ticket request store).2.find? name =
        (accounts.findRev? fun account => account.username = some name).or (store.find? name)
  nameless : ∀ request accounts, PostsAll request accounts →
    ∀ account ∈ accounts, account.username = none →
    handle ticket request store = (withLength (statusOnly 400), store)
  /-- What is too long to be read is refused, too. -/
  tooLong : ∀ (request : Request) (path : String), path ∈ bulkPaths → Sends path request →
    isLabelledJson request = true → bodyLimit < request.body.length →
    (handle ticket request store).1.status = 413 ∧ (handle ticket request store).2 = store
  /-- A list that a client has written and that is short enough can be posted, and so can each of
  its users. -/
  given : ∀ users, (bytes (User.writeList users)).length ≤ bodyLimit →
    (∀ path ∈ bulkPaths, Posts path Account.readList (posting path (User.writeList users))
        (users.map .ofUser)) ∧
      PostsEach (users.map fun user => posting "/user" user.write) (users.map .ofUser)

theorem bulk_stores_in_turn (ticket : Ticket) (store : Store) : StoresInTurn ticket store := by
  constructor
  case paths =>
    intro request another path other bulk bulkToo posted postedToo method headers body
    exact handle_bulk_alike ticket request store another path other bulk bulkToo posted postedToo
      method headers body
  case singles =>
    intro request accounts requests posts each named
    rw [serve_postsEach ticket store requests accounts each named,
      handle_postsAll ticket request store accounts posts, createUsers_named accounts store named]
  case stored =>
    intro request accounts posts named
    rw [handle_postsAll ticket request store accounts posts, createUsers_named accounts store named]
    exact ⟨rfl, find?_insertAll accounts store⟩
  case nameless =>
    intro request accounts posts account member nameless
    rw [handle_postsAll ticket request store accounts posts,
      createUsers_nameless accounts store account member nameless]
  case tooLong =>
    intro request path bulk sends labelled long
    rw [handle_bulk_tooLong ticket request store path bulk sends labelled long]
    exact ⟨rfl, rfl⟩
  case given =>
    intro users short
    constructor
    · intro path bulk
      exact posting_posts path _ Account.readList (users.map .ofUser)
        (List.mem_cons_of_mem _ bulk) short (Account.carries_ofUsers users)
    · apply posting_postsEach users
      intro user member
      exact Nat.le_trans (Nat.le_of_lt (write_length users user member)) short

def crowd : List User := List.replicate 131073 (User.named "a")

/-- Each of them can be stored on its own, but all of them at once are refused. -/
theorem bulk_refuses_crowd :
    (∀ user ∈ crowd, user.username ≠ none) ∧
      (serve ⟨"", 0⟩ Store.empty (crowd.map fun user => posting "/user" user.write)).1 =
        crowd.map (fun _ => withLength (statusOnly 200)) ∧
      (serve ⟨"", 0⟩ Store.empty (crowd.map fun user => posting "/user" user.write)).2.find? "a" =
        some (.ofUser (User.named "a")) ∧
      ∀ path ∈ bulkPaths,
        (handle ⟨"", 0⟩ (posting path (User.writeList crowd)) Store.empty).1.status = 413 ∧
          (handle ⟨"", 0⟩ (posting path (User.writeList crowd)) Store.empty).2.find? "a" = none := by
  have same (user : User) (member : user ∈ crowd) : user = User.named "a" :=
    List.eq_of_mem_replicate member
  have named : ∀ user ∈ crowd, user.username ≠ none := by
    intro user member
    rw [same user member]
    exact Option.some_ne_none "a"
  have length (user : User) (member : user ∈ crowd) : (bytes user.write).length = 16 := by
    rw [same user member]
    decide +kernel
  have each := posting_postsEach crowd fun user member => by
    rw [length user member]
    decide
  have long : bodyLimit < (bytes (User.writeList crowd)).length := by
    have whole := writeList_long crowd 16 fun user member =>
      Nat.le_of_eq (length user member).symm
    rw [crowd, List.length_replicate] at whole
    exact Nat.lt_trans (by decide) whole
  have served := serve_postsEach ⟨"", 0⟩ Store.empty _ (crowd.map .ofUser) each (by
    rw [List.forall_mem_map]
    exact named)
  refine ⟨named, ?_, ?_, ?_⟩
  · rw [served, List.map_map]
    rfl
  · rw [served, find?_insertAll, List.findRev?_eq_find?_reverse, crowd, List.map_replicate,
      List.reverse_replicate, List.find?_replicate]
    simp [User.named, Account.ofUser]
  · intro path bulk
    rw [handle_bulk_tooLong ⟨"", 0⟩ (posting path (User.writeList crowd)) Store.empty path bulk
      (posting_sends path _ (List.mem_cons_of_mem _ bulk)) (posting_labelled path _) long]
    exact ⟨rfl, rfl⟩

end Accounts.Server
