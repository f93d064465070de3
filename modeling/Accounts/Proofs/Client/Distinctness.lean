import Accounts.Proofs.Client.Addresses
import Accounts.Proofs.Server.Account

/-!
Telling calls apart. The method, the address and the body of a request say which call it stands for
and with which arguments: names, parameters and users are written so that they can be read back, and
what a call puts behind the base address no other call does. Only a look-up can imitate another
call: that of an account which is named like a fixed path and, where the base address has a query
already, that of one which is named like a path with parameters.
-/

namespace Accounts.Client

open Accounts.Text

structure Agree (first second : Http.Request) : Prop where
  method : first.method = second.method
  url : first.url = second.url
  body : first.body = second.body

/-! What a call puts behind the base address. -/
section Addresses

variable (settings : Settings)

theorem url_bare (call : Call) (bare : call.query = []) :
    call.url settings = settings.basePath ++ call.path := by
  simp [Call.url, bare, Form.present, Form.append]

def joint (settings : Settings) : String :=
  if settings.basePath.toList.contains '?' then "&" else "?"

def parameters (username password : String) : String :=
  Form.write [⟨"username", username⟩, ⟨"password", password⟩]

theorem url_login (username password : String) :
    (Call.login username password).url settings = settings.basePath ++
      ("/user/" ++ ("login" ++ (joint settings ++ parameters username password))) := by
  have front : (settings.basePath ++ "/user/login").toList.contains '?' =
      settings.basePath.toList.contains '?' := by
    simp
  have path : "/user/login" = "/user/" ++ "login" := by decide
  have pairs : Form.present (Call.login username password).query =
      [⟨"username", username⟩, ⟨"password", password⟩] := rfl
  rw [Call.url, pairs, Form.append, if_neg (by simp), Call.path, front, path]
  simp only [joint, parameters, String.append_assoc]

theorem parameters_injective (username password other another : String)
    (same : parameters username password = parameters other another) :
    username = other ∧ password = another := by
  have pairs := Form.write_injective _ _ same
  simpa using pairs

theorem path_same (first second : Call) (bare : first.query = []) (also : second.query = [])
    (same : first.url settings = second.url settings) : first.path = second.path := by
  rw [url_bare settings first bare, url_bare settings second also] at same
  exact (String.append_right_inj _).mp same

theorem accountPath_injective (name other : String)
    (same : Call.accountPath name = Call.accountPath other) : name = other := by
  rw [accountPath_eq, accountPath_eq] at same
  exact Percent.encodeSegment_injective name other ((String.append_right_inj _).mp same)

/-- A look-up whose segment is spelled like what another call puts behind the accounts. -/
inductive Imitates (settings : Settings) : Call → Call → Prop where
  | logout : Imitates settings (.getUser "logout") .logout
  | login (name username password : String) (queried : '?' ∈ settings.basePath.toList)
      (spelled : Percent.encodeSegment name = "login&" ++ parameters username password) :
      Imitates settings (.getUser name) (.login username password)

theorem imitates_logout (name : String)
    (same : (Call.getUser name).url settings = Call.logout.url settings) :
    Imitates settings (.getUser name) .logout := by
  have path := path_same settings (.getUser name) .logout rfl rfl same
  have fixed : Call.logout.path = Call.accountPath "logout" := by decide
  rw [fixed] at path
  rw [accountPath_injective name "logout" path]
  exact .logout

theorem imitates_login (name username password : String)
    (same : (Call.getUser name).url settings = (Call.login username password).url settings) :
    Imitates settings (.getUser name) (.login username password) := by
  -- Behind the path of the accounts there are a segment on one side and a path with parameters on
  -- the other.
  rw [url_bare settings (.getUser name) rfl, url_login, Call.path, accountPath_eq,
    String.append_right_inj, String.append_right_inj] at same
  by_cases queried : settings.basePath.toList.contains '?' = true
  · have split : "login&" = "login" ++ "&" := by decide
    rw [joint, if_pos queried, ← String.append_assoc, ← split] at same
    exact .login name username password (List.contains_iff_mem.mp queried) same
  · -- A question mark is never part of a segment.
    rw [joint, if_neg queried] at same
    have mark : '?' ∈ (Percent.encodeSegment name).toList := by simp [same]
    exact absurd (encodeSegment_plain name '?' mark) (by decide)

theorem login_same (username password other another : String)
    (same : (Call.login username password).url settings = (Call.login other another).url settings) :
    username = other ∧ password = another := by
  rw [url_login, url_login] at same
  simp only [String.append_right_inj] at same
  exact parameters_injective username password other another same

theorem login_logout (username password : String) :
    (Call.login username password).url settings ≠ Call.logout.url settings := by
  intro same
  have split : Call.logout.path = "/user/" ++ "logout" := by decide
  rw [url_login, url_bare settings .logout rfl, split, String.append_right_inj,
    String.append_right_inj] at same
  have fourth := congrArg (fun text => text.toList[3]?) same
  simp at fourth

end Addresses

/-! Calls by their methods. -/
section Methods

variable (settings : Settings) (first second : Call)

theorem texts_injective : Function.Injective User.write ∧ Function.Injective User.writeList :=
  ⟨Server.Account.carries_injective _ _ _ User.read_write fun _ _ same => same,
    Server.Account.carries_injective _ _ _ User.readList_writeList fun _ _ same => same⟩

variable (url : first.url settings = second.url settings) (body : first.body = second.body)
include url body

theorem posts_apart (post : first.method = .post) (also : second.method = .post) :
    first = second := by
  obtain ⟨users, lists⟩ := texts_injective
  have bare : first.query = [] ∧ second.query = [] := by
    constructor
    · cases first <;> first | rfl | cases post
    · cases second <;> first | rfl | cases also
  have path := path_same settings first second bare.1 bare.2 url
  -- The three paths are fixed and differ, so that only the same endpoint can have built both; the
  -- text of the body then says of which users.
  cases first with
  | deleteUser | getUser | login | logout | updateUser => cases post
  | createUser user =>
    cases second with
    | deleteUser | getUser | login | logout | updateUser => cases also
    | createUser other => rw [users (Option.some.inj body)]
    | createUsersWithArray | createUsersWithList => simp [Call.path] at path
  | createUsersWithArray several =>
    cases second with
    | deleteUser | getUser | login | logout | updateUser => cases also
    | createUsersWithArray others => rw [lists (Option.some.inj body)]
    | createUser | createUsersWithList => simp [Call.path] at path
  | createUsersWithList several =>
    cases second with
    | deleteUser | getUser | login | logout | updateUser => cases also
    | createUsersWithList others => rw [lists (Option.some.inj body)]
    | createUser | createUsersWithArray => simp [Call.path] at path

omit body in
theorem deletes_apart (delete : first.method = .delete) (also : second.method = .delete) :
    first = second := by
  cases first with
  | deleteUser name =>
    cases second with
    | deleteUser other =>
      have path := path_same settings (.deleteUser name) (.deleteUser other) rfl rfl url
      rw [accountPath_injective name other path]
    | _ => cases also
  | _ => cases delete

theorem puts_apart (put : first.method = .put) (also : second.method = .put) :
    first = second := by
  cases first with
  | updateUser name user =>
    cases second with
    | updateUser other another =>
      have path := path_same settings _ _ rfl rfl url
      rw [accountPath_injective name other path, texts_injective.1 (Option.some.inj body)]
    | _ => cases also
  | _ => cases put

omit body in
theorem gets_apart (get : first.method = .get) (also : second.method = .get) :
    first = second ∨ Imitates settings first second ∨ Imitates settings second first := by
  cases first with
  | getUser name =>
    cases second with
    | getUser other =>
      have path := path_same settings (.getUser name) (.getUser other) rfl rfl url
      exact Or.inl (congrArg Call.getUser (accountPath_injective name other path))
    | login username password => exact Or.inr (Or.inl (imitates_login settings _ _ _ url))
    | logout => exact Or.inr (Or.inl (imitates_logout settings name url))
    | _ => cases also
  | login username password =>
    cases second with
    | getUser name => exact Or.inr (Or.inr (imitates_login settings _ _ _ url.symm))
    | login other another =>
      obtain ⟨names, passwords⟩ := login_same settings username password other another url
      rw [names, passwords]
      exact Or.inl rfl
    | logout => exact absurd url (login_logout settings username password)
    | _ => cases also
  | logout =>
    cases second with
    | getUser name => exact Or.inr (Or.inr (imitates_logout settings name url.symm))
    | login username password => exact absurd url.symm (login_logout settings username password)
    | logout => exact Or.inl rfl
    | _ => cases also
  | _ => cases get

end Methods

/-! Any two calls. -/
section Calls

variable (settings : Settings) (first second : Call)

theorem agree_apart (agree : Agree (first.draft settings).request (second.draft settings).request) :
    first = second ∨ Imitates settings first second ∨ Imitates settings second first := by
  have same : second.method = first.method := agree.method.symm
  cases method : first.method with
  | post => exact Or.inl (posts_apart settings _ _ agree.url agree.body method (same.trans method))
  | put => exact Or.inl (puts_apart settings _ _ agree.url agree.body method (same.trans method))
  | delete => exact Or.inl (deletes_apart settings _ _ agree.url method (same.trans method))
  | get => exact gets_apart settings _ _ agree.url method (same.trans method)

theorem agree_whole : Agree (first.draft settings).request (second.draft settings).request ↔
    (first.draft settings).request = (second.draft settings).request := by
  constructor
  · rintro ⟨method, url, body⟩
    have content : first.contentHeaders = second.contentHeaders := by
      have bodies : first.body = second.body := body
      rw [Call.contentHeaders, Call.contentHeaders, bodies]
    have headers : (first.draft settings).request.headers =
        (second.draft settings).request.headers := congrArg (settings.headers ++ ·) content
    rw [Http.Request.mk.injEq]
    exact ⟨method, url, headers, body, rfl⟩
  · intro same
    rw [same]
    exact ⟨rfl, rfl, rfl⟩

theorem imitates_agree (imitates : Imitates settings first second) :
    Agree (first.draft settings).request (second.draft settings).request := by
  cases imitates with
  | logout =>
    have path : Call.accountPath "logout" = "/user/logout" := by decide
    refine ⟨rfl, ?_, rfl⟩
    change (Call.getUser "logout").url settings = Call.logout.url settings
    rw [url_bare settings _ rfl, url_bare settings _ rfl, Call.path, Call.path, path]
  | login name username password queried spelled =>
    refine ⟨rfl, ?_, rfl⟩
    change (Call.getUser name).url settings = (Call.login username password).url settings
    have mark : settings.basePath.toList.contains '?' = true := List.contains_iff_mem.mpr queried
    have split : "login&" = "login" ++ "&" := by decide
    rw [url_bare settings _ rfl, url_login, Call.path, accountPath_eq, spelled, joint, if_pos mark,
      split, String.append_assoc]

end Calls

/-- What the requests of a client with these settings say about the calls that they stand for. -/
structure TellsApart (settings : Settings) : Prop where
  /-- Requests that agree stand for the same call with the same arguments, unless one of the calls
  imitates the other. -/
  apart : ∀ first second : Call,
    Agree (first.draft settings).request (second.draft settings).request ↔
      first = second ∨ Imitates settings first second ∨ Imitates settings second first
  /-- There is nothing else in which the requests of two calls could differ. -/
  whole : ∀ first second : Call,
    Agree (first.draft settings).request (second.draft settings).request ↔
      (first.draft settings).request = (second.draft settings).request
  /-- Below an address without a query there is a single imitation. -/
  single : '?' ∉ settings.basePath.toList → ∀ first second : Call,
    Imitates settings first second ↔ first = .getUser "logout" ∧ second = .logout

theorem calls_told_apart (settings : Settings) : TellsApart settings := by
  constructor
  case apart =>
    intro first second
    constructor
    · exact agree_apart settings first second
    · rintro (rfl | imitates | imitates)
      · exact ⟨rfl, rfl, rfl⟩
      · exact imitates_agree settings first second imitates
      · obtain ⟨method, url, body⟩ := imitates_agree settings second first imitates
        exact ⟨method.symm, url.symm, body.symm⟩
  case whole => exact agree_whole settings
  case single =>
    intro plain first second
    constructor
    · rintro (_ | ⟨name, username, password, queried, spelled⟩)
      · exact ⟨rfl, rfl⟩
      · exact absurd queried plain
    · rintro ⟨rfl, rfl⟩
      exact .logout

/-- Behind a query, the parameters of a login can as well be part of a name. -/
theorem login_imitated :
    Agree ((Call.login "a" "b").draft (Settings.ofBasePath "http://h?x")).request
        ((Call.getUser "login&username=a&password=b").draft
          (Settings.ofBasePath "http://h?x")).request ∧
      Call.login "a" "b" ≠ .getUser "login&username=a&password=b" ∧
      Call.login "a" "b" ≠ .logout ∧ Call.getUser "login&username=a&password=b" ≠ .logout := by
  refine ⟨⟨rfl, ?_, rfl⟩, ?_⟩
  · decide +kernel
  · decide +kernel

end Accounts.Client
