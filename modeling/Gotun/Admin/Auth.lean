import Gotun.Lib.System
import Gotun.Lib.Table
import Gotun.Lib.Text

/-! `admin/route/auth.go`: challenges, logins and sessions of the administration pages. A login is
a goroutine of its own, with one step for each access to shared state. Times are nanoseconds, and
those that are kept are seconds. -/

namespace Gotun.Admin

open Gotun.Lib

abbrev Bytes := List UInt8

structure authChallengeState where
  ID : String
  Username : String
  ExpiresAt : Int
  deriving DecidableEq, Repr

structure authSession where
  ID : String
  Username : String
  IssuedAt : Int
  ExpiresAt : Int
  LastSeen : Int
  deriving DecidableEq, Repr

structure signedChallenge where
  ID : String
  Username : String
  IssuedAt : Int
  ExpiresAt : Int
  Random : String
  deriving DecidableEq, Repr

structure authLoginRequest where
  Username : String
  Nonce : List Char
  Proof : List Char
  deriving DecidableEq, Repr

/-- What the state file holds. -/
structure authState where
  AuthKey : Bytes
  Sessions : Table String authSession

/-- JSON and the hash functions, which may be anything. -/
structure Library where
  marshal : signedChallenge → Bytes
  unmarshal : Bytes → Option signedChallenge
  hmac : Bytes → Bytes → Bytes
  sha256 : Bytes → Bytes

structure AuthConfig where
  username : String
  password : String
  maxFailedAttempts : Int

def authRealm : String := "gotun"

def authChallengeTTL : Int := 120

def authSessionTTL : Int := 24 * 3600

def AuthConfig.authEnabled (cfg : AuthConfig) : Bool := cfg.username ≠ "" ∧ cfg.password ≠ ""

def unix (now : Int) : Int := now / 1000000000

/-- The memory of a process; `resetTimers` are the addresses whose timers may still go off. -/
structure AuthManager where
  authKey : Bytes
  challenges : Table String authChallengeState
  sessions : Table String authSession
  failedAttempts : Table String Int
  resetTimers : List String

namespace AuthManager

def blank : AuthManager := ⟨[], fun _ => none, fun _ => none, fun _ => none, []⟩

def pruneExpiredSessionsLocked (now : Int) (a : AuthManager) : AuthManager :=
  { a with sessions := fun id => (a.sessions id).filter (now < ·.ExpiresAt) }

def pruneExpiredChallengesLocked (now : Int) (a : AuthManager) : AuthManager :=
  { a with challenges := fun id => (a.challenges id).filter (now < ·.ExpiresAt) }

/-- The file is replaced as a whole or, if the save fails, not at all. -/
def saveStateLocked (saved : Bool) (a : AuthManager) (file : Option authState) : Option authState :=
  if saved then some ⟨a.authKey, a.sessions⟩ else file

/-- The state, the file, and whether there was an error. -/
def loadState (now : Int) (unreadable : Bool) (key : Bytes) (saved : Bool) (file : Option authState) :
    AuthManager × Option authState × Bool :=
  if unreadable then (blank, file, true)
  else match file with
    | none =>
      let a := { blank with authKey := key }
      (a, a.saveStateLocked saved file, !saved)
    | some state =>
      if state.AuthKey = [] then (blank, file, true)
      else
        let a := { blank with
          authKey := state.AuthKey, sessions := state.Sessions
        }.pruneExpiredSessionsLocked (unix now)
        (a, a.saveStateLocked saved file, !saved)

/-- Nothing but the key and the sessions is loaded. -/
theorem loadState_blank (now : Int) (unreadable : Bool) (key : Bytes) (saved : Bool)
    (file : Option authState) :
    ∃ key' sessions, (loadState now unreadable key saved file).1 =
      { blank with authKey := key', sessions := sessions } := by
  unfold loadState
  split
  · exact ⟨_, _, rfl⟩
  · split
    · exact ⟨_, _, rfl⟩
    · split <;> exact ⟨_, _, rfl⟩

/-- A state that cannot be loaded, or not be saved again, is replaced by an empty one. -/
def initState (now : Int) (unreadable : Bool) (key key' : Bytes) (saved saved' : Bool)
    (file : Option authState) :
    AuthManager × Option authState :=
  match loadState now unreadable key saved file with
  | (a, file, false) => (a, file)
  | (_, file, true) =>
    let a := { blank with authKey := key' }
    (a, a.saveStateLocked saved' file)

/-- The challenge and its nonce, with random strings `id` and `random`. -/
def issueChallenge (lib : Library) (username : String) (now : Int) (id random : String)
    (a : AuthManager) :
    AuthManager × List Char :=
  let payload : signedChallenge := ⟨id, username, unix now, unix now + authChallengeTTL, random⟩
  let body := lib.marshal payload
  let a := a.pruneExpiredChallengesLocked (unix now)
  ({ a with challenges := a.challenges.put id ⟨id, username, payload.ExpiresAt⟩ },
    Text.encodeBase64 body ++ ['.'] ++ Text.encodeBase64 (lib.hmac a.authKey body))

/-- The bytes that a nonce stands for, with their signature. -/
def decodeNonce (nonce : List Char) : Except String (Bytes × Bytes) :=
  match nonce.splitOn '.' with
  | [first, second] => match Text.decodeBase64 first, Text.decodeBase64 second with
    | some body, some signature => .ok (body, signature)
    | _, _ => .error "illegal base64 data"
  | _ => .error "invalid nonce"

/-- The part of `consumeChallenge` that holds the lock. -/
def consumeLocked (lib : Library) (username : String) (body signature : Bytes) (now : Int)
    (a : AuthManager) :
    AuthManager × Except String signedChallenge :=
  let a := a.pruneExpiredChallengesLocked now
  if signature ≠ lib.hmac a.authKey body then (a, .error "invalid signature")
  else match lib.unmarshal body with
    | none => (a, .error "invalid character")
    | some payload =>
      if payload.Username ≠ username then (a, .error "username mismatch")
      else if now < payload.IssuedAt ∨ payload.ExpiresAt ≤ now then (a, .error "challenge expired")
      else if payload.ID = "" then (a, .error "challenge id missing")
      else match a.challenges payload.ID with
        | none => (a, .error "challenge not found")
        | some challenge =>
          let a := { a with challenges := a.challenges.drop payload.ID }
          if challenge.Username ≠ username ∨ challenge.ExpiresAt ≤ now then
            (a, .error "challenge expired")
          else (a, .ok payload)

def consumeChallenge (lib : Library) (username : String) (nonce : List Char) (now : Int)
    (a : AuthManager) :
    AuthManager × Except String signedChallenge :=
  match decodeNonce nonce with
  | .error err => (a, .error err)
  | .ok (body, signature) => a.consumeLocked lib username body signature (unix now)

/-- A session that cannot be saved is taken back. -/
def createSession (username : String) (now : Int) (id : String) (saved : Bool) (a : AuthManager)
    (file : Option authState) :
    AuthManager × Option authState × Option authSession :=
  let session : authSession := ⟨id, username, unix now, unix now + authSessionTTL, unix now⟩
  let a := a.pruneExpiredSessionsLocked (unix now)
  let a := { a with sessions := a.sessions.put id session }
  if saved then (a, a.saveStateLocked saved file, some session)
  else ({ a with sessions := a.sessions.drop id }, file, none)

def expire (id : String) (saved : Bool) (a : AuthManager) (file : Option authState) :
    AuthManager × Option authState :=
  let a := { a with sessions := a.sessions.drop id }
  (a, a.saveStateLocked saved file)

def IsAuthenticated (cfg : AuthConfig) (cookie : Option String) (now : Int) (saved : Bool)
    (a : AuthManager) (file : Option authState) : AuthManager × Option authState × Bool :=
  if !cfg.authEnabled then (a, file, true)
  else match cookie with
    | none => (a, file, false)
    | some value =>
      if value = "" then (a, file, false)
      else match a.sessions value with
        | none => (a, file, false)
        | some session =>
          if session.ExpiresAt ≤ unix now then
            ((a.expire value saved file).1, (a.expire value saved file).2, false)
          else ({ a with sessions := a.sessions.put value { session with LastSeen := unix now } },
            file, true)

/-- The last two are `authenticated` and `username` of the answer to a GET request. -/
def HandleSession (cfg : AuthConfig) (cookie : Option String) (now : Int) (saved : Bool)
    (a : AuthManager) (file : Option authState) : AuthManager × Option authState × Bool × String :=
  if !cfg.authEnabled then (a, file, true, "")
  else match cookie.filter (· ≠ "") with
    | none => (a, file, false, "")
    | some value => match a.sessions value with
      | none => (a, file, false, "")
      | some session =>
        if unix now < session.ExpiresAt then
          ({ a with sessions := a.sessions.put value { session with LastSeen := unix now } }, file,
            true, session.Username)
        else ((a.expire value saved file).1, (a.expire value saved file).2, false, "")

def HandleLogout (cookie : Option String) (saved : Bool) (a : AuthManager) (file : Option authState) :
    AuthManager × Option authState :=
  match cookie.filter (· ≠ "") with
  | none => (a, file)
  | some value => a.expire value saved file

/-! What is done to sessions changes nothing else in memory. -/

def OnlySessions (a a' : AuthManager) : Prop := a' = { a with sessions := a'.sessions }

theorem OnlySessions.challenges {a a' : AuthManager} (only : OnlySessions a a') :
    a'.challenges = a.challenges := by rw [only]

theorem OnlySessions.failedAttempts {a a' : AuthManager} (only : OnlySessions a a') :
    a'.failedAttempts = a.failedAttempts := by rw [only]

theorem createSession_only (username : String) (now : Int) (id : String) (saved : Bool) (a : AuthManager)
    (file : Option authState) : OnlySessions a (a.createSession username now id saved file).1 := by
  unfold createSession
  dsimp only
  split <;> rfl

theorem IsAuthenticated_only (cfg : AuthConfig) (cookie : Option String) (now : Int) (saved : Bool)
    (a : AuthManager) (file : Option authState) :
    OnlySessions a (a.IsAuthenticated cfg cookie now saved file).1 := by
  unfold IsAuthenticated
  repeat' split
  all_goals rfl

theorem HandleSession_only (cfg : AuthConfig) (cookie : Option String) (now : Int) (saved : Bool)
    (a : AuthManager) (file : Option authState) :
    OnlySessions a (a.HandleSession cfg cookie now saved file).1 := by
  unfold HandleSession
  repeat' split
  all_goals rfl

theorem HandleLogout_only (cookie : Option String) (saved : Bool) (a : AuthManager)
    (file : Option authState) :
    OnlySessions a (a.HandleLogout cookie saved file).1 := by
  unfold HandleLogout
  split <;> rfl

/-! What consuming a challenge changes. -/

/-- Challenges may go, and nothing else changes. -/
structure Consumes (a a' : AuthManager) : Prop where
  challenges : ∀ id c, a'.challenges id = some c → a.challenges id = some c
  sessions : a'.sessions = a.sessions
  failedAttempts : a'.failedAttempts = a.failedAttempts

theorem pruned_consumes (now : Int) (a : AuthManager) :
    Consumes a (a.pruneExpiredChallengesLocked now) :=
  ⟨fun _ _ found => (Option.filter_eq_some_iff.mp found).1, rfl, rfl⟩

theorem Consumes.drop {a a' : AuthManager} (consumes : Consumes a a') (id : String) :
    Consumes a { a' with challenges := a'.challenges.drop id } :=
  ⟨fun other c found => consumes.challenges other c (Table.of_drop found).2, consumes.sessions,
    consumes.failedAttempts⟩

/-- A challenge that is accepted was in the table for this user, is not expired, and is in the table
no more. -/
theorem consumeLocked_cases (lib : Library) (username : String) (body signature : Bytes) (now : Int)
    (a : AuthManager) :
    ∃ a', Consumes a a' ∧ ((∃ err, a.consumeLocked lib username body signature now = (a', .error err)) ∨
      ∃ payload c, a.consumeLocked lib username body signature now = (a', .ok payload) ∧
        a.challenges payload.ID = some c ∧
        c.Username = username ∧ now < c.ExpiresAt ∧ a'.challenges payload.ID = none) := by
  have pruned := pruned_consumes now a
  unfold consumeLocked
  dsimp only
  split_ifs with forged
  · exact ⟨_, pruned, .inl ⟨_, rfl⟩⟩
  split
  · exact ⟨_, pruned, .inl ⟨_, rfl⟩⟩
  rename_i payload _
  split_ifs with other expired unnamed
  · exact ⟨_, pruned, .inl ⟨_, rfl⟩⟩
  · exact ⟨_, pruned, .inl ⟨_, rfl⟩⟩
  · exact ⟨_, pruned, .inl ⟨_, rfl⟩⟩
  split
  · exact ⟨_, pruned, .inl ⟨_, rfl⟩⟩
  rename_i c found
  split_ifs with unfit
  · exact ⟨_, pruned.drop payload.ID, .inl ⟨_, rfl⟩⟩
  · obtain ⟨own, live⟩ := not_or.mp unfit
    exact ⟨_, pruned.drop payload.ID, .inr ⟨payload, c, rfl, pruned.challenges _ _ found,
      not_not.mp own, by omega, Function.update_self ..⟩⟩

def attempts (a : AuthManager) (ip : String) : Int := (a.failedAttempts ip).getD 0

/-- `LoadOrStore` leaves a counter behind. -/
def loadAttempts (a : AuthManager) (ip : String) : AuthManager :=
  { a with failedAttempts := a.failedAttempts.put ip (a.attempts ip) }

def isBlocked (cfg : AuthConfig) (ip : String) (a : AuthManager) : Bool :=
  0 < cfg.maxFailedAttempts ∧ cfg.maxFailedAttempts ≤ a.attempts ip

def storeAttempts (cfg : AuthConfig) (ip : String) (attempts : Int) (a : AuthManager) : AuthManager :=
  { a with
    failedAttempts := a.failedAttempts.put ip attempts
    resetTimers := if cfg.maxFailedAttempts ≤ attempts then ip :: a.resetTimers else a.resetTimers }

def resetAttempts (ip : String) (a : AuthManager) : AuthManager :=
  { a with failedAttempts := a.failedAttempts.drop ip }

theorem loadAttempts_attempts (a : AuthManager) (ip : String) :
    (a.loadAttempts ip).attempts = a.attempts := by
  funext other
  by_cases same : other = ip
  · simp only [attempts, loadAttempts, Table.put, same, Function.update_self, Option.getD_some]
  · simp only [attempts, loadAttempts, Table.put, Function.update_of_ne same]

theorem storeAttempts_attempts (cfg : AuthConfig) (ip : String) (n : Int) (a : AuthManager) :
    (a.storeAttempts cfg ip n).attempts = Function.update a.attempts ip n := by
  funext other
  by_cases same : other = ip
  · simp only [attempts, storeAttempts, Table.put, same, Function.update_self, Option.getD_some]
  · simp only [attempts, storeAttempts, Table.put, Function.update_of_ne same]

theorem resetAttempts_attempts (ip : String) (a : AuthManager) :
    (a.resetAttempts ip).attempts = Function.update a.attempts ip 0 := by
  funext other
  by_cases same : other = ip
  · simp only [attempts, resetAttempts, Table.drop, same, Function.update_self, Option.getD_none]
  · simp only [attempts, resetAttempts, Table.drop, Function.update_of_ne same]

end AuthManager

def deriveUserKey (lib : Library) (cfg : AuthConfig) : Bytes :=
  lib.sha256 (Text.utf8 (cfg.username ++ ":" ++ authRealm ++ ":" ++ cfg.password).toList)

def signProof (lib : Library) (userKey : Bytes) (nonce : List Char) : Bytes :=
  lib.hmac userKey (Text.utf8 nonce)

/-- The fields as they are used; letters other than those of ASCII are no hexadecimal digits in
either case. -/
def authLoginRequest.trimmed (req : authLoginRequest) : authLoginRequest where
  Username := Text.trim req.Username
  Nonce := Text.trimSpace req.Nonce
  Proof := Text.trimSpace (req.Proof.map Char.toLower)

/-- `hmac.Equal` of the decoded proof and the expected one. -/
def authLoginRequest.proves (lib : Library) (cfg : AuthConfig) (req : authLoginRequest) : Bool :=
  Text.decodeHex req.Proof = some (signProof lib (deriveUserKey lib cfg) req.Nonce)

/-- A call of `HandleLogin` from an address; `challenge` is the one that it has consumed. -/
inductive Login where
  | arrived (ip : String) (req : Option authLoginRequest)
  | passed (ip : String) (req : Option authLoginRequest)
  | proving (ip : String) (req : authLoginRequest) (challenge : String)
  | creating (ip : String) (req : authLoginRequest) (challenge : String)
  | succeeding (ip : String)
  | failing (ip : String)
  | loaded (ip : String) (attempts : Int)
  | ended
  deriving DecidableEq, Repr

/-- A challenge, with the process that issued it. -/
structure Issued where
  ID : String
  Username : String
  ExpiresAt : Int
  process : Nat
  deriving DecidableEq, Repr

/-- A challenge that a process has accepted at some time. -/
structure Accepted where
  ID : String
  Username : String
  time : Int
  process : Nat
  deriving DecidableEq, Repr

/-- A session that was created, for a request and the challenge it consumed. -/
structure Created where
  challenge : String
  req : authLoginRequest
  session : String
  deriving DecidableEq, Repr

/-- What has happened to a cookie: a login that was saved at some time, or a logout. -/
inductive CookieEvent where
  | login (id : String) (time : Int)
  | logout (id : String) (process : Nat) (saved : Bool)
  deriving DecidableEq, Repr

/-- The running process and the file, with what has happened so far; `failures` are the failed
checks of an address since its counter was last reset. -/
structure Site where
  manager : AuthManager
  file : Option authState
  logins : List Login
  process : Nat
  issued : List Issued
  accepted : List Accepted
  checked : List String
  created : List Created
  cookies : List CookieEvent
  failures : String → Nat

inductive Event where
  | issueChallenge (username : String) (now : Int) (id random : String)
  | consumeChallenge (username : String) (nonce : List Char) (now : Int)
  | HandleLogin (ip : String) (req : Option authLoginRequest)
  | isBlocked (login : Nat)
  | credentials (login : Nat) (now : Int)
  | checkProof (login : Nat)
  | createSession (login : Nat) (now : Int) (id : String) (saved : Bool)
  | onAuthSuccess (login : Nat)
  | loadAttempts (login : Nat)
  | storeAttempts (login : Nat)
  | resetTimer (ip : String)
  | HandleLogout (cookie : Option String) (saved : Bool)
  | IsAuthenticated (cookie : Option String) (now : Int) (saved : Bool)
  | HandleSession (cookie : Option String) (now : Int) (saved : Bool)
  | restart (now : Int) (unreadable : Bool) (key key' : Bytes) (saved saved' : Bool)

namespace Site

variable (lib : Library) (cfg : AuthConfig)

def setLogin (s : Site) (login : Nat) (l : Login) : Site := { s with logins := s.logins.set login l }

/-- A credential check of the address has failed. -/
def fail (s : Site) (login : Nat) (ip : String) : Site :=
  { s.setLogin login (.failing ip) with failures := Function.update s.failures ip (s.failures ip + 1) }

def consume (s : Site) (username : String) (nonce : List Char) (now : Int) : Site × Option String :=
  match s.manager.consumeChallenge lib username nonce now with
  | (a, .ok payload) =>
    ({ s with
        manager := a
        accepted := s.accepted ++ [⟨payload.ID, username, unix now, s.process⟩] },
      some payload.ID)
  | (a, .error _) => ({ s with manager := a }, none)

/-- Either nothing was accepted, or one challenge of the table. -/
inductive Accepts (s : Site) (username : String) (now : Int)
    (a : AuthManager) : Site → Option String → Prop
  | nothing : Accepts s username now a { s with manager := a } none
  | one {id : String} {c : authChallengeState} (there : s.manager.challenges id = some c)
      (own : c.Username = username)
      (live : unix now < c.ExpiresAt) (gone : a.challenges id = none) :
      Accepts s username now a { s with
        manager := a, accepted := s.accepted ++ [⟨id, username, unix now, s.process⟩] } (some id)

theorem consume_cases (s : Site) (username : String) (nonce : List Char) (now : Int) :
    ∃ a, s.manager.Consumes a ∧
      Accepts s username now a (s.consume lib username nonce now).1
        (s.consume lib username nonce now).2 := by
  unfold consume AuthManager.consumeChallenge
  cases AuthManager.decodeNonce nonce with
  | error err => exact ⟨s.manager, ⟨fun _ _ => id, rfl, rfl⟩, .nothing⟩
  | ok parts =>
    obtain ⟨a, consumes, ⟨err, result⟩ | ⟨payload, c, result, there, own, live, gone⟩⟩ :=
      s.manager.consumeLocked_cases lib username parts.1 parts.2 (unix now)
    · simp only [result]
      exact ⟨a, consumes, .nothing⟩
    · simp only [result]
      exact ⟨a, consumes, .one there own live gone⟩

/-- The request is well formed, so that its credentials are checked. -/
def isChecked (req : Option authLoginRequest) : Bool :=
  req.any fun req => req.trimmed.Username ≠ "" ∧ req.trimmed.Nonce ≠ [] ∧ req.trimmed.Proof ≠ []

/-- The checks of a request that was not blocked; one that is not well formed is not counted as a
failure. -/
def credentials (s : Site) (login : Nat) (ip : String) (now : Int) : Option authLoginRequest → Site
  | none => s.setLogin login .ended
  | some req =>
    let req := req.trimmed
    if req.Username = "" ∨ req.Nonce = [] ∨ req.Proof = [] then s.setLogin login .ended
    else if req.Username ≠ cfg.username then s.fail login ip
    else match s.consume lib req.Username req.Nonce now with
      | (s, some challenge) => s.setLogin login (.proving ip req challenge)
      | (s, none) => s.fail login ip

/-- A new process on the file that is there. -/
def boot (s : Site) (now : Int) (unreadable : Bool) (key key' : Bytes) (saved saved' : Bool) : Site :=
  let (a, file) := if cfg.authEnabled then AuthManager.initState now unreadable key key' saved
    saved' s.file else (.blank, s.file)
  { s with manager := a, file := file, logins := [], process := s.process + 1, failures := fun _ => 0 }

/-- A process starts with no challenges and no counters. -/
theorem boot_blank (s : Site) (now : Int) (unreadable : Bool) (key key' : Bytes) (saved saved' : Bool) :
    ∃ key₀ sessions, (s.boot cfg now unreadable key key' saved saved').manager =
      { AuthManager.blank with authKey := key₀, sessions := sessions } := by
  have loaded : ∃ key₀ sessions, (AuthManager.initState now unreadable key key' saved saved' s.file).1 =
      { AuthManager.blank with authKey := key₀, sessions := sessions } := by
    have blank := AuthManager.loadState_blank now unreadable key saved s.file
    unfold AuthManager.initState
    split
    · rename_i load
      rw [load] at blank
      exact blank
    · exact ⟨_, _, rfl⟩
  unfold boot
  split_ifs
  · exact loaded
  · exact ⟨_, _, rfl⟩

def step (s : Site) : Event → Option Site
  | .issueChallenge username now id random =>
    if cfg.authEnabled then some { s with
      manager := (s.manager.issueChallenge lib username now id random).1
      issued := s.issued ++ [⟨id, username, unix now + authChallengeTTL, s.process⟩] }
    else some s
  | .consumeChallenge username nonce now => some (s.consume lib username nonce now).1
  | .HandleLogin ip req =>
    if cfg.authEnabled then some { s with logins := s.logins ++ [.arrived ip req] } else some s
  | .isBlocked login => match s.logins[login]? with
    | some (.arrived ip req) =>
      let blocked := s.manager.isBlocked cfg ip
      let s := { s with
        manager := if 0 < cfg.maxFailedAttempts then s.manager.loadAttempts ip else s.manager }
      some (s.setLogin login (if blocked then .ended else .passed ip req))
    | _ => none
  | .credentials login now => match s.logins[login]? with
    | some (.passed ip req) => some (s.credentials lib cfg login ip now req)
    | _ => none
  | .checkProof login => match s.logins[login]? with
    | some (.proving ip req challenge) =>
      let s := { s with checked := s.checked ++ [challenge] }
      if req.proves lib cfg then some (s.setLogin login (.creating ip req challenge))
      else some (s.fail login ip)
    | _ => none
  | .createSession login now id saved => match s.logins[login]? with
    | some (.creating ip req challenge) =>
      match s.manager.createSession req.Username now id saved s.file with
      | (a, file, some session) => some { s.setLogin login (.succeeding ip) with
          manager := a, file := file
          created := s.created ++ [⟨challenge, req, session.ID⟩]
          cookies := s.cookies ++ [.login session.ID session.IssuedAt] }
      | (a, file, none) => some { s.setLogin login .ended with manager := a, file := file }
    | _ => none
  | .onAuthSuccess login => match s.logins[login]? with
    | some (.succeeding ip) => some { s.setLogin login .ended with
        manager := s.manager.resetAttempts ip, failures := Function.update s.failures ip 0 }
    | _ => none
  | .loadAttempts login => match s.logins[login]? with
    | some (.failing ip) =>
      if 0 < cfg.maxFailedAttempts then
        some { s.setLogin login (.loaded ip (s.manager.attempts ip)) with
          manager := s.manager.loadAttempts ip }
      else some (s.setLogin login .ended)
    | _ => none
  | .storeAttempts login => match s.logins[login]? with
    | some (.loaded ip attempts) => some { s.setLogin login .ended with
        manager := s.manager.storeAttempts cfg ip (attempts + 1) }
    | _ => none
  | .resetTimer ip =>
    if ip ∈ s.manager.resetTimers then some { s with
      manager := s.manager.resetAttempts ip, failures := Function.update s.failures ip 0 }
    else none
  | .HandleLogout cookie saved =>
    let (a, file) := s.manager.HandleLogout cookie saved s.file
    some { s with
      manager := a, file := file
      cookies := s.cookies ++
        ((cookie.filter (· ≠ "")).map (CookieEvent.logout · s.process saved)).toList }
  | .IsAuthenticated cookie now saved =>
    let (a, file, _) := s.manager.IsAuthenticated cfg cookie now saved s.file
    some { s with manager := a, file := file }
  | .HandleSession cookie now saved =>
    let (a, file, _) := s.manager.HandleSession cfg cookie now saved s.file
    some { s with manager := a, file := file }
  | .restart now unreadable key key' saved saved' =>
    some (s.boot cfg now unreadable key key' saved saved')

/-- Before the first process there is no file. -/
def empty : Site := ⟨.blank, none, [], 0, [], [], [], [], [], fun _ => 0⟩

def system : System Site Event where
  start s := ∃ now unreadable key key' saved saved',
    s = empty.boot cfg now unreadable key key' saved saved'
  step := step lib cfg

theorem starts_boot (now : Int) (unreadable : Bool) (key key' : Bytes) (saved saved' : Bool) :
    (system lib cfg).start (empty.boot cfg now unreadable key key' saved saved') :=
  ⟨_, _, _, _, _, _, rfl⟩

/-! What a step can do. -/

theorem isChecked_some {req : authLoginRequest} :
    isChecked (some req) = true ↔
      ¬ (req.trimmed.Username = "" ∨ req.trimmed.Nonce = [] ∨ req.trimmed.Proof = []) := by
  rw [isChecked, Option.any_some, decide_eq_true_iff, not_or, not_or]

inductive Stepped (s : Site) : Event → Site → Prop
  | unchanged (e : Event) : Stepped s e s
  | issues (username : String) (now : Int) (id random : String) :
      Stepped s (.issueChallenge username now id random) { s with
      manager := (s.manager.issueChallenge lib username now id random).1
      issued := s.issued ++ [⟨id, username, unix now + authChallengeTTL, s.process⟩] }
  | consumes (username : String) (nonce : List Char) (now : Int) :
      Stepped s (.consumeChallenge username nonce now) (s.consume lib username nonce now).1
  | arrives (ip : String) (req : Option authLoginRequest) :
      Stepped s (.HandleLogin ip req) { s with logins := s.logins ++ [.arrived ip req] }
  | looks {login : Nat} {ip : String} {req : Option authLoginRequest}
      (at_ : s.logins[login]? = some (.arrived ip req))
      {a : AuthManager} (manager : a = s.manager ∨ a = s.manager.loadAttempts ip) {l : Login}
      (after : l = .ended ∨ l = .passed ip req ∧ s.manager.isBlocked cfg ip = false) :
      Stepped s (.isBlocked login) { s.setLogin login l with manager := a }
  | refuses {login : Nat} {ip : String} {req : Option authLoginRequest}
      (at_ : s.logins[login]? = some (.passed ip req))
      (now : Int) : Stepped s (.credentials login now) (s.setLogin login .ended)
  | mismatches {login : Nat} {ip : String} {req : Option authLoginRequest}
      (at_ : s.logins[login]? = some (.passed ip req))
      (now : Int) (checked : isChecked req = true) : Stepped s (.credentials login now) (s.fail login ip)
  | accepts {login : Nat} {ip : String} {sent : Option authLoginRequest}
      (at_ : s.logins[login]? = some (.passed ip sent))
      {now : Int} {req : authLoginRequest} {s₁ : Site} {challenge : String}
      (consumed : s.consume lib req.Username req.Nonce now = (s₁, some challenge))
      (checked : isChecked sent = true) :
      Stepped s (.credentials login now) (s₁.setLogin login (.proving ip req challenge))
  | rejects {login : Nat} {ip : String} {sent : Option authLoginRequest}
      (at_ : s.logins[login]? = some (.passed ip sent))
      {now : Int} {req : authLoginRequest} {s₁ : Site}
      (consumed : s.consume lib req.Username req.Nonce now = (s₁, none))
      (checked : isChecked sent = true) : Stepped s (.credentials login now) (s₁.fail login ip)
  | proves {login : Nat} {ip : String} {req : authLoginRequest} {challenge : String}
      (at_ : s.logins[login]? = some (.proving ip req challenge)) (equal : req.proves lib cfg = true) :
      Stepped s (.checkProof login)
        (setLogin { s with checked := s.checked ++ [challenge] } login (.creating ip req challenge))
  | disproves {login : Nat} {ip : String} {req : authLoginRequest} {challenge : String}
      (at_ : s.logins[login]? = some (.proving ip req challenge)) (differ : req.proves lib cfg = false) :
      Stepped s (.checkProof login) (fail { s with checked := s.checked ++ [challenge] } login ip)
  | creates {login : Nat} {ip : String} {req : authLoginRequest} {challenge : String}
      (at_ : s.logins[login]? = some (.creating ip req challenge)) {now : Int} {id : String}
      {saved : Bool} {a : AuthManager}
      {file : Option authState} {session : authSession}
      (made : s.manager.createSession req.Username now id saved s.file = (a, file, some session)) :
      Stepped s (.createSession login now id saved) { s.setLogin login (.succeeding ip) with
        manager := a, file := file
        created := s.created ++ [⟨challenge, req, session.ID⟩]
        cookies := s.cookies ++ [.login session.ID session.IssuedAt] }
  | loses {login : Nat} {ip : String} {req : authLoginRequest} {challenge : String}
      (at_ : s.logins[login]? = some (.creating ip req challenge)) {now : Int} {id : String}
      {saved : Bool} {a : AuthManager}
      {file : Option authState}
      (made : s.manager.createSession req.Username now id saved s.file = (a, file, none)) :
      Stepped s (.createSession login now id saved)
        { s.setLogin login .ended with manager := a, file := file }
  | succeeds {login : Nat} {ip : String} (at_ : s.logins[login]? = some (.succeeding ip)) :
      Stepped s (.onAuthSuccess login) { s.setLogin login .ended with
        manager := s.manager.resetAttempts ip, failures := Function.update s.failures ip 0 }
  | loads {login : Nat} {ip : String} (at_ : s.logins[login]? = some (.failing ip)) :
      Stepped s (.loadAttempts login)
        { s.setLogin login (.loaded ip (s.manager.attempts ip)) with
          manager := s.manager.loadAttempts ip }
  | skips {login : Nat} {ip : String} (at_ : s.logins[login]? = some (.failing ip))
      (unlimited : ¬ 0 < cfg.maxFailedAttempts) :
      Stepped s (.loadAttempts login) (s.setLogin login .ended)
  | stores {login : Nat} {ip : String} {attempts : Int}
      (at_ : s.logins[login]? = some (.loaded ip attempts)) :
      Stepped s (.storeAttempts login)
        { s.setLogin login .ended with manager := s.manager.storeAttempts cfg ip (attempts + 1) }
  | resets (ip : String) : Stepped s (.resetTimer ip) { s with
      manager := s.manager.resetAttempts ip, failures := Function.update s.failures ip 0 }
  | logsOut (cookie : Option String) (saved : Bool) : Stepped s (.HandleLogout cookie saved) { s with
      manager := (s.manager.HandleLogout cookie saved s.file).1, file :=
        (s.manager.HandleLogout cookie saved s.file).2
      cookies := s.cookies ++
        ((cookie.filter (· ≠ "")).map (CookieEvent.logout · s.process saved)).toList }
  | authenticates (cookie : Option String) (now : Int) (saved : Bool) :
      Stepped s (.IsAuthenticated cookie now saved) { s with
      manager := (s.manager.IsAuthenticated cfg cookie now saved s.file).1
      file := (s.manager.IsAuthenticated cfg cookie now saved s.file).2.1 }
  | shows (cookie : Option String) (now : Int) (saved : Bool) :
      Stepped s (.HandleSession cookie now saved) { s with
      manager := (s.manager.HandleSession cfg cookie now saved s.file).1
      file := (s.manager.HandleSession cfg cookie now saved s.file).2.1 }
  | boots (now : Int) (unreadable : Bool) (key key' : Bytes) (saved saved' : Bool) :
      Stepped s (.restart now unreadable key key' saved saved')
        (s.boot cfg now unreadable key key' saved saved')

variable {lib cfg}

theorem stepped {s s' : Site} {e : Event}
    (next : s.step lib cfg e = some s') : Stepped lib cfg s e s' := by
  cases e with
  | issueChallenge username now id random =>
    simp only [step] at next
    split_ifs at next
    · cases next
      exact .issues username now id random
    · cases next
      exact .unchanged _
  | consumeChallenge username nonce now =>
    cases next
    exact .consumes username nonce now
  | HandleLogin ip req =>
    simp only [step] at next
    split_ifs at next
    · cases next
      exact .arrives ip req
    · cases next
      exact .unchanged _
  | isBlocked login =>
    simp only [step] at next
    split at next
    · rename_i ip req at_
      cases next
      refine .looks at_ ?_ ?_
      · split_ifs
        · exact .inr rfl
        · exact .inl rfl
      · cases blocked : s.manager.isBlocked cfg ip with
        | true => exact .inl rfl
        | false => exact .inr ⟨rfl, rfl⟩
    · contradiction
  | credentials login now =>
    simp only [step] at next
    split at next
    · rename_i ip req at_
      cases next
      cases req with
      | none => exact .refuses at_ now
      | some req =>
        unfold credentials
        dsimp only
        split_ifs with malformed
        · exact .refuses at_ now
        · exact .mismatches at_ now (isChecked_some.mpr malformed)
        · split
          · rename_i s₁ challenge consumed
            exact .accepts at_ consumed (isChecked_some.mpr malformed)
          · rename_i s₁ consumed
            exact .rejects at_ consumed (isChecked_some.mpr malformed)
    · contradiction
  | checkProof login =>
    simp only [step] at next
    split at next
    · rename_i ip req challenge at_
      split_ifs at next with equal
      · cases next
        exact .proves at_ equal
      · cases next
        exact .disproves at_ (Bool.eq_false_iff.mpr equal)
    · contradiction
  | createSession login now id saved =>
    simp only [step] at next
    split at next
    · rename_i ip req challenge at_
      split at next
      · rename_i a file session made
        cases next
        exact .creates at_ made
      · rename_i a file made
        cases next
        exact .loses at_ made
    · contradiction
  | onAuthSuccess login =>
    simp only [step] at next
    split at next
    · rename_i ip at_
      cases next
      exact .succeeds at_
    · contradiction
  | loadAttempts login =>
    simp only [step] at next
    split at next
    · rename_i ip at_
      split_ifs at next with limited
      · cases next
        exact .loads at_
      · cases next
        exact .skips at_ limited
    · contradiction
  | storeAttempts login =>
    simp only [step] at next
    split at next
    · rename_i ip attempts at_
      cases next
      exact .stores at_
    · contradiction
  | resetTimer ip =>
    simp only [step] at next
    split_ifs at next
    cases next
    exact .resets ip
  | HandleLogout cookie saved =>
    cases next
    exact .logsOut cookie saved
  | IsAuthenticated cookie now saved =>
    cases next
    exact .authenticates cookie now saved
  | HandleSession cookie now saved =>
    cases next
    exact .shows cookie now saved
  | restart now unreadable key key' saved saved' =>
    cases next
    exact .boots now unreadable key key' saved saved'

end Site

end Gotun.Admin
