import Gotun.Admin.Challenges

/-! Sessions in memory and in the file. A session that is found, even after any number of restarts
and of saves that failed, comes from a login that was saved, and has not been logged out since. -/

namespace Gotun.Admin

open Gotun.Lib

namespace AuthManager

/-- The two ways of asking for a session agree. -/
theorem HandleSession_eq (cfg : AuthConfig) (cookie : Option String) (now : Int) (saved : Bool)
    (a : AuthManager) (file : Option authState) :
    (a.HandleSession cfg cookie now saved file).1 = (a.IsAuthenticated cfg cookie now saved file).1 ∧
      (a.HandleSession cfg cookie now saved file).2.1 =
        (a.IsAuthenticated cfg cookie now saved file).2.1 ∧
      (a.HandleSession cfg cookie now saved file).2.2.1 =
        (a.IsAuthenticated cfg cookie now saved file).2.2 := by
  unfold HandleSession IsAuthenticated
  cases cfg.authEnabled with
  | false => exact ⟨rfl, rfl, rfl⟩
  | true =>
    cases cookie with
    | none => exact ⟨rfl, rfl, rfl⟩
    | some value =>
      by_cases blank : value = ""
      · simp only [blank, Option.filter, ne_eq, not_true_eq_false, decide_false, Bool.false_eq_true,
          if_false, Bool.not_true, if_true, and_self]
      · simp only [blank, Option.filter, ne_eq, not_false_eq_true, decide_true, if_true,
          Bool.not_true, Bool.false_eq_true, if_false]
        cases a.sessions value with
        | none => exact ⟨rfl, rfl, rfl⟩
        | some session =>
          by_cases live : unix now < session.ExpiresAt
          · simp only [live, if_true, Int.not_le.mpr live, if_false, and_self]
          · simp only [live, if_false, Int.not_lt.mp live, if_true, and_self]

/-- A cookie that is accepted has a session that is not expired. -/
theorem IsAuthenticated_true {cfg : AuthConfig} {cookie : Option String} {now : Int} {saved : Bool}
    {a : AuthManager} {file : Option authState} (enabled : cfg.authEnabled = true)
    (accepted : (a.IsAuthenticated cfg cookie now saved file).2.2 = true) :
    ∃ value session, cookie = some value ∧ a.sessions value = some session ∧
      unix now < session.ExpiresAt := by
  unfold IsAuthenticated at accepted
  rw [enabled, Bool.not_true, if_neg Bool.false_ne_true] at accepted
  split at accepted
  · contradiction
  rename_i value
  split_ifs at accepted
  split at accepted
  · contradiction
  rename_i session found
  split_ifs at accepted with expired
  exact ⟨value, session, rfl, found, Int.not_le.mp expired⟩

/-- Sessions may go, and those that stay expire as before. -/
def Within (sessions' sessions : Table String authSession) : Prop :=
  ∀ id session', sessions' id = some session' → ∃ session, sessions id = some session ∧
    session.ExpiresAt = session'.ExpiresAt

/-- No session is new, and the file is kept or holds what is in memory. -/
structure Keeps (a : AuthManager) (file : Option authState) (a' : AuthManager)
    (file' : Option authState) : Prop where
  within : Within a'.sessions a.sessions
  file : file' = file ∨ file' = some ⟨a'.authKey, a'.sessions⟩

theorem Within.refl (sessions : Table String authSession) : Within sessions sessions :=
  fun _ session found => ⟨session, found, rfl⟩

theorem Keeps.refl (a : AuthManager) (file : Option authState) : Keeps a file a file :=
  ⟨.refl _, .inl rfl⟩

theorem saveStateLocked_cases (saved : Bool) (a : AuthManager) (file : Option authState) :
    a.saveStateLocked saved file = file ∨
      a.saveStateLocked saved file = some ⟨a.authKey, a.sessions⟩ := by
  cases saved with
  | true => exact .inr rfl
  | false => exact .inl rfl

theorem drop_within (sessions : Table String authSession) (id : String) :
    Within (sessions.drop id) sessions :=
  fun _ session found => ⟨session, (Table.of_drop found).2, rfl⟩

theorem expire_keeps (id : String) (saved : Bool) (a : AuthManager) (file : Option authState) :
    Keeps a file (a.expire id saved file).1 (a.expire id saved file).2 :=
  ⟨drop_within a.sessions id, saveStateLocked_cases saved _ file⟩

theorem IsAuthenticated_keeps (cfg : AuthConfig) (cookie : Option String) (now : Int) (saved : Bool)
    (a : AuthManager) (file : Option authState) :
    Keeps a file (a.IsAuthenticated cfg cookie now saved file).1
      (a.IsAuthenticated cfg cookie now saved file).2.1 := by
  unfold IsAuthenticated
  split
  · exact .refl a file
  split
  · exact .refl a file
  rename_i value
  split
  · exact .refl a file
  split
  · exact .refl a file
  rename_i session found
  split
  · exact a.expire_keeps value saved file
  · refine ⟨fun id session' there => ?_, .inl rfl⟩
    rcases Table.of_put there with ⟨rfl, rfl⟩ | ⟨_, old⟩
    · exact ⟨session, found, rfl⟩
    · exact ⟨session', old, rfl⟩

theorem HandleSession_keeps (cfg : AuthConfig) (cookie : Option String) (now : Int) (saved : Bool)
    (a : AuthManager) (file : Option authState) :
    Keeps a file (a.HandleSession cfg cookie now saved file).1
      (a.HandleSession cfg cookie now saved file).2.1 := by
  obtain ⟨manager, kept, _⟩ := a.HandleSession_eq cfg cookie now saved file
  rw [manager, kept]
  exact a.IsAuthenticated_keeps cfg cookie now saved file

theorem pruned_within (now : Int) (a : AuthManager) :
    Within (a.pruneExpiredSessionsLocked now).sessions a.sessions :=
  fun _ session found => ⟨session, (Option.filter_eq_some_iff.mp found).1, rfl⟩

/-- A session that is created is saved with all the others. -/
theorem createSession_some {username : String} {now : Int} {id : String} {saved : Bool}
    {a a' : AuthManager} {file file' : Option authState} {session : authSession}
    (made : a.createSession username now id saved file = (a', file', some session)) :
    session.ID = id ∧ session.ExpiresAt = session.IssuedAt + authSessionTTL ∧
      Within a'.sessions (a.sessions.put id session) ∧ file' = some ⟨a'.authKey, a'.sessions⟩ := by
  unfold createSession at made
  dsimp only at made
  split_ifs at made with wrote
  · cases made
    refine ⟨rfl, rfl, fun other session' found => ?_, if_pos wrote⟩
    rcases Table.of_put found with ⟨rfl, rfl⟩ | ⟨ne, old⟩
    · exact ⟨_, Function.update_self .., rfl⟩
    · obtain ⟨was, there, expires⟩ := pruned_within _ _ _ _ old
      exact ⟨was, (Function.update_of_ne ne ..).trans there, expires⟩
  · cases made

theorem createSession_none {username : String} {now : Int} {id : String} {saved : Bool}
    {a a' : AuthManager} {file file' : Option authState}
    (made : a.createSession username now id saved file = (a', file', none)) :
    Keeps a file a' file' := by
  unfold createSession at made
  dsimp only at made
  split_ifs at made
  · cases made
  · cases made
    refine ⟨fun other session found => ?_, .inl rfl⟩
    obtain ⟨ne, there⟩ := Table.of_drop found
    rcases Table.of_put there with ⟨same, _⟩ | ⟨_, old⟩
    · exact absurd same ne
    · exact pruned_within _ _ _ _ old

/-- The sessions of a file. -/
def stored : Option authState → Table String authSession
  | none => fun _ => none
  | some state => state.Sessions

/-- A process starts with sessions of the file. -/
theorem initState_keeps (now : Int) (unreadable : Bool) (key key' : Bytes) (saved saved' : Bool)
    (file : Option authState) :
    Keeps { blank with sessions := stored file } file
      (initState now unreadable key key' saved saved' file).1
      (initState now unreadable key key' saved saved' file).2 := by
  have empty (sessions : Table String authSession) : Within (fun _ => none) sessions := nofun
  -- an error leaves the file as it was
  have loaded : Within (loadState now unreadable key saved file).1.sessions (stored file) ∧
      ((loadState now unreadable key saved file).2.1 = file ∨
        (loadState now unreadable key saved file).2.2 = false ∧
          (loadState now unreadable key saved file).2.1 =
          some ⟨(loadState now unreadable key saved file).1.authKey,
            (loadState now unreadable key saved file).1.sessions⟩) := by
    unfold loadState
    split
    · exact ⟨empty _, .inl rfl⟩
    split
    · refine ⟨empty _, ?_⟩
      cases saved with
      | true => exact .inr ⟨rfl, rfl⟩
      | false => exact .inl rfl
    split
    · exact ⟨empty _, .inl rfl⟩
    · refine ⟨pruned_within _ _, ?_⟩
      cases saved with
      | true => exact .inr ⟨rfl, rfl⟩
      | false => exact .inl rfl
  unfold initState
  split
  · rename_i a file' load
    rw [load] at loaded
    exact ⟨loaded.1, loaded.2.imp_right And.right⟩
  · rename_i a file' load
    rw [load] at loaded
    obtain rfl : file' = file := loaded.2.resolve_right fun wrong => absurd wrong.1 (Bool.noConfusion)
    exact ⟨empty _, saveStateLocked_cases saved' _ _⟩

end AuthManager

namespace CookieEvent

/-- The cookie is issued anew, or is logged out in the file or in the memory of the process. -/
def ends (id : String) (process : Option Nat) : CookieEvent → Bool
  | .login id' _ => id' = id
  | .logout id' process' saved => id' = id ∧ (saved ∨ some process' = process)

end CookieEvent

/-- The cookie was issued by a login, and nothing has ended it since. -/
def Backed (process : Option Nat) (cookies : List CookieEvent) (id : String) (expires : Int) : Prop :=
  ∃ time before after, cookies = before ++ .login id time :: after ∧ expires = time + authSessionTTL ∧
    ∀ e ∈ after, e.ends id process = false

namespace Backed

variable {process : Option Nat} {cookies : List CookieEvent} {id : String} {expires : Int}

theorem append (backed : Backed process cookies id expires) {e : CookieEvent}
    (not : e.ends id process = false) :
    Backed process (cookies ++ [e]) id expires := by
  obtain ⟨time, before, after, rfl, same, none_⟩ := backed
  refine ⟨time, before, after ++ [e], by rw [List.append_assoc]; rfl, same, fun e' member => ?_⟩
  rcases List.mem_append.mp member with old | new
  · exact none_ e' old
  · rw [List.mem_singleton.mp new]
    exact not

theorem issued (process : Option Nat) (cookies : List CookieEvent) (id : String) (time : Int) :
    Backed process (cookies ++ [.login id time]) id (time + authSessionTTL) :=
  ⟨time, cookies, [], rfl, rfl, nofun⟩

theorem change {process' : Option Nat} (backed : Backed process cookies id expires)
    (weaker : ∀ e ∈ cookies, e.ends id process = false → e.ends id process' = false) :
    Backed process' cookies id expires := by
  obtain ⟨time, before, after, rfl, same, none_⟩ := backed
  refine ⟨time, before, after, rfl, same, fun e member => weaker e ?_ (none_ e member)⟩
  exact List.mem_append_right _ (List.mem_cons_of_mem _ member)

end Backed

/-- Every session of the table is backed. -/
def AllBacked (process : Option Nat) (cookies : List CookieEvent)
    (sessions : Table String authSession) : Prop :=
  ∀ id session, sessions id = some session → Backed process cookies id session.ExpiresAt

theorem AllBacked.within {process : Option Nat} {cookies : List CookieEvent}
    {sessions sessions' : Table String authSession} (all : AllBacked process cookies sessions)
    (within : AuthManager.Within sessions' sessions) :
    AllBacked process cookies sessions' := by
  intro id session found
  obtain ⟨was, there, expires⟩ := within id session found
  rw [← expires]
  exact all id was there

namespace Site

variable {lib : Library} {cfg : AuthConfig} {s s' : Site} {e : Event}

structure Sound (s : Site) : Prop where
  memory : AllBacked (some s.process) s.cookies s.manager.sessions
  file : AllBacked none s.cookies (AuthManager.stored s.file)
  past : ∀ id process saved, .logout id process saved ∈ s.cookies → process ≤ s.process

/-- What is backed in memory is backed in the file. -/
theorem saved_backed {process : Nat} {cookies : List CookieEvent} {sessions : Table String authSession}
    (all : AllBacked (some process) cookies sessions) : AllBacked none cookies sessions := by
  refine fun id session found => (all id session found).change fun e _ stays => ?_
  cases e with
  | login => exact stays
  | logout => simp_all [CookieEvent.ends]

theorem Sound.congr (sound : Sound s) (sessions : s'.manager.sessions = s.manager.sessions)
    (file : s'.file = s.file) (process : s'.process = s.process)
    (cookies : s'.cookies = s.cookies) : Sound s' := by
  refine ⟨?_, ?_, ?_⟩
  · rw [sessions, process, cookies]
    exact sound.memory
  · rw [file, cookies]
    exact sound.file
  · rw [process, cookies]
    exact sound.past

/-- Nothing happens to cookies, and no session is new. -/
theorem Sound.keep (sound : Sound s) (keeps : AuthManager.Keeps s.manager s.file s'.manager s'.file)
    (process : s'.process = s.process) (cookies : s'.cookies = s.cookies) : Sound s' := by
  have memory : AllBacked (some s'.process) s'.cookies s'.manager.sessions := by
    rw [process, cookies]
    exact sound.memory.within keeps.within
  refine ⟨memory, ?_, ?_⟩
  · rcases keeps.file with same | wrote
    · rw [same, cookies]
      exact sound.file
    · rw [wrote]
      exact saved_backed memory
  · rw [process, cookies]
    exact sound.past

theorem Sound.login (sound : Sound s) {username : String} {now : Int} {id : String} {saved : Bool}
    {session : authSession}
    (made : s.manager.createSession username now id saved s.file =
      (s'.manager, s'.file, some session))
    (process : s'.process = s.process)
    (cookies : s'.cookies = s.cookies ++ [.login session.ID session.IssuedAt]) :
    Sound s' := by
  obtain ⟨rfl, expires, within, wrote⟩ := AuthManager.createSession_some made
  have memory : AllBacked (some s'.process) s'.cookies s'.manager.sessions := by
    rw [process, cookies]
    refine AllBacked.within (fun other was found => ?_) within
    rcases Table.of_put found with ⟨rfl, rfl⟩ | ⟨ne, old⟩
    · rw [expires]
      exact .issued ..
    · exact (sound.memory other was old).append (decide_eq_false (Ne.symm ne))
  refine ⟨memory, ?_, fun id p saved member => ?_⟩
  · rw [wrote]
    exact saved_backed memory
  · rw [cookies] at member
    rw [process]
    rcases List.mem_append.mp member with old | new
    · exact sound.past id p saved old
    · cases List.mem_singleton.mp new

theorem Sound.logout (sound : Sound s) (value : String) (saved : Bool) :
    Sound { s with
      manager := (s.manager.expire value saved s.file).1, file := (s.manager.expire value saved s.file).2
      cookies := s.cookies ++ [.logout value s.process saved] } := by
  have memory : AllBacked (some s.process) (s.cookies ++ [.logout value s.process saved])
      (s.manager.expire value saved s.file).1.sessions := by
    intro id session found
    obtain ⟨ne, old⟩ := Table.of_drop found
    exact (sound.memory id session old).append (decide_eq_false fun own => ne own.1.symm)
  refine ⟨memory, ?_, fun id p saved' member => ?_⟩
  · cases saved with
    | true => exact saved_backed memory
    | false =>
      refine fun id session found => (sound.file id session found).append (decide_eq_false ?_)
      rintro ⟨_, wrote | here⟩
      · exact Bool.false_ne_true wrote
      · cases here
  · rcases List.mem_append.mp member with old | new
    · exact sound.past id p saved' old
    · cases List.mem_singleton.mp new
      exact Nat.le_refl s.process

/-- A new process has logged out no cookie yet. -/
theorem Sound.boot (sound : Sound s) (now : Int) (unreadable : Bool) (key key' : Bytes)
    (saved saved' : Bool) :
    Sound (s.boot cfg now unreadable key key' saved saved') := by
  have new : AllBacked (some (s.process + 1)) s.cookies (AuthManager.stored s.file) := by
    refine fun id session found => (sound.file id session found).change fun e member stays => ?_
    cases e with
    | login => exact stays
    | logout id' p wrote =>
      have before := sound.past id' p wrote member
      have other : p ≠ s.process + 1 := Nat.ne_of_lt (Nat.lt_succ_of_le before)
      simp_all [CookieEvent.ends]
  have keeps : AuthManager.Keeps { AuthManager.blank with sessions := AuthManager.stored s.file } s.file
      (s.boot cfg now unreadable key key' saved saved').manager
        (s.boot cfg now unreadable key key' saved saved').file := by
    unfold Site.boot
    split_ifs
    · exact AuthManager.initState_keeps now unreadable key key' saved saved' s.file
    · exact ⟨nofun, .inl rfl⟩
  have memory := new.within keeps.within
  refine ⟨memory, ?_, fun id p saved member => Nat.le_succ_of_le (sound.past id p saved member)⟩
  rcases keeps.file with same | wrote
  · rw [same]
    exact sound.file
  · rw [wrote]
    exact saved_backed memory

theorem Sound.consume (sound : Sound s) {username : String} {nonce : List Char} {now : Int}
    {s₁ : Site} {challenge : Option String}
    (consumed : s.consume lib username nonce now = (s₁, challenge)) : Sound s₁ := by
  obtain ⟨a, consumes, accepts⟩ := s.consume_cases lib username nonce now
  rw [consumed] at accepts
  cases accepts with
  | nothing => exact sound.congr consumes.sessions rfl rfl rfl
  | one => exact sound.congr consumes.sessions rfl rfl rfl

theorem Sound.step (sound : Sound s) (next : s.step lib cfg e = some s') : Sound s' := by
  cases stepped next with
  | unchanged => exact sound
  | issues | arrives | refuses | mismatches | proves | disproves | succeeds | loads | skips | stores
  | resets =>
    exact sound.congr rfl rfl rfl rfl
  | consumes => exact sound.consume rfl
  | looks at_ manager =>
    rcases manager with rfl | rfl
    · exact sound.congr rfl rfl rfl rfl
    · exact sound.congr rfl rfl rfl rfl
  | accepts at_ consumed => exact (sound.consume consumed).congr rfl rfl rfl rfl
  | rejects at_ consumed => exact (sound.consume consumed).congr rfl rfl rfl rfl
  | creates at_ made => exact sound.login made rfl rfl
  | loses at_ made => exact sound.keep (AuthManager.createSession_none made) rfl rfl
  | logsOut cookie saved =>
    unfold AuthManager.HandleLogout
    cases cookie.filter (· ≠ "") with
    | none => exact sound.congr rfl rfl rfl (List.append_nil _)
    | some value => exact sound.logout value saved
  | authenticates => exact sound.keep (AuthManager.IsAuthenticated_keeps ..) rfl rfl
  | shows => exact sound.keep (AuthManager.HandleSession_keeps ..) rfl rfl
  | boots now unreadable key key' saved saved' => exact sound.boot now unreadable key key' saved saved'

/-- The last login of the cookie is less than a day ago. Since then no logout of it was saved, and
this process has seen none. -/
def Vouched (s : Site) (cookie : String) (now : Int) : Prop :=
  ∃ time before after, s.cookies = before ++ .login cookie time :: after ∧
    now < (time + authSessionTTL) * 1000000000 ∧
    ∀ e ∈ after, (∀ later, e ≠ .login cookie later) ∧ (∀ process, e ≠ .logout cookie process true) ∧
      ∀ saved, e ≠ .logout cookie s.process saved

theorem vouched {cookie : String} {expires now : Int}
    (backed : Backed (some s.process) s.cookies cookie expires)
    (live : unix now < expires) : s.Vouched cookie now := by
  obtain ⟨time, before, after, split, rfl, stays⟩ := backed
  refine ⟨time, before, after, split, ?_,
    fun e member => ⟨fun later => ?_, fun process => ?_, fun saved => ?_⟩⟩
  · unfold unix at live
    omega
  all_goals
    rintro rfl
    have out := stays _ member
    simp [CookieEvent.ends] at out

/-- In every run a cookie is accepted only if its login vouches for it, and both ways of asking agree. -/
theorem sessions_sound (enabled : cfg.authEnabled = true) (reachable : (system lib cfg).Reachable s)
    (cookie : Option String) (now : Int) (saved : Bool) :
    ((s.manager.IsAuthenticated cfg cookie now saved s.file).2.2 = true →
        ∃ value, cookie = some value ∧ s.Vouched value now) ∧
      (s.manager.HandleSession cfg cookie now saved s.file).2.2.1 =
        (s.manager.IsAuthenticated cfg cookie now saved s.file).2.2 ∧
      (s.manager.HandleSession cfg cookie now saved s.file).1 =
        (s.manager.IsAuthenticated cfg cookie now saved s.file).1 ∧
      (s.manager.HandleSession cfg cookie now saved s.file).2.1 =
        (s.manager.IsAuthenticated cfg cookie now saved s.file).2.1 := by
  have sound : Sound s := by
    refine reachable.invariant Sound ?_ fun _ _ _ sound next => sound.step next
    rintro s ⟨now, unreadable, key, key', saved, saved', rfl⟩
    have nothing : Sound empty := by
      refine ⟨fun id session found => ?_, fun id session found => ?_, nofun⟩ <;> cases found
    exact nothing.boot now unreadable key key' saved saved'
  obtain ⟨manager, file, answer⟩ := s.manager.HandleSession_eq cfg cookie now saved s.file
  refine ⟨fun accepted => ?_, answer, manager, file⟩
  obtain ⟨value, session, rfl, found, live⟩ := AuthManager.IsAuthenticated_true enabled accepted
  exact ⟨value, rfl, vouched (sound.memory value session found) live⟩

/-- A login, and a restart an hour later. -/
def loginAndRestart : List Event :=
  [.issueChallenge "admin" 1000000000000 firstPayload.ID firstPayload.Random,
    .HandleLogin "1.2.3.4" (some firstLogin),
    .isBlocked 0, .credentials 0 1010000000000, .checkProof 0,
      .createSession 0 1010000000000 "cookie" true, .onAuthSuccess 0,
    .restart 4610000000000 false [] [] true true]

theorem sessions_sound_after_restart :
    ∃ s, (system firstLibrary admin).Reachable s ∧
      (s.manager.IsAuthenticated admin (some "cookie") 4611000000000 true s.file).2.2 = true ∧
      s.Vouched "cookie" 4611000000000 := by
  have played : ((system firstLibrary admin).play (fun _ _ => true) loginAndRestart
      (empty.boot admin 0 false firstKey [] true true)).any
      (fun s => (s.manager.IsAuthenticated admin (some "cookie") 4611000000000 true s.file).2.2) =
        true := by
    decide +kernel
  obtain ⟨s, run, accepted⟩ :=
    System.Run.of_play (starts_boot firstLibrary admin 0 false firstKey [] true true) played
  have reachable : (system firstLibrary admin).Reachable s := ⟨_, run.mono fun _ _ _ => trivial⟩
  obtain ⟨value, same, vouched⟩ :=
    (sessions_sound (by decide) reachable (some "cookie") 4611000000000 true).1 accepted
  cases same
  exact ⟨s, reachable, accepted, vouched⟩

end Site

end Gotun.Admin
