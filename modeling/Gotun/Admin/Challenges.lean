import Gotun.Admin.Auth
import Gotun.Lib.Entries
import Mathlib.Data.List.Nodup

/-! A challenge is good for one login: it is accepted once, by the process that issued it, and every
session has a challenge of its own. -/

namespace Gotun.Admin

open Gotun.Lib

/-- The login has consumed the challenge and is about to check the proof. -/
def Login.isProving (id : String) : Login → Bool
  | .proving _ _ challenge => challenge = id
  | _ => false

/-- The login has checked the proof and is about to create the session. -/
def Login.isCreating (id : String) : Login → Bool
  | .creating _ _ challenge => challenge = id
  | _ => false

namespace Site

variable {lib : Library} {cfg : AuthConfig} {s s' : Site} {e : Event}

/-- The random strings of challenges do not repeat. -/
def freshChallenge (s : Site) : Event → Bool
  | .issueChallenge _ _ id _ => id ∉ s.issued.map Issued.ID
  | _ => true

/-- The challenge was issued for this user by this process, and had not expired. -/
def Own (issued : List Issued) (c : Accepted) : Prop :=
  ∃ i ∈ issued, i.ID = c.ID ∧ i.Username = c.Username ∧ i.process = c.process ∧ c.time < i.ExpiresAt

structure Traced (lib : Library) (cfg : AuthConfig) (s : Site) : Prop where
  distinct : (s.issued.map Issued.ID).Nodup
  unused : ∀ id c, s.manager.challenges id = some c →
    ⟨id, c.Username, c.ExpiresAt, s.process⟩ ∈ s.issued ∧ id ∉ s.accepted.map Accepted.ID
  once : (s.accepted.map Accepted.ID).Nodup
  own : ∀ c ∈ s.accepted, Own s.issued c
  checks : ∀ id, s.checked.count id + s.logins.countP (Login.isProving id) ≤
    (s.accepted.map Accepted.ID).count id
  creates : ∀ id, (s.created.map Created.challenge).count id +
    s.logins.countP (Login.isCreating id) ≤ s.checked.count id
  proving : ∀ ip req challenge, .creating ip req challenge ∈ s.logins → req.proves lib cfg = true
  proved : ∀ c ∈ s.created, c.req.proves lib cfg = true

theorem count_set {login : Nat} {l l' : Login} {p : Login → Bool} (at_ : s.logins[login]? = some l)
    (before : p l = false) (after : p l' = false) :
    (s.setLogin login l').logins.countP p = s.logins.countP p :=
  countP_set_same at_ (after.trans before.symm)

theorem creating_set {login : Nat} {l' : Login}
    (proving : ∀ ip req challenge, .creating ip req challenge ∈ s.logins →
      req.proves lib cfg = true)
    (other : ∀ ip req challenge, l' ≠ .creating ip req challenge) :
    ∀ ip req challenge, .creating ip req challenge ∈ (s.setLogin login l').logins →
      req.proves lib cfg = true := by
  intro ip req challenge member
  rcases List.mem_or_eq_of_mem_set member with old | new
  · exact proving ip req challenge old
  · exact absurd new.symm (other ip req challenge)

/-- A login moves on to a stage without a challenge. -/
theorem Traced.moveOn (traced : Traced lib cfg s) {login : Nat} {l l' : Login}
    (at_ : s.logins[login]? = some l)
    (before : ∀ id, l.isProving id = false ∧ l.isCreating id = false)
    (after : ∀ id, l'.isProving id = false ∧ l'.isCreating id = false) :
    Traced lib cfg (s.setLogin login l') := by
  refine ⟨traced.distinct, traced.unused, traced.once, traced.own, fun id => ?_, fun id => ?_,
    ?_, traced.proved⟩
  · rw [count_set at_ (before id).1 (after id).1]
    exact traced.checks id
  · rw [count_set at_ (before id).2 (after id).2]
    exact traced.creates id
  · refine creating_set traced.proving fun ip req challenge same => ?_
    have none_ := (after challenge).2
    rw [same, Login.isCreating, decide_eq_false_iff_not] at none_
    exact none_ rfl

/-- The parts that are looked at are the same, or the table of challenges has fewer. -/
theorem Traced.congr (traced : Traced lib cfg s) (issued : s'.issued = s.issued)
    (accepted : s'.accepted = s.accepted) (checked : s'.checked = s.checked)
    (created : s'.created = s.created) (logins : s'.logins = s.logins)
    (process : s'.process = s.process)
    (challenges : ∀ id c, s'.manager.challenges id = some c → s.manager.challenges id = some c) :
    Traced lib cfg s' := by
  obtain ⟨distinct, unused, once, own, checks, creates, proving, proved⟩ := traced
  refine ⟨by rwa [issued], fun id c found => ?_, by rwa [accepted], by rwa [accepted, issued],
    by rwa [checked, logins, accepted], by rwa [created, logins, checked], by rwa [logins],
    by rwa [created]⟩
  rw [issued, accepted, process]
  exact unused id c (challenges id c found)

theorem Traced.consume (traced : Traced lib cfg s) {username : String} {now : Int} {a : AuthManager}
    (consumes : s.manager.Consumes a) {r : Option String} (accepts : Accepts s username now a s' r) :
    Traced lib cfg s' ∧ s'.logins = s.logins ∧ ∀ id, r = some id →
      s'.checked.count id + s'.logins.countP (Login.isProving id) <
      (s'.accepted.map Accepted.ID).count id := by
  cases accepts with
  | nothing => exact ⟨traced.congr rfl rfl rfl rfl rfl rfl consumes.challenges, rfl, nofun⟩
  | @one id c there own live gone =>
    obtain ⟨issued, fresh⟩ := traced.unused id c there
    have counted (other : String) :
      ((s.accepted ++ [Accepted.mk id username (unix now) s.process]).map Accepted.ID).count other =
        (s.accepted.map Accepted.ID).count other + if id = other then 1 else 0 := by
      rw [List.map_append, List.count_append, List.map_singleton, List.count_singleton]
      simp only [beq_iff_eq]
    refine ⟨⟨traced.distinct, fun other c' found => ?_, ?_, fun c' member => ?_, fun other => ?_,
      traced.creates, traced.proving, traced.proved⟩, rfl, fun other same => ?_⟩
    · obtain ⟨issued', fresh'⟩ := traced.unused other c' (consumes.challenges other c' found)
      refine ⟨issued', fun member => ?_⟩
      rw [List.map_append, List.mem_append] at member
      rcases member with old | new
      · exact fresh' old
      · obtain rfl : other = id := List.mem_singleton.mp new
        exact absurd (gone.symm.trans found) nofun
    · rw [List.map_append, List.map_singleton]
      refine List.nodup_append.mpr
        ⟨traced.once, List.nodup_singleton id, fun other old other' new same => ?_⟩
      obtain rfl : other' = id := List.mem_singleton.mp new
      exact fresh (same ▸ old)
    · rcases List.mem_append.mp member with old | new
      · exact traced.own c' old
      · rw [List.mem_singleton.mp new]
        exact ⟨_, issued, rfl, own, rfl, live⟩
    · refine Nat.le_trans (traced.checks other) ?_
      rw [counted]
      exact Nat.le_add_right _ _
    · obtain rfl := Option.some.inj same
      have unused := traced.checks id
      rw [List.count_eq_zero.mpr fresh] at unused
      rw [counted, if_pos rfl]
      exact Nat.lt_succ_of_le (Nat.le_trans unused (Nat.zero_le _))

/-- A request has been accepted, and goes on to prove itself. -/
theorem Traced.accept (traced : Traced lib cfg s) {login : Nat} {ip : String}
    {sent : Option authLoginRequest} (at_ : s.logins[login]? = some (.passed ip sent))
    {req : authLoginRequest} {challenge : String}
    (room : s.checked.count challenge + s.logins.countP (Login.isProving challenge) <
      (s.accepted.map Accepted.ID).count challenge) :
    Traced lib cfg (s.setLogin login (.proving ip req challenge)) := by
  refine ⟨traced.distinct, traced.unused, traced.once, traced.own, fun id => ?_, fun id => ?_,
    ?_, traced.proved⟩
  · have counted := countP_set_add (p := Login.isProving id) (b := .proving ip req challenge) at_
    have before := traced.checks id
    simp only [Login.isProving, Bool.false_eq_true, if_false, decide_eq_true_eq, Nat.add_zero] at counted
    change s.checked.count id + (s.logins.set login _).countP (Login.isProving id) ≤
      (s.accepted.map Accepted.ID).count id
    by_cases same : challenge = id
    · subst same
      rw [if_pos rfl] at counted
      omega
    · rw [if_neg same] at counted
      omega
  · rw [count_set at_ rfl rfl]
    exact traced.creates id
  · exact creating_set traced.proving nofun

/-- A check uses up the challenge of the login. -/
theorem Traced.check (traced : Traced lib cfg s) {login : Nat} {ip : String}
    {req : authLoginRequest} {challenge : String}
    (at_ : s.logins[login]? = some (.proving ip req challenge)) {l : Login}
    (after : l = .failing ip ∨ l = .creating ip req challenge ∧ req.proves lib cfg = true) :
    Traced lib cfg (setLogin { s with checked := s.checked ++ [challenge] } login l) := by
  have counted (id : String) : (s.checked ++ [challenge]).count id =
      s.checked.count id + if challenge = id then 1 else 0 := by
    rw [List.count_append, List.count_singleton]
    simp only [beq_iff_eq]
  refine ⟨traced.distinct, traced.unused, traced.once, traced.own, fun id => ?_, fun id => ?_,
    ?_, traced.proved⟩
  · have moved := countP_set_add (p := Login.isProving id) (b := l) at_
    have before := traced.checks id
    have after' : l.isProving id = false := by rcases after with rfl | ⟨rfl, _⟩ <;> rfl
    change (s.checked ++ [challenge]).count id + (s.logins.set login l).countP (Login.isProving id) ≤
      (s.accepted.map Accepted.ID).count id
    rw [after'] at moved
    simp only [Login.isProving, Bool.false_eq_true, if_false, decide_eq_true_eq, Nat.add_zero] at moved
    rw [counted]
    omega
  · have moved := countP_set_add (p := Login.isCreating id) (b := l) at_
    have before := traced.creates id
    have after' : l.isCreating id = true → challenge = id := by
      rcases after with rfl | ⟨rfl, _⟩
      · nofun
      · exact of_decide_eq_true
    change (s.created.map Created.challenge).count id +
      (s.logins.set login l).countP (Login.isCreating id) ≤ (s.checked ++ [challenge]).count id
    have first : (Login.proving ip req challenge).isCreating id = false := rfl
    rw [first] at moved
    rw [counted]
    by_cases creating : l.isCreating id = true
    · rw [if_pos creating] at moved
      rw [if_pos (after' creating)]
      simp only [Bool.false_eq_true, if_false] at moved
      omega
    · rw [if_neg creating] at moved
      simp only [Bool.false_eq_true, if_false] at moved
      omega
  · intro ip' req' challenge' member
    rcases List.mem_or_eq_of_mem_set member with old | new
    · exact traced.proving ip' req' challenge' old
    · rcases after with rfl | ⟨rfl, proves⟩
      · cases new
      · cases new
        exact proves

/-- A session uses up the check of the login. -/
theorem Traced.create (traced : Traced lib cfg s) {login : Nat} {ip : String}
    {req : authLoginRequest} {challenge : String}
    (at_ : s.logins[login]? = some (.creating ip req challenge)) {l : Login}
    (after : l = .succeeding ip ∨ l = .ended) {created : List Created}
    (new : created = [] ∨ ∃ session, created = [⟨challenge, req, session⟩]) :
    Traced lib cfg (setLogin { s with created := s.created ++ created } login l) := by
  refine ⟨traced.distinct, traced.unused, traced.once, traced.own, fun id => ?_, fun id => ?_, ?_,
    fun c member => ?_⟩
  · have after' : l.isProving id = false := by rcases after with rfl | rfl <;> rfl
    have kept := count_set (p := Login.isProving id) at_ rfl after'
    exact Nat.le_trans (Nat.le_of_eq (congrArg (s.checked.count id + ·) kept)) (traced.checks id)
  · have moved := countP_set_add (p := Login.isCreating id) (b := l) at_
    have before := traced.creates id
    have after' : l.isCreating id = false := by rcases after with rfl | rfl <;> rfl
    have counted : (created.map Created.challenge).count id ≤ if challenge = id then 1 else 0 := by
      rcases new with rfl | ⟨session, rfl⟩
      · exact Nat.zero_le _
      · rw [List.map_singleton, List.count_singleton]
        simp only [beq_iff_eq, Nat.le_refl]
    change ((s.created ++ created).map Created.challenge).count id +
      (s.logins.set login l).countP (Login.isCreating id) ≤ s.checked.count id
    rw [after'] at moved
    simp only [Login.isCreating, Bool.false_eq_true, if_false, decide_eq_true_eq, Nat.add_zero] at moved
    rw [List.map_append, List.count_append]
    omega
  · refine creating_set traced.proving fun ip' req' challenge' same => ?_
    rcases after with rfl | rfl <;> cases same
  · rcases List.mem_append.mp member with old | last
    · exact traced.proved c old
    · rcases new with rfl | ⟨session, rfl⟩
      · contradiction
      · rw [List.mem_singleton.mp last]
        exact traced.proving ip req challenge (List.mem_of_getElem? at_)

theorem Traced.issue (traced : Traced lib cfg s) {username : String} {now : Int} {id random : String}
    (fresh : id ∉ s.issued.map Issued.ID) : Traced lib cfg { s with
      manager := (s.manager.issueChallenge lib username now id random).1
      issued := s.issued ++ [⟨id, username, unix now + authChallengeTTL, s.process⟩] } := by
  have unaccepted : id ∉ s.accepted.map Accepted.ID := by
    intro member
    obtain ⟨c, there, same⟩ := List.mem_map.mp member
    obtain ⟨i, issued, own, _⟩ := traced.own c there
    exact fresh (List.mem_map.mpr ⟨i, issued, own.trans same⟩)
  refine ⟨?_, fun other c found => ?_, traced.once, fun c member => ?_, traced.checks,
    traced.creates, traced.proving, traced.proved⟩
  · rw [List.map_append, List.map_singleton]
    refine List.nodup_append.mpr
      ⟨traced.distinct, List.nodup_singleton id, fun other old other' new same => ?_⟩
    obtain rfl : other' = id := List.mem_singleton.mp new
    exact fresh (same ▸ old)
  · rcases Table.of_put found with ⟨rfl, rfl⟩ | ⟨_, old⟩
    · exact ⟨List.mem_append_right _ (List.mem_singleton_self _), unaccepted⟩
    · obtain ⟨issued, unused⟩ := traced.unused other c (Option.filter_eq_some_iff.mp old).1
      exact ⟨List.mem_append_left _ issued, unused⟩
  · obtain ⟨i, issued, rest⟩ := traced.own c member
    exact ⟨i, List.mem_append_left _ issued, rest⟩

theorem Traced.boot (traced : Traced lib cfg s) (now : Int) (unreadable : Bool) (key key' : Bytes)
    (saved saved' : Bool) :
    Traced lib cfg (s.boot cfg now unreadable key key' saved saved') := by
  refine ⟨traced.distinct, fun id c found => ?_, traced.once, traced.own, fun id => ?_,
    fun id => ?_, nofun, traced.proved⟩
  · obtain ⟨_, _, blank⟩ := boot_blank cfg s now unreadable key key' saved saved'
    rw [blank] at found
    contradiction
  · exact Nat.le_trans (Nat.add_le_add_left (Nat.zero_le _) _) (traced.checks id)
  · exact Nat.le_trans (Nat.add_le_add_left (Nat.zero_le _) _) (traced.creates id)

theorem Traced.fail (traced : Traced lib cfg s) {login : Nat} {ip : String}
    {sent : Option authLoginRequest} (at_ : s.logins[login]? = some (.passed ip sent)) :
    Traced lib cfg (s.fail login ip) :=
  (traced.moveOn at_ (fun _ => ⟨rfl, rfl⟩) fun _ => ⟨rfl, rfl⟩ :
    Traced lib cfg (s.setLogin login (.failing ip))).congr
    rfl rfl rfl rfl rfl rfl fun _ _ => id

theorem Traced.step (traced : Traced lib cfg s) (fresh : s.freshChallenge e = true)
    (next : s.step lib cfg e = some s') :
    Traced lib cfg s' := by
  cases stepped next with
  | unchanged => exact traced
  | issues => exact traced.issue (of_decide_eq_true fresh)
  | consumes username nonce now =>
    obtain ⟨a, consumes, accepts⟩ := consume_cases lib s username nonce now
    exact (traced.consume consumes accepts).1
  | arrives ip req =>
    refine ⟨traced.distinct, traced.unused, traced.once, traced.own, fun id => ?_, fun id => ?_,
      fun ip' req' challenge member => ?_, traced.proved⟩
    · rw [List.countP_append]
      exact traced.checks id
    · rw [List.countP_append]
      exact traced.creates id
    · rcases List.mem_append.mp member with old | new
      · exact traced.proving ip' req' challenge old
      · cases List.mem_singleton.mp new
  | @looks login ip req at_ a manager l after =>
    have moved : Traced lib cfg (s.setLogin login l) := by
      refine traced.moveOn at_ (fun _ => ⟨rfl, rfl⟩) fun _ => ?_
      rcases after with rfl | ⟨rfl, _⟩ <;> exact ⟨rfl, rfl⟩
    refine moved.congr rfl rfl rfl rfl rfl rfl fun id c found => ?_
    rcases manager with rfl | rfl <;> exact found
  | refuses at_ => exact traced.moveOn at_ (fun _ => ⟨rfl, rfl⟩) fun _ => ⟨rfl, rfl⟩
  | mismatches at_ => exact traced.fail at_
  | @accepts login ip sent at_ now req s₁ challenge consumed =>
    obtain ⟨a, consumes, accepts⟩ := consume_cases lib s req.Username req.Nonce now
    rw [consumed] at accepts
    obtain ⟨traced₁, logins, room⟩ := traced.consume consumes accepts
    exact traced₁.accept (logins ▸ at_) (room challenge rfl)
  | @rejects login ip sent at_ now req s₁ consumed =>
    obtain ⟨a, consumes, accepts⟩ := consume_cases lib s req.Username req.Nonce now
    rw [consumed] at accepts
    obtain ⟨traced₁, logins, _⟩ := traced.consume consumes accepts
    exact traced₁.fail (logins ▸ at_)
  | proves at_ equal => exact traced.check at_ (.inr ⟨rfl, equal⟩)
  | disproves at_ => exact (traced.check at_ (.inl rfl)).congr rfl rfl rfl rfl rfl rfl fun _ _ => id
  | @creates login ip req challenge at_ now id saved a file session made =>
    have only := s.manager.createSession_only req.Username now id saved s.file
    rw [made] at only
    exact (traced.create at_ (.inl rfl) (.inr ⟨session.ID, rfl⟩)).congr rfl rfl rfl rfl rfl
      rfl fun _ _ found =>
      only.challenges ▸ found
  | @loses login ip req challenge at_ now id saved a file made =>
    have only := s.manager.createSession_only req.Username now id saved s.file
    rw [made] at only
    exact (traced.create at_ (.inr rfl) (.inl rfl)).congr rfl rfl rfl
      (List.append_nil _).symm rfl rfl fun _ _ found =>
      only.challenges ▸ found
  | succeeds at_ =>
    exact (traced.moveOn at_ (fun _ => ⟨rfl, rfl⟩) fun _ => ⟨rfl, rfl⟩ :
      Traced lib cfg (s.setLogin _ .ended)).congr rfl rfl rfl rfl rfl rfl fun _ _ => id
  | @loads login ip at_ =>
    exact (traced.moveOn at_ (fun _ => ⟨rfl, rfl⟩) fun _ => ⟨rfl, rfl⟩ :
      Traced lib cfg (s.setLogin login (.loaded ip (s.manager.attempts ip)))).congr rfl rfl rfl rfl
        rfl rfl fun _ _ => id
  | skips at_ => exact traced.moveOn at_ (fun _ => ⟨rfl, rfl⟩) fun _ => ⟨rfl, rfl⟩
  | stores at_ =>
    exact (traced.moveOn at_ (fun _ => ⟨rfl, rfl⟩) fun _ => ⟨rfl, rfl⟩ :
      Traced lib cfg (s.setLogin _ .ended)).congr rfl rfl rfl rfl rfl rfl fun _ _ => id
  | resets => exact traced.congr rfl rfl rfl rfl rfl rfl fun _ _ => id
  | logsOut cookie saved =>
    have only := s.manager.HandleLogout_only cookie saved s.file
    exact traced.congr rfl rfl rfl rfl rfl rfl fun _ _ found => only.challenges ▸ found
  | authenticates cookie now saved =>
    have only := s.manager.IsAuthenticated_only cfg cookie now saved s.file
    exact traced.congr rfl rfl rfl rfl rfl rfl fun _ _ found => only.challenges ▸ found
  | shows cookie now saved =>
    have only := s.manager.HandleSession_only cfg cookie now saved s.file
    exact traced.congr rfl rfl rfl rfl rfl rfl fun _ _ found => only.challenges ▸ found
  | boots now unreadable key key' saved saved' => exact traced.boot now unreadable key key' saved saved'

/-- What is promised of challenges. -/
structure UsedOnce (lib : Library) (cfg : AuthConfig) (s : Site) : Prop where
  once : (s.accepted.map Accepted.ID).Nodup
  own : ∀ c ∈ s.accepted, Own s.issued c
  checked : s.checked.Nodup ∧ ∀ id ∈ s.checked, id ∈ s.accepted.map Accepted.ID
  created : (s.created.map Created.challenge).Nodup
  proved : ∀ c ∈ s.created, c.challenge ∈ s.issued.map Issued.ID ∧
    Text.decodeHex c.req.Proof = some (signProof lib (deriveUserKey lib cfg) c.req.Nonce)

/-- In every run a challenge is accepted, checked and turned into a session at most once. -/
theorem challenges_used_once {events : List Event}
    (run : (system lib cfg).Run (fun s e => s.freshChallenge e = true) events s) :
    UsedOnce lib cfg s := by
  have traced : Traced lib cfg s := by
    refine run.invariant (Traced lib cfg) ?_ fun _ _ _ traced fresh next => traced.step fresh next
    rintro s ⟨now, unreadable, key, key', saved, saved', rfl⟩
    refine Traced.boot ?_ now unreadable key key' saved saved'
    exact ⟨List.nodup_nil, nofun, List.nodup_nil, nofun, fun _ => Nat.le_refl 0,
      fun _ => Nat.le_refl 0, nofun, nofun⟩
  have single : ∀ id, (s.accepted.map Accepted.ID).count id ≤ 1 :=
    List.nodup_iff_count_le_one.mp traced.once
  have checks (id : String) : s.checked.count id ≤ (s.accepted.map Accepted.ID).count id :=
    Nat.le_trans (Nat.le_add_right _ _) (traced.checks id)
  have creates (id : String) : (s.created.map Created.challenge).count id ≤ s.checked.count id :=
    Nat.le_trans (Nat.le_add_right _ _) (traced.creates id)
  have accepted : ∀ id ∈ s.checked, id ∈ s.accepted.map Accepted.ID := fun id member =>
    List.count_pos_iff.mp (Nat.lt_of_lt_of_le (List.count_pos_iff.mpr member) (checks id))
  refine ⟨traced.once, traced.own, ⟨?_, accepted⟩, ?_, fun c member => ⟨?_, ?_⟩⟩
  · exact List.nodup_iff_count_le_one.mpr fun id => Nat.le_trans (checks id) (single id)
  · exact List.nodup_iff_count_le_one.mpr fun id => Nat.le_trans (creates id)
      (Nat.le_trans (checks id) (single id))
  · have counted := List.count_pos_iff.mpr (List.mem_map_of_mem (f := Created.challenge) member)
    have checked := List.count_pos_iff.mp (Nat.lt_of_lt_of_le counted (creates c.challenge))
    obtain ⟨a, there, same⟩ := List.mem_map.mp (accepted _ checked)
    obtain ⟨i, issued, own, _⟩ := traced.own a there
    exact List.mem_map.mpr ⟨i, issued, own.trans same⟩
  · exact of_decide_eq_true (traced.proved c member)

/-! A login with its nonce, and the nonce again. -/

def admin : AuthConfig := ⟨"admin", "secret", 5⟩

def firstKey : Bytes := List.replicate 32 1

def firstPayload : signedChallenge :=
  ⟨"AAAAAAAAAAAAAAAAAAAAAA", "admin", 1000, 1120, "AAAAAAAAAAAAAAAAAAAAAA"⟩

/-- The payload in JSON. -/
def firstBody : Bytes :=
  [123, 34, 105, 100, 34, 58, 34, 65, 65, 65, 65, 65, 65, 65, 65, 65, 65, 65, 65, 65, 65, 65,
    65, 65, 65, 65, 65,
    65, 65, 34, 44, 34, 117, 115, 101, 114, 110, 97, 109, 101, 34, 58, 34, 97, 100, 109, 105,
      110, 34, 44, 34, 105,
    115, 115, 117, 101, 100, 95, 97, 116, 34, 58, 49, 48, 48, 48, 44, 34, 101, 120, 112, 105,
      114, 101, 115, 95, 97,
    116, 34, 58, 49, 49, 50, 48, 44, 34, 114, 97, 110, 100, 111, 109, 34, 58, 34, 65, 65, 65,
      65, 65, 65, 65, 65,
    65, 65, 65, 65, 65, 65, 65, 65, 65, 65, 65, 65, 65, 65, 34, 125]

def firstSignature : Bytes :=
  [178, 170, 115, 192, 192, 34, 224, 104, 128, 236, 140, 103, 218, 28, 243, 235, 159, 218,
    232, 153, 47, 71, 144,
    79, 148, 59, 83, 21, 175, 234, 45, 189]

def firstNonce : List Char := Text.encodeBase64 firstBody ++ ['.'] ++ Text.encodeBase64 firstSignature

def adminKey : Bytes :=
  [190, 162, 106, 57, 138, 204, 83, 125, 199, 128, 153, 111, 67, 67, 16, 108, 96, 122, 255,
    196, 202, 46, 26, 250,
    107, 163, 156, 152, 215, 224, 229, 106]

def firstProof : Bytes :=
  [131, 93, 199, 90, 90, 249, 107, 15, 35, 79, 26, 99, 226, 60, 136, 14, 229, 24, 225, 138,
    38, 178, 200, 15, 46,
    84, 39, 133, 128, 133, 115, 98]

/-- The values of the real functions where they are needed. -/
def firstLibrary : Library where
  marshal payload := if payload = firstPayload then firstBody else []
  unmarshal body := if body = firstBody then some firstPayload else none
  hmac key message :=
    if key = firstKey ∧ message = firstBody then firstSignature
    else if key = adminKey ∧ message = Text.utf8 firstNonce then firstProof
    else []
  sha256 message := if message = Text.utf8 "admin:gotun:secret".toList then adminKey else []

def hexOf (bytes : Bytes) : List Char :=
  bytes.flatMap fun b => [Nat.digitChar (b.toNat / 16), Nat.digitChar (b.toNat % 16)]

def firstLogin : authLoginRequest := ⟨"admin", firstNonce, hexOf firstProof⟩

def loginTwice : List Event :=
  [.issueChallenge "admin" 1000000000000 firstPayload.ID firstPayload.Random,
    .HandleLogin "1.2.3.4" (some firstLogin),
    .isBlocked 0, .credentials 0 1010000000000, .HandleLogin "1.2.3.4" (some firstLogin),
      .isBlocked 1, .checkProof 0,
    .createSession 0 1010000000000 "cookie" true, .onAuthSuccess 0, .credentials 1 1011000000000]

theorem challenges_used_once_login_twice :
    ∃ s, (system firstLibrary admin).Run (fun s e => s.freshChallenge e = true) loginTwice s ∧
      s.accepted.length = 1 ∧
      s.created.length = 1 ∧ s.failures "1.2.3.4" = 1 ∧ UsedOnce firstLibrary admin s := by
  have played : ((system firstLibrary admin).play freshChallenge loginTwice
      (empty.boot admin 0 false firstKey [] true true)).any
      (fun s => s.accepted.length = 1 ∧ s.created.length = 1 ∧ s.failures "1.2.3.4" = 1) = true := by
    decide +kernel
  obtain ⟨s, run, seen⟩ :=
    System.Run.of_play (starts_boot firstLibrary admin 0 false firstKey [] true true) played
  obtain ⟨one, made, failed⟩ := of_decide_eq_true seen
  exact ⟨s, run, one, made, failed, challenges_used_once run⟩

end Site

end Gotun.Admin
