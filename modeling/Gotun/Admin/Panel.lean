import Gotun.Admin.Sessions
import Gotun.Builtin.Runs
import Gotun.Tun.Identity

/-! `admin/route/route.go` and the handlers of `admin/controller`: which pattern a request meets, what
guards its handler, and what the handler asks of the managers. -/

namespace Gotun.Admin
open Gotun.Lib

inductive Guard where
  | open_
  | RequireAuth
  | RequirePageAuth
  deriving DecidableEq, Repr

inductive TunnelHandler where
  | List | Delete | SetDisabled | Create | Edit | Import | Export | CheckServer | Quality | Probe
  | ProbeHistory | Bandwidth | MTRStream
  deriving DecidableEq, Repr

inductive RouteHandler where
  | List | Create | Edit | Delete | SetDisabled | SwitchLog
  deriving DecidableEq, Repr

inductive ServiceHandler where
  | List | Create | Edit | Delete | SetDisabled
  deriving DecidableEq, Repr

/-- A route handler is told the mode of its endpoint. -/
inductive Handler where
  | fileServer
  | loginPage
  | HandleChallenge
  | HandleLogin
  | HandleLogout
  | HandleSession
  | index
  | renderWithAssets
  | tunnel (h : TunnelHandler)
  | route (mode : String) (h : RouteHandler)
  | service (h : ServiceHandler)
  deriving DecidableEq, Repr

structure Pattern where
  path : String
  guard : Guard
  handler : Handler
  deriving DecidableEq, Repr

def routePatterns (prefix_ mode : String) : List Pattern :=
  [⟨prefix_ ++ "/list", .RequireAuth, .route mode .List⟩,
    ⟨prefix_ ++ "/create", .RequireAuth, .route mode .Create⟩,
    ⟨prefix_ ++ "/edit", .RequireAuth, .route mode .Edit⟩,
      ⟨prefix_ ++ "/delete", .RequireAuth, .route mode .Delete⟩,
    ⟨prefix_ ++ "/set_disabled", .RequireAuth, .route mode .SetDisabled⟩,
    ⟨prefix_ ++ "/switch_log", .RequireAuth, .route mode .SwitchLog⟩]

/-- `Register`. -/
def patterns : List Pattern :=
  [⟨"/go_sword_public/", .open_, .fileServer⟩, ⟨"/login", .open_, .loginPage⟩,
    ⟨"/api/auth/challenge", .open_, .HandleChallenge⟩, ⟨"/api/auth/login", .open_, .HandleLogin⟩,
    ⟨"/api/auth/logout", .open_, .HandleLogout⟩, ⟨"/api/auth/session", .open_, .HandleSession⟩,
    ⟨"/", .RequirePageAuth, .index⟩, ⟨"/render", .RequireAuth, .renderWithAssets⟩,
    ⟨"/api/tunnel/list", .RequireAuth, .tunnel .List⟩,
      ⟨"/api/tunnel/delete", .RequireAuth, .tunnel .Delete⟩,
    ⟨"/api/tunnel/set_disabled", .RequireAuth, .tunnel .SetDisabled⟩,
      ⟨"/api/tunnel/create", .RequireAuth, .tunnel .Create⟩,
    ⟨"/api/tunnel/edit", .RequireAuth, .tunnel .Edit⟩,
      ⟨"/api/tunnel/import", .RequireAuth, .tunnel .Import⟩,
    ⟨"/api/tunnel/export", .RequireAuth, .tunnel .Export⟩,
      ⟨"/api/tunnel/check_server", .RequireAuth, .tunnel .CheckServer⟩,
    ⟨"/api/tunnel/quality", .RequireAuth, .tunnel .Quality⟩,
      ⟨"/api/tunnel/probe", .RequireAuth, .tunnel .Probe⟩,
    ⟨"/api/tunnel/probe_history", .RequireAuth, .tunnel .ProbeHistory⟩,
      ⟨"/api/tunnel/bandwidth", .RequireAuth, .tunnel .Bandwidth⟩,
    ⟨"/api/tunnel/mtr/stream", .RequireAuth, .tunnel .MTRStream⟩] ++
  routePatterns "/api/route_output" "output" ++ routePatterns "/api/route_input" "input" ++
  [⟨"/api/service/list", .RequireAuth, .service .List⟩,
    ⟨"/api/service/create", .RequireAuth, .service .Create⟩,
    ⟨"/api/service/edit", .RequireAuth, .service .Edit⟩,
      ⟨"/api/service/delete", .RequireAuth, .service .Delete⟩,
    ⟨"/api/service/set_disabled", .RequireAuth, .service .SetDisabled⟩]

/-- A pattern that ends in a slash stands for all paths below it. -/
def Pattern.fits (p : Pattern) (path : String) : Bool :=
  if p.path.endsWith "/" then p.path.isPrefixOf path else p.path = path

/-- The longest pattern that fits. -/
def longest (path : String) : List Pattern → Option Pattern → Option Pattern
  | [], best => best
  | p :: rest, best =>
    let better := p.fits path && (best.map fun b => decide (b.path.length < p.path.length)).getD true
    longest path rest (if better then some p else best)

/-- `http.ServeMux`. -/
def mux (path : String) : Option Pattern := longest path patterns none

theorem longest_mem {path : String} {ps : List Pattern} {best : Option Pattern} {p : Pattern}
    (found : longest path ps best = some p) :
    p ∈ ps ∨ best = some p := by
  induction ps generalizing best with
  | nil => exact Or.inr found
  | cons q rest ih =>
    rw [longest] at found
    rcases ih found with inside | here
    · exact Or.inl (List.mem_cons_of_mem q inside)
    · split_ifs at here
      · exact Or.inl (Option.some.inj here ▸ List.mem_cons_self)
      · exact Or.inr here

/-- What the handlers read of a request. -/
structure Request where
  path : String
  cookie : Option String
  body : Bytes
  form : Except String (String → String)

/-- What `json.Unmarshal` makes of a body, for each type that the handlers give it. -/
structure Decoders where
  tunnel : Bytes → Except String Tun.Config
  named : Bytes → Except String (String × Bool)
  route : Bytes → Except String Tun.Route.RouteConfig
  service : Bytes → Except String Builtin.Config

/-- What a handler asks of a manager. -/
inductive Command where
  | tunnels (op : Tun.Op)
  | services (op : Builtin.Operation)
  deriving DecidableEq

/-- `strconv.ParseBool`. -/
def ParseBool (str : String) : Except String Bool :=
  if str ∈ ["1", "t", "T", "TRUE", "true", "True"] then .ok true
  else if str ∈ ["0", "f", "F", "FALSE", "false", "False"] then .ok false
  else .error ("strconv.ParseBool: parsing \"" ++ str ++ "\": invalid syntax")

def Model2Config (ls : Tun.Config) : Tun.Config := { ls with CreatedAt := 0 }

def modelToRoute (m : Tun.Route.RouteConfig) : Tun.Route.RouteConfig :=
  { m with ProbeMode := "", ProbeWarnings := [], CreatedAt := 0 }

def need (wanted : Bool) (text : String) : Except String Unit := if wanted then .ok () else .error text

section handlers

variable (decoders : Decoders)

def TunnelHandler.command (r : Request) : TunnelHandler → Except String (Option Command)
  | .Delete => do
    let cfg ← decoders.tunnel r.body
    pure (some (.tunnels (.removeService (Model2Config cfg).Name)))
  | .SetDisabled => do
    let payload ← decoders.named r.body
    need (payload.1 ≠ "") "lose name"
    pure (some (.tunnels (.setServiceDisabled payload.1 payload.2)))
  | .Create | .Import => do
    let cfg ← decoders.tunnel r.body
    pure (some (.tunnels (.addService (Model2Config cfg) true)))
  | .Edit => do
    let cfg ← decoders.tunnel r.body
    pure (some (.tunnels (.replaceService (Model2Config cfg))))
  | .List | .Export | .CheckServer | .Quality | .Probe | .ProbeHistory | .Bandwidth | .MTRStream =>
    pure none

/-- The mode of the endpoint replaces that of the body. -/
def RouteHandler.command (r : Request) (mode : String) : RouteHandler → Except String (Option Command)
  | .Create => do
    let data ← decoders.route r.body
    pure (some (.tunnels (.addRoute (modelToRoute { data with Mode := mode }) true)))
  | .Edit => do
    let data ← decoders.route r.body
    pure (some (.tunnels (.replaceRoute (modelToRoute { data with Mode := mode }))))
  | .Delete => do
    let data ← decoders.route r.body
    pure (some (.tunnels (.removeRouteByUUID data.UUID)))
  | .SetDisabled => do
    let form ← r.form
    need (form "name" ≠ "") "lose name"
    let disabled ← ParseBool (form "disabled")
    pure (some (.tunnels (.setRouteDisabled (form "name") disabled)))
  | .List | .SwitchLog => pure none

def ServiceHandler.command (r : Request) : ServiceHandler → Except String (Option Command)
  | .Create => do
    let cfg ← decoders.service r.body
    need (cfg.Name ≠ "") "lose name"
    need (cfg.ServiceType ≠ "") "lose type"
    pure (some (.services (.AddService cfg true)))
  | .Edit => do
    let cfg ← decoders.service r.body
    need (cfg.UUID ≠ "") "lose uuid"
    pure (some (.services (.ReplaceServiceByUUID cfg)))
  | .Delete => do
    let payload ← decoders.named r.body
    need (payload.1 ≠ "") "lose name"
    pure (some (.services (.RemoveService payload.1)))
  | .SetDisabled => do
    let payload ← decoders.named r.body
    need (payload.1 ≠ "") "lose name"
    pure (some (.services (.SetServiceDisabled payload.1 payload.2)))
  | .List => pure none

/-- What a handler asks of the managers, or the text of its panic before that. -/
def Handler.command (r : Request) : Handler → Except String (Option Command)
  | .tunnel h => h.command decoders r
  | .route mode h => h.command decoders r mode
  | .service h => h.command decoders r
  | .fileServer | .loginPage | .HandleChallenge | .HandleLogin | .HandleLogout | .HandleSession
  | .index | .renderWithAssets => pure none

/-- The handlers that can ask for something. -/
def Handler.commands : Handler → Bool
  | .tunnel _ | .route _ _ | .service _ => true
  | _ => false

theorem Handler.command_commands {r : Request} {h : Handler} {c : Command}
    (asks : h.command decoders r = .ok (some c)) :
    h.commands = true := by
  cases h with
  | tunnel _ | route _ _ | service _ => rfl
  | _ => exact absurd (Except.ok.inj asks) nofun

/-- All of those are behind `RequireAuth`. -/
theorem patterns_guarded : ∀ p ∈ patterns, p.handler.commands = true → p.guard = .RequireAuth := by
  decide

theorem mux_guarded {path : String} {p : Pattern} (met : mux path = some p)
    (commands : p.handler.commands = true) :
    p.guard = .RequireAuth :=
  patterns_guarded p ((longest_mem met).resolve_right nofun) commands

end handlers

/-- A request whose handler is running, and when it was let through. -/
structure Serving where
  pattern : Pattern
  request : Request
  now : Int

/-- The process that serves the pages, with its two managers. -/
structure Panel where
  auth : Site
  registry : Tun.Registry
  services : Builtin.Manager
  serving : List Serving

/-- What does not change while it runs. -/
structure PanelSite where
  lib : Library
  cfg : AuthConfig
  decoders : Decoders
  tunnels : Tun.Site
  builtin : Builtin.Site

/-- `auth` stands for the steps of the handlers that anyone can call. -/
inductive PanelEvent where
  | auth (e : Event)
  | request (r : Request) (now : Int) (saved : Bool)
  | handle (i : Nat) (env : Tun.Env) (env' : Builtin.Env) (runs : List (Nat × Builtin.Bind))
  | run (id : Nat) (b : Builtin.Bind)

def Event.isRestart : Event → Bool
  | .restart .. => true
  | _ => false

namespace Panel

variable (site : PanelSite)

def IsAuthenticated (p : Panel) (r : Request) (now : Int) (saved : Bool) : Panel × Bool :=
  let (a, file, ok) := p.auth.manager.IsAuthenticated site.cfg r.cookie now saved p.auth.file
  ({ p with auth := { p.auth with manager := a, file := file } }, ok)

def serve (p : Panel) (pattern : Pattern) (r : Request) (now : Int) : Panel :=
  { p with serving := p.serving ++ [⟨pattern, r, now⟩] }

def step (p : Panel) : PanelEvent → Option Panel
  | .auth e =>
    if e.isRestart then none else (p.auth.step site.lib site.cfg e).map fun auth => { p with auth }
  | .request r now saved => match mux r.path with
    | none => some p
    | some pattern => match pattern.guard with
      | .open_ => some (p.serve pattern r now)
      | .RequireAuth | .RequirePageAuth =>
        let (p, ok) := p.IsAuthenticated site r now saved
        some (if ok then p.serve pattern r now else p)
  | .handle i env env' runs => match p.serving[i]? with
    | none => none
    | some served =>
      let p := { p with serving := p.serving.eraseIdx i }
      match served.pattern.handler.command site.decoders served.request with
      | .ok (some (.tunnels op)) =>
        some { p with registry := (Tun.Registry.apply site.tunnels env op p.registry).2 }
      | .ok (some (.services op)) =>
        some { p with services := (op.exec site.builtin env' runs p.services).2 }
      | .ok none | .error _ => some p
  | .run id b => (p.services.run id b).map fun services => { p with services }

/-- The pages are served after any history of logins, logouts and restarts. -/
def system (registry : Tun.Registry) (services : Builtin.Manager) : System Panel PanelEvent where
  start p := ∃ auth, (Site.system site.lib site.cfg).Reachable auth ∧ p = ⟨auth, registry, services, []⟩
  step := step site

end Panel

/-! Who has a session. -/

namespace Site

variable {lib : Library} {cfg : AuthConfig} {s s' : Site} {e : Event}

/-- A login that is about to get a session has passed the check of its proof. -/
def Passed (lib : Library) (cfg : AuthConfig) : Login → Prop
  | .creating _ req _ => req.proves lib cfg = true
  | _ => True

/-- Whoever has got a session has proved to know the password. -/
structure Proved (lib : Library) (cfg : AuthConfig) (s : Site) : Prop where
  passed : ∀ l ∈ s.logins, Passed lib cfg l
  login : ∀ id time, CookieEvent.login id time ∈ s.cookies → ∃ c ∈ s.created, c.session = id ∧
    c.req.proves lib cfg = true

theorem Proved.set (proved : Proved lib cfg s) {login : Nat} {l : Login} (new : Passed lib cfg l) :
    ∀ l' ∈ s.logins.set login l, Passed lib cfg l' := by
  intro l' member
  rcases List.mem_or_eq_of_mem_set member with before | rfl
  · exact proved.passed l' before
  · exact new

theorem Proved.moveOn (proved : Proved lib cfg s) {login : Nat} {l : Login} (new : Passed lib cfg l)
    (logins : s'.logins = s.logins.set login l) (cookies : s'.cookies = s.cookies)
    (created : s'.created = s.created) :
    Proved lib cfg s' :=
  ⟨logins ▸ proved.set new, by rw [cookies, created]; exact proved.login⟩

/-- Nothing is forgotten of what has happened. -/
structure Grows (s s' : Site) : Prop where
  cookies : s.cookies <+: s'.cookies
  created : ∀ c ∈ s.created, c ∈ s'.created

theorem Grows.refl (s : Site) : Grows s s := ⟨List.prefix_rfl, fun _ => id⟩

theorem Grows.congr (cookies : s'.cookies = s.cookies) (created : s'.created = s.created) : Grows s s' :=
  ⟨cookies ▸ List.prefix_rfl, fun _ member => created ▸ member⟩

/-- What consuming a challenge leaves alone. -/
theorem consume_same (lib : Library) (s : Site) (username : String) (nonce : List Char) (now : Int) :
    (s.consume lib username nonce now).1.logins = s.logins ∧
      (s.consume lib username nonce now).1.cookies = s.cookies ∧
      (s.consume lib username nonce now).1.created = s.created := by
  obtain ⟨a, _, accepts⟩ := s.consume_cases lib username nonce now
  generalize s.consume lib username nonce now = result at accepts
  obtain ⟨s₁, challenge⟩ := result
  cases accepts with
  | nothing => exact ⟨rfl, rfl, rfl⟩
  | one => exact ⟨rfl, rfl, rfl⟩

theorem consumed_same {username : String} {nonce : List Char} {now : Int} {s₁ : Site}
    {challenge : Option String} (consumed : s.consume lib username nonce now = (s₁, challenge)) :
    s₁.logins = s.logins ∧ s₁.cookies = s.cookies ∧ s₁.created = s.created := by
  have same := consume_same lib s username nonce now
  rwa [consumed] at same

theorem boot_same (s : Site) (now : Int) (unreadable : Bool) (key key' : Bytes) (saved saved' : Bool) :
    (s.boot cfg now unreadable key key' saved saved').logins = [] ∧
      (s.boot cfg now unreadable key key' saved saved').cookies = s.cookies ∧
      (s.boot cfg now unreadable key key' saved saved').created = s.created := ⟨rfl, rfl, rfl⟩

theorem grows (next : s.step lib cfg e = some s') : Grows s s' := by
  cases stepped next with
  | creates at_ made => exact ⟨List.prefix_append .., fun _ => List.mem_append_left _⟩
  | logsOut cookie saved => exact ⟨List.prefix_append .., fun _ => id⟩
  | consumes username nonce now =>
    obtain ⟨_, cookies, created⟩ := consume_same lib s username nonce now
    exact .congr cookies created
  | accepts at_ consumed => exact .congr (consumed_same consumed).2.1 (consumed_same consumed).2.2
  | rejects at_ consumed => exact .congr (consumed_same consumed).2.1 (consumed_same consumed).2.2
  | _ => exact .congr rfl rfl

theorem Proved.step (proved : Proved lib cfg s)
    (next : s.step lib cfg e = some s') : Proved lib cfg s' := by
  cases stepped next with
  | unchanged | issues | resets | authenticates | shows => exact ⟨proved.passed, proved.login⟩
  | consumes username nonce now =>
    obtain ⟨logins, cookies, created⟩ := consume_same lib s username nonce now
    exact ⟨by rw [logins]; exact proved.passed, by rw [cookies, created]; exact proved.login⟩
  | arrives ip req =>
    refine ⟨fun l member => ?_, proved.login⟩
    rcases List.mem_append.mp member with before | here
    · exact proved.passed l before
    · rw [List.mem_singleton.mp here]
      trivial
  | looks at_ manager after =>
    refine proved.moveOn ?_ rfl rfl rfl
    rcases after with rfl | ⟨rfl, _⟩ <;> trivial
  | refuses at_ | mismatches at_ | succeeds at_ | loads at_ | skips at_ | stores at_ | loses at_
  | disproves at_ =>
    refine proved.moveOn ?_ rfl rfl rfl
    trivial
  | accepts at_ consumed =>
    obtain ⟨logins, cookies, created⟩ := consumed_same consumed
    refine proved.moveOn ?_ (congrArg (List.set · _ _) logins) cookies created
    trivial
  | rejects at_ consumed =>
    obtain ⟨logins, cookies, created⟩ := consumed_same consumed
    refine proved.moveOn ?_ (congrArg (List.set · _ _) logins) cookies created
    trivial
  | proves at_ equal =>
    refine proved.moveOn ?_ rfl rfl rfl
    exact equal
  | creates at_ made =>
    have equal := proved.passed _ (List.mem_of_getElem? at_)
    refine ⟨proved.set trivial, fun id time member => ?_⟩
    rcases List.mem_append.mp member with before | here
    · obtain ⟨c, there, session, proves⟩ := proved.login id time before
      exact ⟨c, List.mem_append_left _ there, session, proves⟩
    · cases List.mem_singleton.mp here
      exact ⟨_, List.mem_append_right _ (List.mem_singleton_self _), rfl, equal⟩
  | logsOut cookie saved =>
    refine ⟨proved.passed, fun id time member => ?_⟩
    rcases List.mem_append.mp member with before | here
    · exact proved.login id time before
    · simp at here
  | boots now unreadable key key' saved saved' =>
    obtain ⟨logins, cookies, created⟩ := boot_same s now unreadable key key' saved saved'
    exact ⟨by rw [logins]; exact fun _ member => absurd member List.not_mem_nil,
      by rw [cookies, created]; exact proved.login⟩

theorem proved_reachable (reachable : (system lib cfg).Reachable s) : Proved lib cfg s := by
  refine reachable.invariant (Proved lib cfg) ?_ fun _ _ _ proved next => proved.step next
  rintro s ⟨now, unreadable, key, key', saved, saved', rfl⟩
  exact ⟨fun _ member => absurd member List.not_mem_nil,
    fun _ _ member => absurd member List.not_mem_nil⟩

end Site

namespace Panel

variable {site : PanelSite} {p p' : Panel} {e : PanelEvent} {registry : Tun.Registry}
  {services : Builtin.Manager}

/-- The cookie of the request was vouched for when it was let through, by a login of someone who
knows the password. -/
def Authorized (site : PanelSite) (auth : Site) (served : Serving) : Prop :=
  ∃ cookie t, served.request.cookie = some cookie ∧ (Site.system site.lib site.cfg).Reachable t ∧
    t.Vouched cookie served.now ∧
    t.cookies <+: auth.cookies ∧ ∃ c ∈ auth.created, c.session = cookie ∧
      c.req.proves site.lib site.cfg = true

theorem Authorized.grows {auth auth' : Site} {served : Serving}
    (authorized : Authorized site auth served) (grows : Site.Grows auth auth') :
    Authorized site auth' served := by
  obtain ⟨cookie, t, sent, reachable, vouched, before, c, member, proved⟩ := authorized
  exact ⟨cookie, t, sent, reachable, vouched, before.trans grows.cookies, c,
    grows.created c member, proved⟩

structure Sound (site : PanelSite) (p : Panel) : Prop where
  auth : (Site.system site.lib site.cfg).Reachable p.auth
  met : ∀ served ∈ p.serving, mux served.request.path = some served.pattern
  authorized : ∀ served ∈ p.serving, served.pattern.guard ≠ .open_ → Authorized site p.auth served

/-- A request that is let through by its session. -/
theorem authorized_now (enabled : site.cfg.authEnabled = true)
    (reachable : (Site.system site.lib site.cfg).Reachable p.auth) {r : Request} {now : Int}
    {saved : Bool} (ok : (p.IsAuthenticated site r now saved).2 = true) (pattern : Pattern) :
    Authorized site p.auth ⟨pattern, r, now⟩ := by
  obtain ⟨cookie, sent, vouched⟩ := (Site.sessions_sound enabled reachable r.cookie now saved).1 ok
  obtain ⟨time, before, after, split, _⟩ := id vouched
  have member : CookieEvent.login cookie time ∈ p.auth.cookies := by
    rw [split]
    exact List.mem_append_right _ List.mem_cons_self
  exact ⟨cookie, p.auth, sent, reachable, vouched, List.prefix_rfl,
    (Site.proved_reachable reachable).login cookie time member⟩

/-- A request leaves the managers alone, and is let through or not. -/
theorem request_cases {r : Request} {now : Int} {saved : Bool}
    (next : p.step site (.request r now saved) = some p') :
    p' = p ∨ ∃ pattern, mux r.path = some pattern ∧
      (pattern.guard = .open_ ∧ p' = p.serve pattern r now ∨
      pattern.guard ≠ .open_ ∧ (p' = (p.IsAuthenticated site r now saved).1 ∨
        (p.IsAuthenticated site r now saved).2 = true ∧
          p' = (p.IsAuthenticated site r now saved).1.serve pattern r now)) := by
  rw [step] at next
  split at next
  · exact Or.inl (Option.some.inj next).symm
  · rename_i pattern met
    refine Or.inr ⟨pattern, met, ?_⟩
    cases guard : pattern.guard with
    | open_ =>
      rw [guard] at next
      exact Or.inl ⟨rfl, (Option.some.inj next).symm⟩
    | RequireAuth | RequirePageAuth =>
      rw [guard] at next
      refine Or.inr ⟨nofun, ?_⟩
      cases ok : (p.IsAuthenticated site r now saved).2 with
      | false =>
        simp only [ok, Bool.false_eq_true, if_false, Option.some.injEq] at next
        exact Or.inl next.symm
      | true =>
        simp only [ok, if_true, Option.some.injEq] at next
        exact Or.inr ⟨rfl, next.symm⟩

/-- Looking at a session is a step of the sessions. -/
theorem IsAuthenticated_step (r : Request) (now : Int) (saved : Bool) :
    (p.IsAuthenticated site r now saved).1.serving = p.serving ∧
      p.auth.step site.lib site.cfg (.IsAuthenticated r.cookie now saved) =
        some (p.IsAuthenticated site r now saved).1.auth :=
  ⟨rfl, rfl⟩

/-- A handler runs to its end. -/
theorem handle_cases {i : Nat} {env : Tun.Env} {env' : Builtin.Env}
    {runs : List (Nat × Builtin.Bind)} (next : p.step site (.handle i env env' runs) = some p') :
    ∃ served, p.serving[i]? = some served ∧ p'.auth = p.auth ∧
      p'.serving = p.serving.eraseIdx i ∧ (p'.registry = p.registry ∧ p'.services = p.services ∨
        ∃ c, served.pattern.handler.command site.decoders served.request = .ok (some c)) := by
  rw [step] at next
  split at next
  · contradiction
  · rename_i served there
    refine ⟨served, there, ?_⟩
    dsimp only at next
    split at next
    · rename_i op asks
      cases next
      exact ⟨rfl, rfl, Or.inr ⟨_, asks⟩⟩
    · rename_i op asks
      cases next
      exact ⟨rfl, rfl, Or.inr ⟨_, asks⟩⟩
    · cases next
      exact ⟨rfl, rfl, Or.inl ⟨rfl, rfl⟩⟩
    · cases next
      exact ⟨rfl, rfl, Or.inl ⟨rfl, rfl⟩⟩

theorem reachable_step {auth auth' : Site} {e : Event}
    (reachable : (Site.system site.lib site.cfg).Reachable auth)
    (next : auth.step site.lib site.cfg e = some auth') :
    (Site.system site.lib site.cfg).Reachable auth' := by
  obtain ⟨events, run⟩ := reachable
  exact ⟨events ++ [e], run.step trivial next⟩

theorem Sound.of_auth (sound : Sound site p) {e : Event}
    (next : p.auth.step site.lib site.cfg e = some p'.auth)
    (serving : p'.serving = p.serving) : Sound site p' :=
  ⟨reachable_step sound.auth next, serving ▸ sound.met,
    fun served member guarded => (sound.authorized served (serving ▸ member) guarded).grows
      (Site.grows next)⟩

theorem Sound.serve (sound : Sound site p) {pattern : Pattern} {r : Request} {now : Int}
    (met : mux r.path = some pattern)
    (authorized : pattern.guard ≠ .open_ → Authorized site p.auth ⟨pattern, r, now⟩) :
    Sound site (p.serve pattern r now) := by
  refine ⟨sound.auth, fun served member => ?_, fun served member guarded => ?_⟩
  · rcases List.mem_append.mp member with before | here
    · exact sound.met served before
    · rw [List.mem_singleton.mp here]
      exact met
  · rcases List.mem_append.mp member with before | here
    · exact sound.authorized served before guarded
    · rw [List.mem_singleton.mp here] at guarded ⊢
      exact authorized guarded

theorem Sound.step (enabled : site.cfg.authEnabled = true) (sound : Sound site p)
    (next : p.step site e = some p') : Sound site p' := by
  cases e with
  | auth e =>
    rw [Panel.step] at next
    split_ifs at next
    obtain ⟨auth, moved, rfl⟩ := Option.map_eq_some_iff.mp next
    exact sound.of_auth moved rfl
  | request r now saved =>
    obtain ⟨serving, looked⟩ := @IsAuthenticated_step site p r now saved
    rcases request_cases next with rfl | ⟨pattern, met, ⟨open_, rfl⟩ | ⟨_, rfl | ⟨ok, rfl⟩⟩⟩
    · exact sound
    · exact sound.serve met fun guarded => absurd open_ guarded
    · exact sound.of_auth looked serving
    · refine (sound.of_auth looked serving).serve met fun _ => ?_
      exact (authorized_now enabled sound.auth ok pattern).grows (Site.grows looked)
  | handle i env env' runs =>
    obtain ⟨served, there, auth, serving, _⟩ := handle_cases next
    have before (served : Serving) (member : served ∈ p'.serving) : served ∈ p.serving :=
      List.mem_of_mem_eraseIdx (serving ▸ member)
    exact ⟨auth ▸ sound.auth, fun served member => sound.met served (before served member),
      fun served member guarded => auth ▸ sound.authorized served (before served member) guarded⟩
  | run id b =>
    obtain ⟨services, moved, rfl⟩ := Option.map_eq_some_iff.mp next
    exact ⟨sound.auth, sound.met, sound.authorized⟩

theorem sound_reachable (enabled : site.cfg.authEnabled = true)
    (reachable : (system site registry services).Reachable p) :
    Sound site p := by
  refine reachable.invariant (Sound site) ?_ fun _ _ _ sound next => sound.step enabled next
  rintro _ ⟨auth, reachable, rfl⟩
  exact ⟨reachable, fun _ member => absurd member List.not_mem_nil,
    fun _ member => absurd member List.not_mem_nil⟩

/-- What the managers look after: tunnels and routes, and the built-in services with their files. -/
def Kept (p p' : Panel) : Prop :=
  p'.registry = p.registry ∧ p'.services.services = p.services.services ∧
    p'.services.files = p.services.files

theorem run_kept {id : Nat} {b : Builtin.Bind}
    (next : p.step site (.run id b) = some p') : Kept p p' := by
  obtain ⟨m, moved, rfl⟩ := Option.map_eq_some_iff.mp next
  obtain ⟨i, _, _, rfl⟩ := Builtin.Locked.run_cases moved
  exact ⟨rfl, Builtin.Locked.ran_services i b, Builtin.Locked.ran_files i b⟩

/-- Every change of tunnels, routes and services is made by a handler behind `RequireAuth`, for a
request whose cookie was vouched for when it was let through. -/
theorem changes_authorized (enabled : site.cfg.authEnabled = true)
    (reachable : (system site registry services).Reachable p) (next : p.step site e = some p') :
    Kept p p' ∨ ∃ i env env' runs served c, e = .handle i env env' runs ∧
      p.serving[i]? = some served ∧ mux served.request.path = some served.pattern ∧
        served.pattern.guard = .RequireAuth ∧
      served.pattern.handler.command site.decoders served.request = .ok (some c) ∧
        Authorized site p.auth served := by
  have sound := sound_reachable enabled reachable
  cases e with
  | auth e =>
    rw [Panel.step] at next
    split_ifs at next
    obtain ⟨auth, _, rfl⟩ := Option.map_eq_some_iff.mp next
    exact Or.inl ⟨rfl, rfl, rfl⟩
  | request r now saved =>
    refine Or.inl ?_
    rcases request_cases next with rfl | ⟨pattern, met, ⟨_, rfl⟩ | ⟨_, rfl | ⟨_, rfl⟩⟩⟩ <;>
      exact ⟨rfl, rfl, rfl⟩
  | handle i env env' runs =>
    obtain ⟨served, there, _, _, ⟨same, same'⟩ | ⟨c, asks⟩⟩ := handle_cases next
    · exact Or.inl ⟨same, by rw [same'], by rw [same']⟩
    · have member := List.mem_of_getElem? there
      have met := sound.met served member
      have guard := mux_guarded met (Handler.command_commands site.decoders asks)
      exact Or.inr ⟨i, env, env', runs, served, c, rfl, there, met, guard, asks,
        sound.authorized served member (guard ▸ nofun)⟩
  | run id b => exact Or.inl (run_kept next)

/-- A process in which the only bodies are those of a tunnel. -/
def adminSite : PanelSite where
  lib := Site.firstLibrary
  cfg := Site.admin
  decoders := ⟨fun _ => .ok (Tun.Registry.tunnelOf "1" "web" "7001"), fun _ => .error "EOF",
    fun _ => .error "EOF", fun _ => .error "EOF"⟩
  tunnels := Tun.Registry.localSite
  builtin := ⟨"tunnel", fun _ => .ok [], fun _ => .error .eof⟩

def noTunnels : Tun.Registry := Tun.Registry.empty [] fun _ => none

def creates (cookie : Option String) : PanelEvent :=
  .request ⟨"/api/tunnel/create", cookie, [], .error "no form"⟩ 4611000000000 true

def creating : PanelEvent :=
  .handle 0 (Tun.Registry.calm [] [])
    ⟨fun _ => none, "1", "1", ⟨true, none⟩, ⟨true, none⟩, 1, "5b1e", []⟩ []

theorem changes_authorized_creating :
    ∃ p p' served, (system adminSite noTunnels Builtin.Locked.new).Reachable p ∧
    p.step adminSite creating = some p' ∧ (p.registry.manager.services "web").isSome = false ∧
    (p'.registry.manager.services "web").isSome ∧ served ∈ p.serving ∧
      Authorized adminSite p.auth served := by
  have played : ((Site.system Site.firstLibrary Site.admin).play (fun _ _ => true) Site.loginAndRestart
      (Site.empty.boot Site.admin 0 false Site.firstKey [] true true)).any (fun auth =>
        ((system adminSite noTunnels Builtin.Locked.new).play (fun _ _ => true) [creates (some "cookie")]
          ⟨auth, noTunnels, Builtin.Locked.new, []⟩).any fun p =>
            !(p.registry.manager.services "web").isSome &&
            (p.step adminSite creating).any fun p' => (p'.registry.manager.services "web").isSome) =
              true := by
    decide +kernel
  obtain ⟨auth, run, sees⟩ := System.Run.of_play
    (Site.starts_boot Site.firstLibrary Site.admin 0 false Site.firstKey [] true true) played
  obtain ⟨p, asked, sees⟩ := (Option.any_eq_true _ _).mp sees
  obtain ⟨without, sees⟩ := (Bool.and_eq_true _ _).mp sees
  obtain ⟨p', next, new⟩ := (Option.any_eq_true _ _).mp sees
  have begins : (system adminSite noTunnels Builtin.Locked.new).start
      ⟨auth, noTunnels, Builtin.Locked.new, []⟩ :=
    ⟨auth, ⟨_, run.mono fun _ _ _ => trivial⟩, rfl⟩
  have reachable := System.Reachable.of_play begins asked
  rw [Bool.not_eq_true'] at without
  rcases changes_authorized rfl reachable next with
    kept | ⟨i, _, _, _, served, _, _, there, _, _, _, authorized⟩
  · rw [kept.1] at new
    exact absurd (without.symm.trans new) nofun
  · exact ⟨p, p', served, reachable, next, without, new, List.mem_of_getElem? there, authorized⟩

theorem auth_grows (next : p.step site e = some p') : Site.Grows p.auth p'.auth := by
  cases e with
  | auth e =>
    rw [Panel.step] at next
    split_ifs at next
    obtain ⟨auth, moved, rfl⟩ := Option.map_eq_some_iff.mp next
    exact Site.grows moved
  | request r now saved =>
    obtain ⟨_, looked⟩ := @IsAuthenticated_step site p r now saved
    rcases request_cases next with rfl | ⟨pattern, met, ⟨_, rfl⟩ | ⟨_, rfl | ⟨_, rfl⟩⟩⟩
    · exact .refl _
    · exact .refl _
    · exact Site.grows looked
    · exact Site.grows looked
  | handle i env env' runs =>
    obtain ⟨served, _, auth, _⟩ := handle_cases next
    exact auth ▸ .refl _
  | run id b =>
    obtain ⟨m, _, rfl⟩ := Option.map_eq_some_iff.mp next
    exact .refl _

/-- As long as nobody has proved to know the password, nothing is changed. -/
theorem unproved_unchanged (enabled : site.cfg.authEnabled = true)
    (reachable : (system site registry services).Reachable p)
    (unproved : ∀ c ∈ p.auth.created, c.req.proves site.lib site.cfg = false) :
    p.registry = registry ∧ p.services.services = services.services ∧
      p.services.files = services.files := by
  obtain ⟨events, run⟩ := reachable
  induction run with
  | start begins =>
    obtain ⟨auth, _, rfl⟩ := begins
    exact ⟨rfl, rfl, rfl⟩
  | step before ok next ih =>
    have grows := auth_grows next
    obtain ⟨same, same', same''⟩ := ih fun c member => unproved c (grows.created c member)
    rcases changes_authorized enabled ⟨_, before⟩ next with
      kept | ⟨_, _, _, _, served, _, _, _, _, _, _, authorized⟩
    · exact ⟨kept.1.trans same, kept.2.1.trans same', kept.2.2.trans same''⟩
    · obtain ⟨cookie, t, _, _, _, _, c, member, _, proves⟩ := authorized
      exact absurd (proves.symm.trans (unproved c (grows.created c member))) nofun

theorem unproved_unchanged_creating :
    ∃ p, (system adminSite noTunnels Builtin.Locked.new).Reachable p ∧ p.serving.length = 0 ∧
    p.registry = noTunnels ∧ p.services.services = Builtin.Locked.new.services := by
  have begins : (system adminSite noTunnels Builtin.Locked.new).start
      ⟨Site.empty.boot Site.admin 0 false Site.firstKey [] true true, noTunnels,
        Builtin.Locked.new, []⟩ :=
    ⟨_, ⟨[], .start
      (Site.starts_boot Site.firstLibrary Site.admin 0 false Site.firstKey [] true true)⟩, rfl⟩
  have played : ((system adminSite noTunnels Builtin.Locked.new).play (fun _ _ => true)
    [creates none, creates (some "cookie")]
      ⟨Site.empty.boot Site.admin 0 false Site.firstKey [] true true, noTunnels, Builtin.Locked.new,
        []⟩).any (fun p =>
        decide (p.serving.length = 0 ∧ p.auth.created.length = 0)) = true := by
    decide +kernel
  obtain ⟨p, asked, sees⟩ := (Option.any_eq_true _ _).mp played
  obtain ⟨idle, nobody⟩ := of_decide_eq_true sees
  have reachable := System.Reachable.of_play begins asked
  obtain ⟨same, same', _⟩ := unproved_unchanged rfl reachable fun c member => by
    rw [List.length_eq_zero_iff.mp nobody] at member
    exact absurd member List.not_mem_nil
  exact ⟨p, reachable, idle, same, same'⟩

end Panel

end Gotun.Admin
