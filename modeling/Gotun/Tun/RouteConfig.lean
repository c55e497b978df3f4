import Gotun.Tun.Manager

/-! `tun/route_config.go`, `tun/route_quality_config.go` and `validateRouteLocked` of `tun/manager.go`:
what a route has to satisfy, by itself and beside the tunnels and the other routes. -/

namespace Gotun.Tun

open Gotun.Lib

namespace Route

def RouteModeOutput : String := "output"
def RouteModeInput : String := "input"
def RouteProbeFullPath : String := "full_path"
def RouteProbeLegacyFrame : String := "legacy_frame"

structure RouteQualityConfig where
  DownloadURL : String
  ConnectivityURL : String
  DownloadStatus : Int
  ConnectivityStatus : Int
  DownloadBytes : Int
  IntervalSec : Int
  TimeoutMS : Int
  NormalMS : Int
  deriving DecidableEq, Repr

structure RouteConfig where
  UUID : String
  Name : String
  Disabled : Bool
  Mode : String
  Listen : String
  InProtoCfg : String
  Members : List String
  Policy : String
  Quality : RouteQualityConfig
  ProbeMode : String
  /-- Not part of the file. -/
  ProbeWarnings : List String
  /-- Nanoseconds since the zero time. -/
  CreatedAt : Int
  deriving DecidableEq, Repr

structure InProtoSocks5X where
  UserName : String
  Password : String
  TCPTimeout : Int
  UDPAdvertisedIP : String
  UDPAdvertisedPort : Int
  deriving DecidableEq, Repr

/-- The parts of a parsed URL that are looked at. -/
structure URL where
  Scheme : String
  Hostname : String
  User : Bool
  Fragment : String
  Port : String

/-- `url.Parse`, `net.LookupPort`, `net.SplitHostPort` and the parsing of JSON. -/
structure Libraries where
  parseURL : String → Option URL
  lookupPort : String → Bool
  splitHostPort : String → Except Err (String × String)
  frameHeaderEnable : String → Bool
  socks5x : String → Except Err InProtoSocks5X

def isSpace (c : Char) : Bool :=
  c ∈ ['\t', '\n', '\x0b', '\x0c', '\r', ' ', '\u0085', '\u00a0', '\u1680', '\u2028', '\u2029',
    '\u202f', '\u205f', '\u3000'] ∨
    0x2000 ≤ c.toNat ∧ c.toNat ≤ 0x200a

/-- `strings.TrimSpace` leaves nothing. -/
def blank (s : String) : Bool := s.toList.all isSpace

section basic

variable (lib : Libraries)

def orDefault [DecidableEq α] (zero default : α) (a : α) : α := if a = zero then default else a

def RouteQualityConfig.normalize (c : RouteQualityConfig) : RouteQualityConfig where
  DownloadURL := orDefault "" "https://speed.cloudflare.com/__down?bytes=16384" c.DownloadURL
  ConnectivityURL := orDefault "" "https://www.gstatic.com/generate_204" c.ConnectivityURL
  DownloadStatus := orDefault 0 200 c.DownloadStatus
  ConnectivityStatus := orDefault 0 204 c.ConnectivityStatus
  DownloadBytes := orDefault 0 16384 c.DownloadBytes
  IntervalSec := orDefault 0 30 c.IntervalSec
  TimeoutMS := orDefault 0 5000 c.TimeoutMS
  NormalMS := orDefault 0 2000 c.NormalMS

def validateTarget (target : String) : Except Err Unit :=
  match lib.parseURL target with
  | none => .error (.failed "探测目标必须是有效的 HTTPS URL，不能包含账号或片段")
  | some u =>
    if u.Scheme ≠ "https" ∨ u.Hostname = "" ∨ u.User ∨ u.Fragment ≠ "" then
      .error (.failed "探测目标必须是有效的 HTTPS URL，不能包含账号或片段")
    else if u.Port ≠ "" ∧ ¬ lib.lookupPort u.Port then .error (.failed "探测目标端口无效")
    else .ok ()

def RouteQualityConfig.validate (c : RouteQualityConfig) : Except Err Unit := do
  validateTarget lib c.DownloadURL
  validateTarget lib c.ConnectivityURL
  if c.DownloadStatus < 200 ∨ 299 < c.DownloadStatus ∨
      c.ConnectivityStatus < 200 ∨ 299 < c.ConnectivityStatus then
    throw (.failed "探测预期状态码必须在 200 到 299 之间")
  if c.DownloadBytes < 1 ∨ 1024 * 1024 < c.DownloadBytes then
    throw (.failed "探测下载字节数必须在 1 到 1048576 之间")
  if c.IntervalSec < 10 ∨ 3600 < c.IntervalSec then
    throw (.failed "探测间隔必须在 10 到 3600 秒之间")
  if c.TimeoutMS < 100 ∨ 30000 < c.TimeoutMS ∨ c.NormalMS < 1 ∨ c.TimeoutMS < c.NormalMS then
    throw (.failed "总超时必须在 100 到 30000 毫秒之间，正常时间必须大于零且不超过总超时")

def RouteConfig.usesFullPathProbe (r : RouteConfig) : Bool :=
  r.Mode = RouteModeInput ∧ r.ProbeMode = RouteProbeFullPath

/-- The defaults of the policy and the modes, before that of the probes. -/
def RouteConfig.withModes (r : RouteConfig) : RouteConfig :=
  let r := { r with
    Policy := orDefault "" "priority" r.Policy, Mode := orDefault "" RouteModeOutput r.Mode }
  if r.Mode = RouteModeInput ∧ r.ProbeMode = "" then { r with ProbeMode := RouteProbeFullPath } else r

def RouteConfig.normalize (r : RouteConfig) : RouteConfig :=
  let r := r.withModes
  if r.usesFullPathProbe then { r with Quality := r.Quality.normalize } else r

/-- The loop over the members; `seen` are those before. -/
def checkMembers (fullPath : Bool) : List String → List String → Except Err Unit
  | _, [] => .ok ()
  | seen, m :: rest =>
    if blank m then .error (.failed "member 名称不能为空")
    else if fullPath ∧ m ∈ seen then .error (.failed ("完整链路探测的 member 不能重复:" ++ m))
    else checkMembers fullPath (m :: seen) rest

def checkListen (mode listen : String) : Except Err Unit :=
  if mode = RouteModeOutput then
    match parseProtocol listen with
    | .ok _ => .ok ()
    | .error e => .error (.failed ("出口模式监听地址需带协议(如 tcp@0.0.0.0:1000):" ++ Manager.errorText e))
  else if '@' ∈ listen.toList then
    .error (.failed "入口模式监听地址为裸 host:port，不要带协议(如 0.0.0.0:1000)")
  else match lib.splitHostPort listen with
    | .ok _ => .ok ()
    | .error e => .error (.failed ("入口模式监听地址需为 host:port:" ++ Manager.errorText e))

/-- What is checked of the modes and the policy. -/
def RouteConfig.checkModes (r : RouteConfig) : Except Err Unit := do
  if blank r.Name then throw (.failed "名称不能为空")
  if r.Mode ≠ RouteModeOutput ∧ r.Mode ≠ RouteModeInput then
    throw (.failed ("未知模式:" ++ r.Mode ++ "（仅支持 output|input）"))
  if r.Policy ≠ "priority" ∧ r.Policy ≠ "quality" then
    throw (.failed ("未知策略:" ++ r.Policy ++ "（仅支持 priority|quality）"))
  if r.Policy = "quality" ∧ r.Mode ≠ RouteModeInput then throw (.failed "质量策略仅支持智能路由入口模式")
  if r.Policy = "quality" ∧ ¬ r.usesFullPathProbe then throw (.failed "质量策略必须使用完整链路探测")
  if r.ProbeMode ≠ "" ∧ ¬ r.usesFullPathProbe ∧
      ¬ (r.Mode = RouteModeInput ∧ r.Policy = "priority" ∧ r.ProbeMode = RouteProbeLegacyFrame) then
    throw (.failed "探测模式无效")

/-- The checks, of a configuration that has its defaults. -/
def RouteConfig.check (r : RouteConfig) : Except Err Unit := do
  r.checkModes
  if r.usesFullPathProbe then r.Quality.validate lib
  if r.Members = [] then throw (.failed "member 不能为空")
  checkMembers r.usesFullPathProbe [] r.Members
  checkListen lib r.Mode r.Listen

/-- The configuration with its defaults, if it passes. -/
def RouteConfig.validateBasic (r : RouteConfig) : Except Err RouteConfig := do
  let r := r.normalize
  r.check lib
  pure r

/-- `net.JoinHostPort`. -/
def joinHostPort (host port : String) : String :=
  if ':' ∈ host.toList then "[" ++ host ++ "]:" ++ port else host ++ ":" ++ port

def routeQualityProxy (cfg : Config) : Except Err (String × InProtoSocks5X) := do
  let addr ← match parseProtocol cfg.Input with
    | .ok (.Socks5X, addr) => Except.ok addr
    | _ => Except.error (.failed "完整链路探测要求 member 的 input 为 socks5x")
  if cfg.InDecryptMode ≠ "" ∧ cfg.InDecryptMode ≠ "none" then
    throw (.failed "完整链路探测要求 member 的 input 不加密")
  if lib.frameHeaderEnable cfg.InExtend then
    throw (.failed "完整链路探测要求 member 的 input 不启用帧头")
  let (host, port) ← lib.splitHostPort addr
  let host := if host = "" ∨ host = "0.0.0.0" then "127.0.0.1" else if host = "::" then "::1" else host
  let auth ←
    if blank cfg.InProtoCfg then Except.ok ⟨"", "", 0, "", 0⟩
    else match lib.socks5x cfg.InProtoCfg with
      | .ok auth => Except.ok auth
      | .error e => Except.error (.failed ("SOCKS5 认证配置无效: " ++ Manager.errorText e))
  pure (joinHostPort host port, auth)

def Protocol.String : Protocol → String
  | .TCP => "tcp"
  | .TcpMux => "tcp_mux"
  | .QUIC => "quic"
  | .KCP => "kcp"
  | .KcpMux => "kcp_mux"
  | .KCPX => "kcpx"
  | .KCPXMux => "kcpx_mux"
  | .UDP => "udp"
  | .Socks5X => "socks5x"

def memberInputProto (cfg : Config) : Except Err Protocol := (parseProtocol cfg.Input).map (·.1)

/-- The members exist, and their inputs can be probed; the warnings are why they cannot, where that
is allowed. -/
def checkRouteMembers (services : String → Option Config) (r : RouteConfig) :
    List String → List String → List String → Except Err (List String)
  | _, warnings, [] => .ok warnings
  | seen, warnings, member :: rest =>
    match services member with
    | none => .error (.failed ("member 不存在:" ++ member))
    | some cfg =>
      if r.Mode ≠ RouteModeInput then checkRouteMembers services r seen warnings rest
      else
        let repeated := r.ProbeMode = RouteProbeLegacyFrame ∧ member ∈ seen
        let warnings := if repeated then warnings ++ [member ++ "：完整链路探测不支持重复成员"] else warnings
        match routeQualityProxy lib cfg with
        | .ok _ => checkRouteMembers services r (member :: seen) warnings rest
        | .error e =>
          if r.usesFullPathProbe then .error
            (.failed ("member " ++ member ++ ": " ++ Manager.errorText e))
          else checkRouteMembers services r (member :: seen)
            (warnings ++ [member ++ "：" ++ Manager.errorText e]) rest

/-- `want` is the protocol of the first member. The members are known to exist. -/
def checkProtocols (services : String → Option Config) : Option Protocol → List String → Except Err Unit
  | _, [] => .ok ()
  | want, member :: rest =>
    match (services member).elim (.error (.failed "")) memberInputProto with
    | .error e => .error (.failed ("member " ++ member ++ " 的 input 无法解析:" ++ Manager.errorText e))
    | .ok p => match want with
      | none => checkProtocols services (some p) rest
      | some first =>
        if p ≠ first then
          .error (.failed ("入口模式要求所有 member 的 input 协议一致:" ++ member ++ " 为 " ++ Protocol.String p ++
            "，与首个 member 的 " ++ Protocol.String first ++ " 不一致"))
        else checkProtocols services want rest

/-- A route other than the excluded ones that listens on the address, in the order of the map. -/
def listenTaken (routes : String → Option RouteConfig) (order : List String)
    (excludeUUID listen : String) :
    Option String :=
  order.find? fun name => (routes name).any fun r => r.UUID ≠ excludeUUID ∧ r.Listen = listen

def validateRouteLocked (services : String → Option Config) (routes : String → Option RouteConfig)
    (order : List String) (cfg : RouteConfig) (excludeUUID : String) : Except Err RouteConfig := do
  let cfg ← cfg.validateBasic lib
  if (routes cfg.Name).any fun r => r.UUID ≠ excludeUUID then
    throw (.failed "name already exist（已存在同名智能路由）")
  if (services cfg.Name).isSome then throw (.failed "name already exist（已存在同名 tunnel，避免混淆请改名）")
  let warnings ← checkRouteMembers lib services cfg [] [] cfg.Members
  if cfg.Mode = RouteModeInput then checkProtocols services none cfg.Members
  match listenTaken routes order excludeUUID cfg.Listen with
  | some name => throw (.failed ("监听地址已被智能路由 " ++ name ++ " 占用:" ++ cfg.Listen))
  | none => pure { cfg with ProbeWarnings := warnings }

end basic

/-! The defaults. -/

theorem orDefault_orDefault [DecidableEq α] (zero default a : α) :
    orDefault zero default (orDefault zero default a) = orDefault zero default a := by
  unfold orDefault
  split_ifs <;> simp_all

theorem RouteQualityConfig.normalize_normalize (c : RouteQualityConfig) :
    c.normalize.normalize = c.normalize := by
  simp only [RouteQualityConfig.normalize, orDefault_orDefault]

theorem RouteConfig.withModes_withModes (r : RouteConfig) : r.withModes.withModes = r.withModes := by
  have input : orDefault "" RouteModeOutput RouteModeInput = RouteModeInput := by decide
  simp only [RouteConfig.withModes]
  split_ifs <;> simp_all [orDefault_orDefault, RouteProbeFullPath]

theorem RouteConfig.withModes_quality (r : RouteConfig) (quality : RouteQualityConfig) :
    ({ r with Quality := quality } : RouteConfig).withModes =
      { r.withModes with Quality := quality } := by
  simp only [RouteConfig.withModes]
  split_ifs <;> rfl

theorem RouteConfig.normalize_normalize (r : RouteConfig) : r.normalize.normalize = r.normalize := by
  by_cases full : r.withModes.usesFullPathProbe = true
  · have once : r.normalize = { r.withModes with Quality := r.withModes.Quality.normalize } :=
      if_pos full
    have modes : r.normalize.withModes = r.normalize := by
      rw [once, RouteConfig.withModes_quality, RouteConfig.withModes_withModes]
    have again : r.normalize.withModes.usesFullPathProbe = true := by
      rw [modes, once]
      exact full
    rw [RouteConfig.normalize, if_pos again, modes, once, RouteQualityConfig.normalize_normalize]
  · have once : r.normalize = r.withModes := if_neg full
    rw [once, RouteConfig.normalize, RouteConfig.withModes_withModes, if_neg full]

variable {lib : Libraries} {r r' : RouteConfig}

theorem RouteConfig.of_validateBasic (ok : r.validateBasic lib = .ok r') :
    r' = r.normalize ∧ r'.check lib = .ok () := by
  simp only [RouteConfig.validateBasic] at ok
  rcases checked : r.normalize.check lib with e | ⟨⟩
  · rw [checked] at ok
    contradiction
  · rw [checked] at ok
    cases ok
    exact ⟨rfl, checked⟩

/-- A configuration that has passed passes again, as it is. -/
theorem RouteConfig.validateBasic_again (ok : r.validateBasic lib = .ok r') :
    r'.validateBasic lib = .ok r' := by
  obtain ⟨rfl, checked⟩ := RouteConfig.of_validateBasic ok
  simp only [RouteConfig.validateBasic, RouteConfig.normalize_normalize, checked]
  rfl

/-- The checks of the members leave none that is blank, and of a full path none that is there twice. -/
theorem checkMembers_ok {fullPath : Bool} {seen members : List String}
    (ok : checkMembers fullPath seen members = .ok ()) :
    (∀ m ∈ members, blank m = false) ∧ (fullPath = true → members.Nodup ∧ ∀ m ∈ members, m ∉ seen) := by
  induction members generalizing seen with
  | nil => simp
  | cons m rest ih =>
    rw [checkMembers] at ok
    split_ifs at ok with isBlank repeated
    obtain ⟨named, distinct⟩ := ih ok
    refine ⟨List.forall_mem_cons.mpr ⟨by simpa using isBlank, named⟩, ?_⟩
    intro full
    obtain ⟨nodup, unseen⟩ := distinct full
    refine ⟨List.nodup_cons.mpr ⟨fun member => unseen m member List.mem_cons_self, nodup⟩, ?_⟩
    refine List.forall_mem_cons.mpr ⟨fun member => repeated ⟨full, member⟩, ?_⟩
    intro other member before
    exact unseen other member (List.mem_cons_of_mem m before)

end Route

end Gotun.Tun
