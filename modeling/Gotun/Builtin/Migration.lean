import Gotun.Builtin.Manager
import Gotun.Lib.Anchors
import Gotun.Tun.Creation

/-! `migrate.go`: the `build-in` block of an old `app.yaml` is turned into `.service` files and
taken out of it. -/

namespace Gotun.Builtin

open Gotun.Lib
open Gotun.Lib.Anchors (Node Value Document entries opened)
open Gotun.Tun (FileKind Files)

structure Socks5XServer where
  ListenPort : Int
  UDPTimout : Int
  TCPTimeout : Int
  deriving DecidableEq, Repr

structure legacyBuiltIn where
  Enable : Bool
  EchoListen : String
  HttpProxyListen : String
  Socks5XServer : Socks5XServer
  deriving DecidableEq, Repr

/-! `gopkg.in/yaml.v3`. -/

/-- What is read, what is decoded into the field `build-in`, and what is written. -/
structure Yaml where
  parse : Bytes → Except Err Document
  buildIn : Document → Except Err (Option legacyBuiltIn)
  marshal : Document → Except Err Bytes

def withoutBuildIn (pairs : List (Node × Node)) : List (Node × Node) :=
  pairs.filter fun pair => pair.1.text ≠ "build-in"

/-- Without the block the aliases of the other keys stand for what they stood for. -/
def Detached (anchor : Option String) (pairs : List (Node × Node)) : Prop :=
  entries (opened anchor) (withoutBuildIn pairs) =
    (entries (opened anchor) pairs).filter fun entry => entry.1 ≠ "build-in"

/-- As where none of them has the name of a node of the block. -/
theorem detached_of_unused {anchor : Option String} {pairs : List (Node × Node)}
    (unused : ∀ block ∈ pairs, block.1.text = "build-in" →
      ∀ other ∈ pairs, other.1.text ≠ "build-in" → ∀ name ∈ block.1.anchors ++ block.2.anchors,
      name ∉ other.1.aliases ++ other.2.aliases) : Detached anchor pairs := by
  refine Anchors.entries_filter (fun text => decide (text ≠ "build-in")) ?_ fun _ _ _ _ _ => rfl
  intro block member dropped other member' kept
  exact unused block member (by simpa using dropped) other member' (of_decide_eq_true kept)

section yaml

variable (yaml : Yaml)

/-- Aliases are written by name. What is left of a document that was read reads the same when it is
written, where each alias in it still stands for a node, and cannot be read otherwise. -/
structure Yaml.Faithful : Prop where
  resolved : ∀ data doc, yaml.parse data = .ok doc → doc.Resolved
  reads : ∀ data anchor tag pairs rest out, yaml.parse data = .ok (.mapping anchor tag pairs) →
    rest.Sublist pairs →
    (Document.mapping anchor tag rest).Resolved → yaml.marshal (.mapping anchor tag rest) = .ok out →
    yaml.parse out = .ok (.mapping anchor tag rest)
  dangling : ∀ data anchor tag pairs rest out, yaml.parse data = .ok (.mapping anchor tag pairs) →
    rest.Sublist pairs →
    ¬ (Document.mapping anchor tag rest).Resolved → yaml.marshal (.mapping anchor tag rest) = .ok out →
    ∃ e, yaml.parse out = .error e

/-- The keys of a file that can be read, other than `build-in`, with their values. -/
def others (app : Option Bytes) : Option (List (String × Value × Value)) :=
  app.bind fun data => (yaml.parse data).toOption.map fun doc => doc.entries.filter fun entry =>
    entry.1 ≠ "build-in"

/-- The block of a file. -/
def described (app : Option Bytes) : Option legacyBuiltIn :=
  app.bind fun data => (yaml.parse data >>= yaml.buildIn).toOption.join

end yaml

/-! The migration. -/

/-- `os.WriteFile`, which empties the file before it writes. -/
inductive Saving where
  | done
  | refused (text : String)
  | cut (n : Nat) (text : String)
  deriving DecidableEq, Repr

/-- What the migration meets: the error of reading `app.yaml`, those of looking for the files, what
the making of each file meets, and what becomes of `app.yaml`. -/
structure Meets where
  read : Option String
  stat : String → Option String
  create : String → Env
  write : Saving

/-- The content of `app.yaml`, and the manager. -/
structure Startup where
  app : Option Bytes
  manager : Manager

def serviceFile (dir name : String) : String := dir ++ "/" ++ name ++ SERVICE_CONFIG_SUFFIX

def buildInToServiceConfigs (block : legacyBuiltIn) : List Config :=
  (if block.EchoListen ≠ "" then
    [⟨"", "echo", "echo", false, 0, block.EchoListen, 0, 0, 0, "", ""⟩] else []) ++
  (if block.HttpProxyListen ≠ "" then
    [⟨"", "http_proxy", "http_proxy", false, 0, block.HttpProxyListen, 0, 0, 0, "", ""⟩]
    else []) ++
  (if 0 < block.Socks5XServer.ListenPort then
    [⟨"", "socks5x", "socks5x_server", false, 0, "", block.Socks5XServer.ListenPort,
      block.Socks5XServer.TCPTimeout,
      block.Socks5XServer.UDPTimout, "", ""⟩]
    else [])

section migration

variable (yaml : Yaml) (site : Site) (meets : Meets)

def ServiceExistFile (fault : Option String) (name : String) (m : Manager) : Bool :=
  fault.isNone && (m.files (serviceFile site.dir name)).isSome

/-- An error is logged, and nothing else. -/
def migrateService (cfg : Config) : Action Manager Unit :=
  Action.choose fun m =>
    if ServiceExistFile site (meets.stat cfg.Name) cfg.Name m then pure ()
    else (Manager.CreateFileOnly site (meets.create cfg.Name) cfg).handle fun _ => pure ()

def migrateServices : List Config → Action Manager Unit
  | [] => pure ()
  | cfg :: rest => do
    migrateService site meets cfg
    migrateServices rest

def writeFile (out : Bytes) : Action (Option Bytes) Unit := fun app =>
  match meets.write with
  | .done => (.ok (), some out)
  | .refused text => (.error (.failed text), app)
  | .cut n text => (.error (.failed text), some (out.take n))

def removeBuildInKey (data : Bytes) : Action (Option Bytes) Unit :=
  match yaml.parse data with
  | .error e => Action.fail e
  | .ok .empty | .ok (.other _) => pure ()
  | .ok (.mapping anchor tag pairs) => do
    let out ← Action.lift (yaml.marshal (.mapping anchor tag (withoutBuildIn pairs)))
    writeFile meets out

/-- An `app.yaml` that does not exist has nothing to migrate. -/
def migrateBuildInConfig : Action Startup Unit := fun s =>
  match meets.read, s.app with
  | some text, _ => (.error (.failed text), s)
  | none, none => (.ok (), s)
  | none, some data =>
    match yaml.parse data >>= yaml.buildIn with
    | .error e => (.error e, s)
    | .ok none => (.ok (), s)
    | .ok (some block) =>
      let manager := if block.Enable then
        (migrateServices site meets (buildInToServiceConfigs block) s.manager).2 else s.manager
      let removed := removeBuildInKey yaml meets data s.app
      (removed.1, ⟨removed.2, manager⟩)

end migration

/-! The files that are made. -/

theorem names_of_block (block : legacyBuiltIn) :
    ((buildInToServiceConfigs block).map Config.Name).Sublist ["echo", "http_proxy", "socks5x"] := by
  unfold buildInToServiceConfigs
  split_ifs <;> simp

theorem block_distinct (block : legacyBuiltIn) :
    ((buildInToServiceConfigs block).map Config.Name).Nodup :=
  (names_of_block block).nodup (by decide)

theorem block_plain {block : legacyBuiltIn} {cfg : Config}
    (member : cfg ∈ buildInToServiceConfigs block) :
    '/' ∉ cfg.Name.toList := by
  have named := (names_of_block block).subset (List.mem_map_of_mem member)
  have all : ∀ name ∈ ["echo", "http_proxy", "socks5x"], '/' ∉ name.toList := by decide
  exact all cfg.Name named

section files

variable {site : Site} {meets : Meets} {m m' : Manager} {cfg : Config}

theorem serviceFile_inj {name other : String}
    (same : serviceFile site.dir name = serviceFile site.dir other) : name = other :=
  FileKind.file_inj (K := site.serviceFiles) (p := ⟨site.dir, "", ""⟩) same

/-- The file of a configuration is there, or it is made. -/
def Written (site : Site) (meets : Meets) (m : Manager) (cfg : Config) : Prop :=
  (m.files (serviceFile site.dir cfg.Name)).isSome ∨
    (m.services cfg.Name = none ∧ site.serviceFiles.Creates (place site (meets.create cfg.Name))
      (meets.create cfg.Name).faults m.files (Manager.normalizeConfig (meets.create cfg.Name) cfg))

theorem Written.congr (services : m'.services = m.services)
    (same : m'.files (serviceFile site.dir cfg.Name) = m.files (serviceFile site.dir cfg.Name)) :
    Written site meets m' cfg ↔ Written site meets m cfg := by
  have creates : ∀ {files files' : Files}, files' (serviceFile site.dir cfg.Name) =
    files (serviceFile site.dir cfg.Name) →
      site.serviceFiles.Creates (place site (meets.create cfg.Name)) (meets.create cfg.Name).faults files
        (Manager.normalizeConfig (meets.create cfg.Name) cfg) →
      site.serviceFiles.Creates (place site (meets.create cfg.Name))
        (meets.create cfg.Name).faults files'
        (Manager.normalizeConfig (meets.create cfg.Name) cfg) := by
    intro files files' same made
    have absent := made.starts.absent
    have starts := made.starts
    refine ⟨⟨starts.mkdir, starts.mkdirStage, ?_, starts.data, starts.plain, starts.createTemp⟩,
      made.write, made.closeTemp, made.renameNew⟩
    rintro ⟨stat, there⟩
    refine absent ⟨stat, ?_⟩
    exact same ▸ there
  unfold Written
  rw [services, same]
  exact or_congr_right (and_congr_right fun _ => ⟨creates same.symm, creates same⟩)

theorem createFileOnly_registered (env : Env) (registered : (m.services cfg.Name).isSome) :
    (Manager.CreateFileOnly site env cfg m).2 = m := by
  unfold Manager.CreateFileOnly
  rw [Action.choose_apply]
  split_ifs with found
  · rfl
  · exact absurd registered found

theorem createFileOnly_free (env : Env) (free : m.services cfg.Name = none) :
    (Manager.CreateFileOnly site env cfg m).2 = { m with
      files := ((site.serviceFiles.createFile (place site env) env.faults
        (Manager.normalizeConfig env cfg)).exec m.files).2 } := by
  unfold Manager.CreateFileOnly
  rw [Action.choose_apply]
  split_ifs with found
  · change (m.services cfg.Name).isSome at found
    rw [free] at found
    cases found
  · rfl

/-- An error of the making of a file is dropped. -/
theorem migrateService_eq (site : Site) (meets : Meets) (cfg : Config) (m : Manager) :
    migrateService site meets cfg m =
    (.ok (), if ServiceExistFile site (meets.stat cfg.Name) cfg.Name m then m
      else (Manager.CreateFileOnly site (meets.create cfg.Name) cfg m).2) := by
  unfold migrateService
  rw [Action.choose_apply]
  split_ifs
  · rfl
  · rcases ran : Manager.CreateFileOnly site (meets.create cfg.Name) cfg m with ⟨e | ⟨⟩, m'⟩
    · exact Action.handle_error _ ran
    · exact Action.handle_ok _ ran

/-- One configuration: its file, and no other. -/
theorem migrateService_files (site : Site) (meets : Meets) (cfg : Config) (m : Manager) :
    ∃ m', migrateService site meets cfg m = (.ok (), m') ∧ m'.services = m.services ∧
      (∀ name, name ≠ cfg.Name → m'.files (serviceFile site.dir name) =
        m.files (serviceFile site.dir name)) ∧
      ((m'.files (serviceFile site.dir cfg.Name)).isSome ↔ Written site meets m cfg) := by
  refine ⟨_, migrateService_eq site meets cfg m, ?_⟩
  split_ifs with found
  · refine ⟨rfl, fun _ _ => rfl, ?_⟩
    have there := (Bool.and_eq_true_iff.mp found).2
    exact iff_of_true there (.inl there)
  cases registered : m.services cfg.Name with
  | some i =>
    rw [createFileOnly_registered _ (by rw [registered]; rfl)]
    refine ⟨rfl, fun _ _ => rfl, .inl, fun written => written.elim id fun made => ?_⟩
    rw [registered] at made
    cases made.1
  | none =>
    rw [createFileOnly_free _ registered]
    have same : ∀ name, site.serviceFiles.file (place site (meets.create cfg.Name)) name =
        serviceFile site.dir name :=
      fun _ => rfl
    refine ⟨rfl, ?_⟩
    rcases FileKind.createFile_files (place site (meets.create cfg.Name))
      (meets.create cfg.Name).faults m.files
        (serviceFiles_regular site) (Manager.normalizeConfig (meets.create cfg.Name) cfg) with
      ⟨creates, data, wrote⟩ | ⟨fails, kept⟩
    · refine ⟨fun name differ => ?_, ?_⟩
      · exact (wrote name).trans (Files.write_of_ne _ _ fun equal => differ (serviceFile_inj equal))
      · refine iff_of_true ?_ (.inr ⟨registered, creates⟩)
        have own := (wrote cfg.Name).trans (Files.write_self _ data)
        exact Option.isSome_iff_exists.mpr ⟨data, own⟩
    · refine ⟨fun name _ => kept name, ?_⟩
      have own := kept cfg.Name
      rw [same] at own
      dsimp only
      rw [own]
      exact ⟨.inl, fun written => written.elim id fun made => absurd made.2 fails⟩

theorem migrateServices_files (site : Site) (meets : Meets) {cfgs : List Config}
    (distinct : (cfgs.map Config.Name).Nodup) (m : Manager) :
    ∃ m', migrateServices site meets cfgs m = (.ok (), m') ∧ m'.services = m.services ∧
      (∀ name, name ∉ cfgs.map Config.Name →
        m'.files (serviceFile site.dir name) = m.files (serviceFile site.dir name)) ∧
      ∀ cfg ∈ cfgs, (m'.files (serviceFile site.dir cfg.Name)).isSome ↔ Written site meets m cfg := by
  induction cfgs generalizing m with
  | nil => exact ⟨m, rfl, rfl, fun _ _ => rfl, fun _ member => absurd member List.not_mem_nil⟩
  | cons cfg rest ih =>
    obtain ⟨alone, distinct⟩ := List.nodup_cons.mp distinct
    obtain ⟨m₁, first, services₁, others₁, own⟩ := migrateService_files site meets cfg m
    obtain ⟨m', ran, services, others, each⟩ := ih distinct m₁
    refine ⟨m', ?_, services.trans services₁, ?_, ?_⟩
    · rw [migrateServices, Action.bind_ok _ first]
      exact ran
    · intro name outside
      have differ : name ≠ cfg.Name := fun same => outside (same ▸ List.mem_cons_self)
      rw [others name fun later => outside (List.mem_cons_of_mem _ later), others₁ name differ]
    · intro other member
      rcases List.mem_cons.mp member with rfl | later
      · rw [others _ alone]
        exact own
      · have differ : other.Name ≠ cfg.Name := fun same => alone (same ▸ List.mem_map_of_mem later)
        rw [each other later]
        exact Written.congr services₁ (others₁ _ differ)

/-- Nothing is done for a configuration that has a file, or is registered without one. -/
theorem migrateServices_idle {cfgs : List Config} (seen : ∀ name, meets.stat name = none)
    (idle : ∀ cfg ∈ cfgs, (m.files (serviceFile site.dir cfg.Name)).isSome ∨
      (m.services cfg.Name).isSome) :
    migrateServices site meets cfgs m = (.ok (), m) := by
  induction cfgs with
  | nil => rfl
  | cons cfg rest ih =>
    obtain ⟨here, later⟩ := List.forall_mem_cons.mp idle
    have first : migrateService site meets cfg m = (.ok (), m) := by
      rw [migrateService_eq]
      split_ifs with found
      · rfl
      · rcases here with there | registered
        · refine absurd ?_ found
          rw [ServiceExistFile, seen, there]
          rfl
        · rw [createFileOnly_registered _ registered]
    rw [migrateServices, Action.bind_ok _ first]
    exact ih later

/-- Nothing fails. -/
structure Meets.Calm (meets : Meets) : Prop where
  read : meets.read = none
  stat : ∀ name, meets.stat name = none
  create : ∀ name op, (meets.create name).faults op = none
  write : meets.write = .done

/-- `json.Marshal` makes a text of each configuration of a block. -/
def Encodes (site : Site) (meets : Meets) (block : legacyBuiltIn) : Prop :=
  ∀ cfg ∈ buildInToServiceConfigs block,
    ∃ data, site.marshal (Manager.normalizeConfig (meets.create cfg.Name) cfg) = .ok data

/-- A configuration of the block that is not registered gets its file. -/
theorem written_of_calm {block : legacyBuiltIn} (encodes : Encodes site meets block)
    (calm : meets.Calm) (member : cfg ∈ buildInToServiceConfigs block)
    (free : m.services cfg.Name = none) : Written site meets m cfg := by
  by_cases there : (m.files (serviceFile site.dir cfg.Name)).isSome
  · exact .inl there
  · have fine := calm.create cfg.Name
    have plain := block_plain member
    refine .inr ⟨free, ⟨⟨fine _, fine _, fun found => there found.2, encodes cfg member, plain,
      fine _⟩, fine _, fine _, fine _⟩⟩

end files

end Gotun.Builtin
