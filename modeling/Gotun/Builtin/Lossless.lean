import Gotun.Builtin.Migration

/-! What the migration of `migrate.go` keeps of the services and of `app.yaml`. -/

namespace Gotun.Builtin

open Gotun.Lib
open Gotun.Lib.Anchors (Node Value Document entries opened)
open Gotun.Tun (FileFaults)

section lossless

variable (yaml : Yaml) (site : Site) (meets : Meets) (s : Startup) (block : legacyBuiltIn)

def migrated : Startup := (migrateBuildInConfig yaml site meets s).2

/-- No service of the block is lost, the other keys are as they were, and where nothing fails a
second migration changes nothing. -/
structure Lossless : Prop where
  services : ∀ cfg ∈ buildInToServiceConfigs block,
    ((migrated yaml site meets s).manager.files (serviceFile site.dir cfg.Name)).isSome ∨
      described yaml (migrated yaml site meets s).app = some block
  keys : others yaml (migrated yaml site meets s).app = others yaml s.app
  settled : meets.Calm → ∀ again : Meets, again.Calm →
    (migrated yaml site again (migrated yaml site meets s)).app = (migrated yaml site meets s).app ∧
    (migrated yaml site again (migrated yaml site meets s)).manager.files =
      (migrated yaml site meets s).manager.files

/-- Every service of the block has a file, or gets one. -/
def AllWritten : Prop := ∀ cfg ∈ buildInToServiceConfigs block, Written site meets s.manager cfg

/-- What is left of the document describes services by other means than the key, as a merge key
does: they are those of the block, or registered, or have their files. -/
def NoFurther (rest : Document) : Prop :=
  ∀ other, yaml.buildIn rest = .ok (some other) → other.Enable = true →
    ∀ cfg ∈ buildInToServiceConfigs other,
    (s.manager.files (serviceFile site.dir cfg.Name)).isSome ∨ (s.manager.services cfg.Name).isSome ∨
      cfg.Name ∈ (buildInToServiceConfigs block).map Config.Name

/-- What the write of `app.yaml` asks for: it is refused, or the whole text is written. -/
def Preserves (anchor : Option String) (tag : String) (pairs : List (Node × Node)) : Saving → Prop
  | .refused _ => True
  | .done => Detached anchor pairs ∧
      (AllWritten site meets s block ∨ yaml.buildIn (.mapping anchor tag (withoutBuildIn pairs)) =
        .ok (some block)) ∧
      (meets.Calm → NoFurther yaml site s block (.mapping anchor tag (withoutBuildIn pairs)))
  | .cut _ _ => False

/-- If `app.yaml` is written again at all. -/
def Keeps (data : Bytes) : Prop :=
  ∀ anchor tag pairs out, meets.read = none → yaml.parse data = .ok (.mapping anchor tag pairs) →
    yaml.marshal (.mapping anchor tag (withoutBuildIn pairs)) = .ok out →
    Preserves yaml site meets s block anchor tag pairs meets.write

section runs

variable {yaml site meets s block} {data out : Bytes} {anchor : Option String} {tag : String}
  {pairs : List (Node × Node)}

theorem without_idem (pairs : List (Node × Node)) :
    withoutBuildIn (withoutBuildIn pairs) = withoutBuildIn pairs := by
  unfold withoutBuildIn
  rw [List.filter_filter]
  simp only [Bool.and_self]

theorem migrated_read (text : String) (failed : meets.read = some text) :
    migrated yaml site meets s = s := by
  unfold migrated migrateBuildInConfig
  rw [failed]

/-- The two parts of a migration. -/
theorem migrated_block (read : meets.read = none) (present : s.app = some data)
    (found : (yaml.parse data >>= yaml.buildIn) = .ok (some block)) (enabled : block.Enable = true) :
    migrated yaml site meets s = ⟨(removeBuildInKey yaml meets data s.app).2,
      (migrateServices site meets (buildInToServiceConfigs block) s.manager).2⟩ := by
  unfold migrated migrateBuildInConfig
  rw [read, present]
  dsimp only
  rw [found]
  dsimp only
  rw [if_pos enabled]

/-- `app.yaml` is not written. -/
theorem removeBuildInKey_unwritten (meets : Meets) (app : Option Bytes)
    (unwritten : ∀ anchor tag pairs out, yaml.parse data = .ok (.mapping anchor tag pairs) →
      yaml.marshal (.mapping anchor tag (withoutBuildIn pairs)) ≠ .ok out) :
    (removeBuildInKey yaml meets data app).2 = app := by
  unfold removeBuildInKey
  rcases parsed : yaml.parse data with e | (_ | _ | ⟨anchor, tag, pairs⟩)
  · rfl
  · rfl
  · rfl
  · dsimp only
    cases marshalled : yaml.marshal (.mapping anchor tag (withoutBuildIn pairs)) with
    | error e => rfl
    | ok out => exact absurd marshalled (unwritten anchor tag pairs out parsed)

theorem removeBuildInKey_written (meets : Meets) (app : Option Bytes)
    (parsed : yaml.parse data = .ok (.mapping anchor tag pairs))
    (marshalled : yaml.marshal (.mapping anchor tag (withoutBuildIn pairs)) = .ok out) :
    removeBuildInKey yaml meets data app = writeFile meets out app := by
  unfold removeBuildInKey
  rw [parsed]
  dsimp only
  rw [marshalled]
  rfl

theorem described_iff :
    described yaml (some data) = some block ↔
      (yaml.parse data >>= yaml.buildIn) = .ok (some block) := by
  rw [described, Option.bind_some]
  rcases yaml.parse data >>= yaml.buildIn with e | (_ | other)
  · exact iff_of_false nofun nofun
  · exact iff_of_false nofun nofun
  · exact ⟨fun same => congrArg (Except.ok ∘ some) (Option.some.inj same),
      fun same => Except.ok.inj same⟩

/-- A block that is all done is not done again. -/
theorem migrated_idle {t : Startup} (calm : meets.Calm) (present : t.app = some data)
    (idle : ∀ other, (yaml.parse data >>= yaml.buildIn) = .ok (some other) → other.Enable = true →
      ∀ cfg ∈ buildInToServiceConfigs other,
        (t.manager.files (serviceFile site.dir cfg.Name)).isSome ∨ (t.manager.services cfg.Name).isSome)
    (kept : (removeBuildInKey yaml meets data t.app).2 = t.app) : migrated yaml site meets t = t := by
  unfold migrated migrateBuildInConfig
  rw [calm.read, present]
  dsimp only
  rcases found : yaml.parse data >>= yaml.buildIn with e | (_ | other)
  · rfl
  · rfl
  · rw [present] at kept
    have same : (if other.Enable = true then
        (migrateServices site meets (buildInToServiceConfigs other) t.manager).2
        else t.manager) = t.manager := by
      split_ifs with enabled
      · rw [migrateServices_idle calm.stat (idle other found enabled)]
      · rfl
    dsimp only
    rw [same, kept, ← present]

/-- After a migration in which nothing fails, each service of the block has its file or is registered. -/
theorem settled_of_calm (encodes : Encodes site meets block) (calm : meets.Calm) {m' : Manager}
    (services : m'.services = s.manager.services)
    (each : ∀ cfg ∈ buildInToServiceConfigs block,
      (m'.files (serviceFile site.dir cfg.Name)).isSome ↔ Written site meets s.manager cfg)
    {cfg : Config} (member : cfg ∈ buildInToServiceConfigs block) :
    (m'.files (serviceFile site.dir cfg.Name)).isSome ∨ (m'.services cfg.Name).isSome := by
  rw [services]
  cases registered : s.manager.services cfg.Name with
  | some i => exact .inr rfl
  | none => exact .inl ((each cfg member).mpr (written_of_calm encodes calm member registered))

theorem encodes_found
    (encodes : ∀ other doc, yaml.buildIn doc = .ok (some other) → Encodes site meets other)
    (found : (yaml.parse data >>= yaml.buildIn) = .ok (some block)) : Encodes site meets block := by
  cases parsed : yaml.parse data with
  | error e =>
    rw [parsed] at found
    cases found
  | ok doc =>
    rw [parsed] at found
    exact encodes block doc found

section outcome

variable (encodes : ∀ other doc, yaml.buildIn doc = .ok (some other) → Encodes site meets other)
  (read : meets.read = none) (present : s.app = some data)
  (found : (yaml.parse data >>= yaml.buildIn) = .ok (some block)) (enabled : block.Enable = true)

include encodes read present found enabled in
/-- What is not written is kept. -/
theorem lossless_unwritten (kept : (removeBuildInKey yaml meets data s.app).2 = s.app)
    (still : meets.Calm → ∀ again : Meets, again.Calm →
      (removeBuildInKey yaml again data s.app).2 = s.app) :
    Lossless yaml site meets s block := by
  obtain ⟨m', ran, services, others, each⟩ :=
    migrateServices_files site meets (block_distinct block) s.manager
  have after : migrated yaml site meets s = ⟨s.app, m'⟩ := by
    rw [migrated_block read present found enabled, kept, ran]
  constructor
  · intro cfg _
    right
    rw [after, present]
    exact described_iff.mpr found
  · rw [after]
  · intro calm again calmAgain
    rw [after]
    have same : migrated yaml site again ⟨s.app, m'⟩ = ⟨s.app, m'⟩ := by
      refine migrated_idle calmAgain present (fun other found' _ => ?_) (still calm again calmAgain)
      cases found.symm.trans found'
      exact fun cfg member => settled_of_calm (encodes_found encodes found) calm services each member
    rw [same]
    exact ⟨rfl, rfl⟩

include read present found enabled in
/-- The services, when another text has taken the place of `app.yaml`. -/
theorem services_kept_iff {app : Option Bytes}
    (written : (removeBuildInKey yaml meets data s.app).2 = app) :
    (∀ cfg ∈ buildInToServiceConfigs block,
      ((migrated yaml site meets s).manager.files (serviceFile site.dir cfg.Name)).isSome ∨
        described yaml (migrated yaml site meets s).app = some block) ↔
      AllWritten site meets s block ∨ described yaml app = some block := by
  obtain ⟨m', ran, _, _, each⟩ := migrateServices_files site meets (block_distinct block) s.manager
  rw [migrated_block read present found enabled, written, ran]
  dsimp only
  constructor
  · intro kept
    by_cases still : described yaml app = some block
    · exact .inr still
    · exact .inl fun cfg member => (each cfg member).mp ((kept cfg member).resolve_right still)
  · rintro (all | still) cfg member
    · exact .inl ((each cfg member).mpr (all cfg member))
    · exact .inr still

include read present found enabled in
theorem app_written {app : Option Bytes} (written : (removeBuildInKey yaml meets data s.app).2 = app) :
    (migrated yaml site meets s).app = app := by
  rw [migrated_block read present found enabled]
  exact written

include present in
theorem others_before (parsed : yaml.parse data = .ok (.mapping anchor tag pairs)) :
    others yaml s.app =
      some ((entries (opened anchor) pairs).filter fun entry => entry.1 ≠ "build-in") := by
  rw [others, present, Option.bind_some, parsed]
  rfl

/-- What is left of a document has no other keys. -/
theorem entries_without (scope : Anchors.Scope) (pairs : List (Node × Node)) :
    ((entries scope (withoutBuildIn pairs)).filter fun entry => entry.1 ≠ "build-in") =
      entries scope (withoutBuildIn pairs) := by
  refine List.filter_eq_self.mpr fun entry member => ?_
  have key : entry.1 ∈ (entries scope (withoutBuildIn pairs)).map Prod.fst := List.mem_map_of_mem member
  rw [Anchors.entries_keys] at key
  obtain ⟨pair, left, same⟩ := List.mem_map.mp key
  rw [← same]
  exact (List.mem_filter.mp left).2

theorem without_sublist (pairs : List (Node × Node)) : (withoutBuildIn pairs).Sublist pairs :=
  List.filter_sublist

/-- What is left of a document that was read still reads, where its aliases stand for what they
stood for. -/
theorem resolved_of_detached (faithful : yaml.Faithful)
    (parsed : yaml.parse data = .ok (.mapping anchor tag pairs))
    (detached : Detached anchor pairs) :
      (Document.mapping anchor tag (withoutBuildIn pairs)).Resolved := by
  intro entry member
  have left : entry ∈ entries (opened anchor) (withoutBuildIn pairs) := member
  rw [detached] at left
  exact faithful.resolved _ _ parsed entry (List.mem_filter.mp left).1

theorem reparsed_of_detached (faithful : yaml.Faithful)
    (parsed : yaml.parse data = .ok (.mapping anchor tag pairs))
    (marshalled : yaml.marshal (.mapping anchor tag (withoutBuildIn pairs)) = .ok out)
    (detached : Detached anchor pairs) :
    yaml.parse out = .ok (.mapping anchor tag (withoutBuildIn pairs)) :=
  faithful.reads _ _ _ _ _ _ parsed (without_sublist pairs)
    (resolved_of_detached faithful parsed detached) marshalled

/-- The other keys of the text that is written are as they were exactly when their aliases stand for
what they stood for. -/
theorem others_written_iff (faithful : yaml.Faithful)
    (parsed : yaml.parse data = .ok (.mapping anchor tag pairs))
    (marshalled : yaml.marshal (.mapping anchor tag (withoutBuildIn pairs)) = .ok out) :
    others yaml (some out) =
      some ((entries (opened anchor) pairs).filter fun entry => entry.1 ≠ "build-in") ↔
      Detached anchor pairs := by
  constructor
  · intro same
    by_cases resolved : (Document.mapping anchor tag (withoutBuildIn pairs)).Resolved
    · have reparsed := faithful.reads _ _ _ _ _ _ parsed (without_sublist pairs) resolved marshalled
      rw [others, Option.bind_some, reparsed] at same
      exact (entries_without _ _).symm.trans (Option.some.inj same)
    · obtain ⟨e, unread⟩ :=
        faithful.dangling _ _ _ _ _ _ parsed (without_sublist pairs) resolved marshalled
      rw [others, Option.bind_some, unread] at same
      cases same
  · intro detached
    rw [others, Option.bind_some, reparsed_of_detached faithful parsed marshalled detached]
    exact congrArg some ((entries_without _ _).trans detached)

include encodes present found enabled in
/-- A second migration of the text that is written changes nothing exactly when the rest describes
nothing more. -/
theorem settled_iff (faithful : yaml.Faithful)
    (parsed : yaml.parse data = .ok (.mapping anchor tag pairs))
    (marshalled : yaml.marshal (.mapping anchor tag (withoutBuildIn pairs)) = .ok out)
    (detached : Detached anchor pairs) (calm : meets.Calm) :
    (∀ again : Meets, again.Calm →
      (migrated yaml site again (migrated yaml site meets s)).app = (migrated yaml site meets s).app ∧
      (migrated yaml site again (migrated yaml site meets s)).manager.files =
        (migrated yaml site meets s).manager.files) ↔
      NoFurther yaml site s block (.mapping anchor tag (withoutBuildIn pairs)) := by
  obtain ⟨m', ran, services, others, each⟩ :=
    migrateServices_files site meets (block_distinct block) s.manager
  have rewritten : (removeBuildInKey yaml meets data s.app).2 = some out := by
    rw [removeBuildInKey_written meets s.app parsed marshalled, writeFile, calm.write]
  have after : migrated yaml site meets s = ⟨some out, m'⟩ := by
    rw [migrated_block calm.read present found enabled, rewritten, ran]
  have reparsed := reparsed_of_detached faithful parsed marshalled detached
  have marshalled' :
      yaml.marshal (.mapping anchor tag (withoutBuildIn (withoutBuildIn pairs))) = .ok out := by
    rw [without_idem]
    exact marshalled
  rw [after]
  constructor
  · intro settled other decoded enabledOther cfg member
    by_contra open_
    obtain ⟨unseen, open_⟩ := not_or.mp open_
    obtain ⟨unregistered, unnamed⟩ := not_or.mp open_
    have found' : (yaml.parse out >>= yaml.buildIn) = .ok (some other) := by
      rw [reparsed]
      exact decoded
    obtain ⟨m'', ran', _, _, each'⟩ := migrateServices_files site meets (block_distinct other) m'
    have same := (settled meets calm).2
    rw [migrated_block calm.read rfl found' enabledOther, ran'] at same
    have free : m'.services cfg.Name = none := by
      rw [services]
      exact Option.not_isSome_iff_eq_none.mp unregistered
    have made := (each' cfg member).mpr (written_of_calm (encodes other _ decoded) calm member free)
    dsimp only at same
    rw [same, others _ unnamed] at made
    exact unseen made
  · intro noFurther again calmAgain
    have same : migrated yaml site again ⟨some out, m'⟩ = ⟨some out, m'⟩ := by
      refine migrated_idle calmAgain rfl ?_ ?_
      · intro other found' enabledOther cfg member
        rw [reparsed] at found'
        have own_done (own : cfg.Name ∈ (buildInToServiceConfigs block).map Config.Name) :
            (m'.files (serviceFile site.dir cfg.Name)).isSome ∨ (m'.services cfg.Name).isSome := by
          obtain ⟨cfg', member', same⟩ := List.mem_map.mp own
          rw [← same]
          exact settled_of_calm (encodes_found encodes found) calm services each member'
        rcases noFurther other found' enabledOther cfg member with there | registered | named
        · by_cases own : cfg.Name ∈ (buildInToServiceConfigs block).map Config.Name
          · exact own_done own
          · left
            dsimp only
            rw [others _ own]
            exact there
        · right
          dsimp only
          rw [services]
          exact registered
        · exact own_done named
      · rw [removeBuildInKey_written again _ reparsed marshalled', writeFile, calmAgain.write]
    rw [same]
    exact ⟨rfl, rfl⟩

include encodes present found enabled in
/-- A migration that writes the whole of `app.yaml`. -/
theorem lossless_done_iff (faithful : yaml.Faithful) (read : meets.read = none)
    (parsed : yaml.parse data = .ok (.mapping anchor tag pairs))
    (marshalled : yaml.marshal (.mapping anchor tag (withoutBuildIn pairs)) = .ok out)
    (write : meets.write = .done) :
    Lossless yaml site meets s block ↔
      Preserves yaml site meets s block anchor tag pairs .done := by
  have rewritten : (removeBuildInKey yaml meets data s.app).2 = some out := by
    rw [removeBuildInKey_written meets s.app parsed marshalled, writeFile, write]
  have app : (migrated yaml site meets s).app = some out :=
    app_written read present found enabled rewritten
  have services : _ ↔ AllWritten site meets s block ∨ described yaml (some out) = some block :=
    services_kept_iff read present found enabled rewritten
  have keys := others_written_iff faithful parsed marshalled
  have before := others_before present parsed
  constructor
  · intro lossless
    have detached : Detached anchor pairs := by
      rw [← keys, ← app, lossless.keys, before]
    refine ⟨detached, (services.mp lossless.services).imp id fun still => ?_, fun calm => ?_⟩
    · have decoded := described_iff.mp still
      rwa [reparsed_of_detached faithful parsed marshalled detached] at decoded
    · exact (settled_iff encodes present found enabled faithful parsed marshalled detached calm).mp
        (lossless.settled calm)
  · rintro ⟨detached, kept, further⟩
    constructor
    · refine services.mpr (kept.imp id fun still => described_iff.mpr ?_)
      rw [reparsed_of_detached faithful parsed marshalled detached]
      exact still
    · rw [app, before]
      exact keys.mpr detached
    · intro calm
      exact (settled_iff encodes present found enabled faithful parsed marshalled detached calm).mpr
        (further calm)

include encodes present found enabled in
/-- A migration loses nothing if what it writes to `app.yaml`, if it writes there, loses nothing,
and only then, where the write is not cut short. -/
theorem migration_lossless_iff (faithful : yaml.Faithful) :
    (Keeps yaml site meets s block data → Lossless yaml site meets s block) ∧
      ((∀ n text, meets.write ≠ .cut n text) → Lossless yaml site meets s block →
        Keeps yaml site meets s block data) := by
  cases read : meets.read with
  | some text =>
    have same : migrated yaml site meets s = s := migrated_read text read
    refine ⟨fun _ => ⟨fun cfg _ => .inr ?_, ?_, fun calm => ?_⟩, fun _ _ _ _ _ _ unread => ?_⟩
    · rw [same, present]
      exact described_iff.mpr found
    · rw [same]
    · rw [calm.read] at read
      cases read
    · rw [read] at unread
      cases unread
  | none =>
    by_cases rewrites : ∃ anchor tag pairs out, yaml.parse data = .ok (.mapping anchor tag pairs) ∧
        yaml.marshal (.mapping anchor tag (withoutBuildIn pairs)) = .ok out
    · obtain ⟨anchor, tag, pairs, out, parsed, marshalled⟩ := rewrites
      have only : Keeps yaml site meets s block data ↔
          Preserves yaml site meets s block anchor tag pairs meets.write := by
        constructor
        · exact fun keeps => keeps anchor tag pairs out read parsed marshalled
        · intro preserves anchor' tag' pairs' out' _ parsed' marshalled'
          cases parsed.symm.trans parsed'
          exact preserves
      rw [only]
      cases write : meets.write with
      | refused text =>
        refine ⟨fun _ => lossless_unwritten encodes read present found enabled ?_ fun calm => ?_,
          fun _ _ => trivial⟩
        · rw [removeBuildInKey_written meets s.app parsed marshalled, writeFile, write]
        · rw [calm.write] at write
          cases write
      | done =>
        have exactly :=
          lossless_done_iff encodes present found enabled faithful read parsed marshalled write
        exact ⟨exactly.mpr, fun _ => exactly.mp⟩
      | cut n text => exact ⟨False.elim, fun whole => absurd rfl (whole n text)⟩
    · have unwritten : ∀ (any : Meets), (removeBuildInKey yaml any data s.app).2 = s.app := fun any =>
        removeBuildInKey_unwritten any s.app fun anchor tag pairs out parsed marshalled =>
          rewrites ⟨anchor, tag, pairs, out, parsed, marshalled⟩
      refine ⟨fun _ => lossless_unwritten encodes read present found enabled
        (unwritten meets) fun _ again _ =>
        unwritten again, ?_⟩
      exact fun _ _ anchor tag pairs out _ parsed marshalled =>
        absurd ⟨anchor, tag, pairs, out, parsed, marshalled⟩ rewrites

end outcome

end runs

end lossless

/-! An `app.yaml` with an echo service, and a password that is an alias. -/

def textOf (text : String) : Bytes := text.toList.map fun c => c.toNat.toUInt8

def loginText : String := "web_username: &admin admin\nweb_password: *admin\n"

def oldText : Bytes := textOf (loginText ++ "build-in:\n  enable: true\n  echo_listen: 0.0.0.0:8081\n")

def newText : Bytes := textOf loginText

def str (text : String) : Node := .scalar none "!!str" text

def loginPairs : List (Node × Node) :=
  [(str "web_username", .scalar (some "admin") "!!str" "admin"),
    (str "web_password", .reference "admin")]

def blockNode : Node :=
  .collection .mapping none "!!map"
    [str "enable", .scalar none "!!bool" "true", str "echo_listen", str "0.0.0.0:8081"]

def oldDocument : Document := .mapping none "!!map" (loginPairs ++ [(str "build-in", blockNode)])

def newDocument : Document := .mapping none "!!map" loginPairs

def echoBlock : legacyBuiltIn := ⟨true, "0.0.0.0:8081", "", ⟨0, 0, 0⟩⟩

/-- The library on these two texts, and on an empty one. -/
def echoYaml : Yaml where
  parse data :=
    if data = oldText then .ok oldDocument
    else if data = newText then .ok newDocument
    else if data = [] then .ok .empty
    else .error (.failed "yaml: could not find expected key")
  buildIn doc := .ok (if doc = oldDocument then some echoBlock else none)
  marshal doc := if doc = newDocument then .ok newText else .error (.failed "yaml: unsupported document")

theorem echoYaml_old : echoYaml.parse oldText = .ok oldDocument := by
  dsimp only [echoYaml]
  rw [if_pos rfl]

theorem echoYaml_new : echoYaml.parse newText = .ok newDocument := by
  have differ : newText ≠ oldText := by decide +kernel
  dsimp only [echoYaml]
  rw [if_neg differ, if_pos rfl]

theorem echoYaml_block : (echoYaml.parse oldText >>= echoYaml.buildIn) = .ok (some echoBlock) := by
  rw [echoYaml_old]
  exact congrArg Except.ok (if_pos (rfl : oldDocument = oldDocument))

theorem echoYaml_marshal {doc : Document} {out : Bytes} (written : echoYaml.marshal doc = .ok out) :
    doc = newDocument ∧ out = newText := by
  dsimp only [echoYaml] at written
  split_ifs at written with same
  exact ⟨same, (Except.ok.inj written).symm⟩

theorem newDocument_resolved : newDocument.Resolved := by decide +kernel

theorem echoYaml_faithful : echoYaml.Faithful where
  resolved data doc parsed := by
    dsimp only [echoYaml] at parsed
    split_ifs at parsed <;> cases parsed
    · decide +kernel
    · exact newDocument_resolved
    · decide +kernel
  reads _ _ _ _ _ _ _ _ _ written := by
    obtain ⟨same, text⟩ := echoYaml_marshal written
    rw [same, text]
    exact echoYaml_new
  dangling _ _ _ _ _ _ _ _ unresolved written := by
    obtain ⟨same, -⟩ := echoYaml_marshal written
    rw [same] at unresolved
    exact absurd newDocument_resolved unresolved

theorem login_detached : Detached none (loginPairs ++ [(str "build-in", blockNode)]) := by
  refine detached_of_unused ?_
  decide +kernel

/-- The configuration that is made of the block, and its text. -/
def echoConfig : Config := ⟨"5b1e", "echo", "echo", false, 1, "0.0.0.0:8081", 0, 0, 0, "", ""⟩

def configText : String :=
  "\x7b\"uuid\":\"5b1e\",\"name\":\"echo\",\"type\":\"echo\",\"disabled\":false," ++
    "\"create_at\":\"0001-01-01T00:00:00.000000001Z\",\"listen\":\"0.0.0.0:8081\",\"listen_port\":0," ++
    "\"tcp_timeout\":0,\"udp_timeout\":0\x7d"

def tunnelTable : List (Config × String) := [(echoConfig, configText)]

def tunnelSite : Site := ⟨"tunnel", Tun.marshalOf id tunnelTable, Tun.unmarshalOf tunnelTable⟩

def created (faults : FileFaults) : Env := ⟨faults, "1", "1", ⟨true, none⟩, ⟨true, none⟩, 1, "5b1e", []⟩

/-- A migration in which every new file meets the same failures. -/
def meeting (faults : FileFaults) (write : Saving) : Meets :=
  ⟨none, fun _ => none, fun _ => created faults, write⟩

def upgrade : Startup := ⟨some oldText, Locked.new⟩

def fullDisk : FileFaults :=
  fun op => if op = .write then
    some "write tunnel/.staging/echo.1.service.tmp: no space left on device" else none

theorem echo_encodes (faults : FileFaults) (write : Saving) {other : legacyBuiltIn} {doc : Document}
    (decoded : echoYaml.buildIn doc = .ok (some other)) :
    Encodes tunnelSite (meeting faults write) other := by
  have same : other = echoBlock := by
    dsimp only [echoYaml] at decoded
    split_ifs at decoded <;> cases decoded
    rfl
  subst same
  intro cfg member
  obtain rfl := List.mem_singleton.mp (show cfg ∈ [_] from member)
  have listed : (id echoConfig, configText) ∈ tunnelTable := List.mem_cons_self
  have made : tunnelSite.marshal echoConfig = .ok (Tun.ascii configText) :=
    Tun.marshalOf_of_mem (by decide +kernel) listed
  exact ⟨_, made⟩

/-- Where nothing fails, nothing is lost. -/
theorem echo_migrated :
    Lossless echoYaml tunnelSite (meeting (fun _ => none) .done) upgrade echoBlock := by
  have encodes : ∀ other doc, echoYaml.buildIn doc = .ok (some other) →
      Encodes tunnelSite (meeting (fun _ => none) .done) other := fun _ _ => echo_encodes _ _
  refine (migration_lossless_iff encodes rfl echoYaml_block rfl echoYaml_faithful).1 ?_
  intro anchor tag pairs out _ parsed _
  cases echoYaml_old.symm.trans parsed
  refine ⟨login_detached, .inl fun cfg member => ?_, fun _ other decoded => ?_⟩
  · exact written_of_calm (encodes_found encodes echoYaml_block)
      ⟨rfl, fun _ => rfl, fun _ _ => rfl, rfl⟩ member rfl
  · have none_ : echoYaml.buildIn newDocument = .ok none :=
      congrArg Except.ok (if_neg (by decide +kernel))
    cases none_.symm.trans decoded

/-- On a full disk the service is lost, and a write that fails after `app.yaml` was emptied loses
the other keys. -/
theorem echo_lost_on_full_disk :
    ¬ (∀ meets : Meets, Lossless echoYaml tunnelSite meets upgrade echoBlock) ∧
    ¬ Lossless echoYaml tunnelSite (meeting fullDisk .done) upgrade echoBlock ∧
    ¬ Lossless echoYaml tunnelSite
      (meeting (fun _ => none) (.cut 0 "write app.yaml: input/output error"))
      upgrade echoBlock := by
  have service : ¬ Lossless echoYaml tunnelSite (meeting fullDisk .done) upgrade echoBlock := by
    intro lossless
    have gone : ((migrated echoYaml tunnelSite (meeting fullDisk .done) upgrade).manager.files
      "tunnel/echo.service").isSome = false := by decide +kernel
    have removed : described echoYaml
        (migrated echoYaml tunnelSite (meeting fullDisk .done) upgrade).app = none := by
      decide +kernel
    rcases lossless.services ⟨"", "echo", "echo", false, 0, "0.0.0.0:8081", 0, 0, 0, "", ""⟩
      (by decide +kernel) with
      there | still
    · exact Bool.false_ne_true (gone.symm.trans there)
    · cases removed.symm.trans still
  refine ⟨fun claimed => service (claimed _), service, fun lossless => ?_⟩
  have emptied : (others echoYaml
      (migrated echoYaml tunnelSite
        (meeting (fun _ => none) (.cut 0 "write app.yaml: input/output error")) upgrade).app).map
        List.length = some 0 := by decide +kernel
  have before : (others echoYaml upgrade.app).map List.length = some 2 := by decide +kernel
  rw [lossless.keys, before] at emptied
  cases emptied

end Gotun.Builtin
