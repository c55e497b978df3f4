import Gotun.Tun.Footprints
import Gotun.Tun.OverlappingCalls
import Gotun.Tun.Placement

/-! Whether the operations on a tunnel by its name stay in the tunnel directory. -/

namespace Gotun.Tun

open Gotun.Lib

/-! The operations. -/

namespace Shelf

variable {κ ι : Type} {S : Shelf κ ι} {site : Site} {env : Env} {r r' : Registry} {cfg : κ}
  {oldName newName : String} {old : ι}

theorem addStart_change {change : Change κ ι} (ran : S.addStart site env cfg r = (.ok change, r')) :
    change.old = none ∧ change.cfg = cfg := by
  obtain ⟨i, r₁, _, ran⟩ := Action.of_bind_ok ran
  obtain ⟨⟨⟩, r₂, _, ran⟩ := Action.of_bind_ok ran
  cases ran
  exact ⟨rfl, rfl⟩

/-- The new instance can be built, and then run when the old one is closed. -/
def Succeeds (S : Shelf κ ι) (site : Site) (env : Env) (r : Registry) (old : ι) (cfg : κ) : Prop :=
  (∃ make, S.build cfg = .ok make) ∧ S.Opened site env (r.manager.closed (S.id old)) cfg

theorem replaceStart_change {change : Change κ ι} (steady : S.Steady)
    (ran : S.replaceStart site env oldName old newName cfg r = (.ok change, r')) :
    change.old = some (oldName, S.cfg old) ∧ change.cfg = cfg ∧ r'.manager.files = r.manager.files ∧
      S.Succeeds site env r old cfg := by
  obtain ⟨i, r₁, prepared, ran⟩ := Action.of_bind_ok ran
  obtain ⟨⟨⟩, r₂, closed, ran⟩ := Action.of_bind_ok ran
  cases closed
  obtain ⟨⟨⟩, r₃, handled, ran⟩ := Action.of_bind_ok ran
  cases ran
  obtain ⟨make, built, rfl, rfl⟩ := prepared_ok prepared
  have started := of_handle_ok (fun e => rollback_fails site S env oldName (S.cfg old) e) handled
  obtain ⟨opened, _⟩ := runPrepared_ok started
  rw [steady.listeners built, steady.waits built] at opened
  refine ⟨rfl, rfl, ((close_store (S := S) env.missed old _ (issued_store r)).trans
    (runPrepared_same started)).files, ⟨make, built⟩, ?_⟩
  rcases opened with late | fits
  · exact .inl late
  · exact .inr ⟨fits.fine, fits.free, fits.apart⟩

theorem replaceStart_succeeds (steady : S.Steady) (succeeds : S.Succeeds site env r old cfg) :
    ∃ change r', S.replaceStart site env oldName old newName cfg r = (.ok change, r') := by
  obtain ⟨⟨make, built⟩, opened⟩ := succeeds
  have prepared := prepare_ok built r
  have closed : S.close env.missed old { r with manager := r.manager.issued } =
      (.ok (), (S.close env.missed old { r with manager := r.manager.issued }).2) := rfl
  have started : ∃ r', S.runPrepared site env.late (make r.manager.next) env.faults.bind
      (S.close env.missed old { r with manager := r.manager.issued }).2 = (.ok (), r') := by
    by_cases runs_on : (env.late && (S.plan (make r.manager.next)).waits) = true
    · exact ⟨_, runPrepared_late runs_on⟩
    · rw [steady.waits built] at runs_on
      have fits := opened.resolve_left runs_on
      refine ⟨_, runPrepared_fits ?_ ?_⟩
      · rw [steady.waits built]
        exact Bool.eq_false_iff.mpr runs_on
      · rw [steady.listeners built]
        exact ⟨fits.fine, fits.free, fits.apart⟩
  obtain ⟨r₂, started⟩ := started
  refine ⟨⟨some (oldName, S.cfg old), newName, cfg, make r.manager.next⟩, r₂, ?_⟩
  unfold replaceStart
  rw [Action.bind_ok _ prepared, Action.bind_ok _ closed, Action.bind_ok _ (Action.handle_ok _ started)]
  rfl

end Shelf

namespace Registry

variable (site : Site) (env : Env) (r : Registry)

/-- The calls that save a change of the tunnels, after a section that has started. -/
def savingCalls :
    Except Err (Option (Change Config Service ⊕ Change Route.RouteConfig RouteService)) × Registry →
    Option (FileScript Bool × Files)
  | (.ok (some (.inl change)), r') => some (site.services.fileScript site env change, r'.manager.files)
  | _ => none

/-- The calls on the files that an operation on tunnels makes, and the files on which it makes them. -/
def fileCalls : Op → Option (FileScript Bool × Files)
  | .removeService name =>
    some (site.services.files.deleteFile site.host.dir.place env.faults.file name, r.manager.files)
  | op => savingCalls site env (start site env op r)

/-- The calls change only files that are inside. -/
def ChangesOnly (inside : String → Prop) (op : Op) : Prop :=
  ∀ x files, fileCalls site env r op = some (x, files) → x.Each (Script.Within inside) files

/-- The tunnel that an operation is about. -/
def tunnelName : Op → Option String
  | .addService config true | .replaceService config => some config.Name
  | .setServiceDisabled name _ | .removeService name => some name
  | _ => none

variable {δ : Type} (tree : Tree δ site.host.dir.tunDir)

/-- The file of the tunnel is elsewhere. -/
def Elsewhere (name : String) : Prop := ¬ tree.Inside (site.services.files.file site.host.dir.place name)

/-- Every file that is changed is inside, and under a name that leads elsewhere the operation fails and
changes no file. -/
structure Confined (op : Op) (name : String) : Prop where
  files : ChangesOnly site env r tree.Inside op
  refused : Elsewhere site tree name → (∃ e, (apply site env op r).1 = .error e) ∧
    ChangesOnly site env r (fun _ => False) op

/-- The configuration that a tunnel is given. -/
def editedTunnel (config : Config) (old : Service) : Config :=
  { Manager.normalizeConfig env.now env.uuid config with
    UUID := old.cfg.UUID, CreatedAt := old.cfg.CreatedAt }

/-- The tunnel is found and the new one runs, so that only the files remain. -/
structure Replaces (config : Config) (oldName : String) (old : Service) : Prop where
  found : site.services.find Config.UUID env.order config.UUID r = some (oldName, old)
  free : config.Name = oldName ∨ site.services.entries r config.Name = none
  succeeds : site.services.Succeeds site env r old (editedTunnel env config old)

/-- How an operation is not confined. A removal looks at nothing but the file, a tunnel that has the flag
already is left alone, and the file of a tunnel that is replaced is moved wherever it is. -/
def Escapes : Op → Prop
  | .removeService name => Elsewhere site tree name ∧ env.faults.file .removeFile = none
  | .setServiceDisabled name disabled => Elsewhere site tree name ∧
      ∃ current, site.services.entries r name = some current ∧ current.cfg.Disabled = disabled
  | .replaceService config => ∃ oldName old, Replaces site env r config oldName old ∧
      site.services.files.Displaces site.host.dir.place env.faults.file r.manager.files old.cfg
        (editedTunnel env config old) ∧
      ¬ (tree.Inside (site.services.files.file site.host.dir.place oldName) ∧
        tree.Inside (site.services.files.backup site.host.dir.place oldName))
  | _ => False

section calls

variable {site env r tree}

theorem fileCalls_saves {op : Op} (saves : Saves op = true) :
    fileCalls site env r op = savingCalls site env (start site env op r) := by
  cases op with
  | removeService => contradiction
  | _ => rfl

theorem of_fileCalls {op : Op} {x : FileScript Bool} {files : Files} (saves : Saves op = true)
    (calls : fileCalls site env r op = some (x, files)) :
    ∃ change r', start site env op r = (.ok (some (.inl change)), r') ∧
      x = site.services.fileScript site env change ∧ files = r'.manager.files := by
  rw [fileCalls_saves saves] at calls
  rcases started : start site env op r with ⟨e | (none_ | (change | change)), r'⟩ <;>
    rw [started] at calls <;> cases calls
  exact ⟨change, r', rfl, rfl, rfl⟩

/-- Where the calls fail, the operation does. -/
theorem apply_fails {op : Op} (saves : Saves op = true)
    (changes : ∀ change r', start site env op r = (.ok change, r') →
      ∃ tunnel, change = some (.inl tunnel) ∧ ∀ b files,
      (site.services.fileScript site env tunnel).exec r'.manager.files ≠ (.ok b, files)) :
    ∃ e, (apply site env op r).1 = .error e := by
  rw [start_complete saves]
  rcases started : start site env op r with ⟨e | change, r'⟩
  · rw [Action.bind_error _ started]
    exact ⟨e, rfl⟩
  · obtain ⟨tunnel, rfl, fails⟩ := changes change r' started
    rw [Action.bind_ok _ started]
    rcases written : (site.services.fileScript site env tunnel).exec r'.manager.files with ⟨e | b, files⟩
    · show ∃ e, (site.services.save site env tunnel r').1 = .error e
      obtain ⟨e', r'', failed⟩ := Shelf.finish_fails site.services site env tunnel e (r'.withFiles files)
      rw [Shelf.save_eq tunnel written, failed]
      exact ⟨e', rfl⟩
    · exact absurd written (fails b files)

theorem script_plain {tunnel : Change Config Service} {files files' : Files} {b : Bool}
    (ran : (site.services.fileScript site env tunnel).exec files = (.ok b, files')) :
    '/' ∉ tunnel.cfg.Name.toList := by
  unfold Shelf.fileScript at ran
  cases old : tunnel.old with
  | none =>
    rw [old] at ran
    obtain ⟨_, _, plain, _⟩ := FileKind.createFile_writes ran
    exact plain
  | some entry =>
    rw [old] at ran
    exact FileKind.replaceFile_plain ran

theorem script_refused {tunnel : Change Config Service} (slash : '/' ∈ tunnel.cfg.Name.toList)
    (files : Files) :
    (site.services.fileScript site env tunnel).Each (Script.Within fun _ => False) files := by
  unfold Shelf.fileScript
  cases tunnel.old with
  | none => exact FileKind.createFile_each (serviceFiles_regular _ _) fun plain => absurd slash plain
  | some entry =>
    refine (FileKind.replaceFile_each (serviceFiles_regular _ _) fun plain => absurd slash plain).mpr ?_
    exact fun displaces => absurd slash displaces.staged.plain

/-- `os.CreateTemp` refuses the name, and nothing has been changed before. -/
theorem refused_of_slash {op : Op} {name : String} (saves : Saves op = true) (slash : '/' ∈ name.toList)
    (changes : ∀ change r', start site env op r = (.ok change, r') →
      ∃ tunnel, change = some (.inl tunnel) ∧ tunnel.cfg.Name = name) :
    (∃ e, (apply site env op r).1 = .error e) ∧ ChangesOnly site env r (fun _ => False) op := by
  constructor
  · apply apply_fails saves
    intro change r' started
    obtain ⟨tunnel, rfl, rfl⟩ := changes change r' started
    exact ⟨tunnel, rfl, fun b files ran => script_plain ran slash⟩
  · intro x files calls
    obtain ⟨change, r', started, rfl, rfl⟩ := of_fileCalls saves calls
    obtain ⟨tunnel, same, rfl⟩ := changes _ r' started
    cases same
    exact script_refused slash _

theorem slash_of_elsewhere {name : String}
    (elsewhere : Elsewhere site tree name) : '/' ∈ name.toList := by
  by_contra plain
  exact elsewhere (tree.file_inside plain)

/-! What each operation saves. -/

theorem addService_change {config : Config} {createFile : Bool} {change : Option AnyChange}
    {r' : Registry} (started : start site env (.addService config createFile) r = (.ok change, r')) :
    ∃ tunnel, change = some (.inl tunnel) ∧ tunnel.old = none ∧ tunnel.cfg.Name = config.Name := by
  rw [start, Action.choose_apply] at started
  split_ifs at started
  · cases started
  · obtain ⟨tunnel, r₁, ran, ⟨⟩⟩ := Action.of_bind_ok started
    obtain ⟨old, cfg⟩ := Shelf.addStart_change ran
    exact ⟨tunnel, rfl, old, by rw [cfg]; rfl⟩

theorem replaceService_change {config : Config} {change : Option AnyChange} {r' : Registry}
    (started : start site env (.replaceService config) r = (.ok change, r')) :
    ∃ tunnel oldName old, change = some (.inl tunnel) ∧ Replaces site env r config oldName old ∧
      tunnel.old = some (oldName, old.cfg) ∧ tunnel.cfg = editedTunnel env config old ∧
      r'.manager.files = r.manager.files := by
  rw [start, Action.choose_apply] at started
  cases found : site.services.find Config.UUID env.order config.UUID r with
  | none =>
    rw [found] at started
    cases started
  | some entry =>
    rw [found] at started
    dsimp only at started
    split_ifs at started with clash
    · cases started
    · obtain ⟨tunnel, r₁, ran, ⟨⟩⟩ := Action.of_bind_ok started
      obtain ⟨old, cfg, files, succeeds⟩ := Shelf.replaceStart_change (services_steady site) ran
      refine ⟨tunnel, entry.1, entry.2, rfl, ⟨found, ?_, succeeds⟩, old, cfg, files⟩
      by_cases same : config.Name = entry.1
      · exact .inl same
      · exact .inr (Option.not_isSome_iff_eq_none.mp fun present => clash ⟨same, present⟩)

theorem replaceService_starts {config : Config} {oldName : String} {old : Service}
    (replaces : Replaces site env r config oldName old) :
    ∃ tunnel r', start site env (.replaceService config) r = (.ok (some (.inl tunnel)), r') := by
  have runs : ∃ tunnel r', site.services.replaceStart site env oldName old config.Name
      (editedTunnel env config old) r = (.ok tunnel, r') :=
    Shelf.replaceStart_succeeds (services_steady site) replaces.succeeds
  obtain ⟨tunnel, r', ran⟩ := runs
  refine ⟨tunnel, r', ?_⟩
  have free : ¬ (config.Name ≠ oldName ∧ (site.services.entries r config.Name).isSome) := by
    rintro ⟨differ, present⟩
    rw [replaces.free.resolve_left differ] at present
    cases present
  rw [start, Action.choose_apply, replaces.found]
  exact (congrFun (if_neg free) r).trans (Action.bind_ok _ ran)

theorem setServiceDisabled_change (keyed : Keyed site r) {name : String} {disabled : Bool}
    {change : Option AnyChange} {r' : Registry}
    (started : start site env (.setServiceDisabled name disabled) r = (.ok change, r')) :
    (change = none ∧ ∃ current, site.services.entries r name = some current ∧
      current.cfg.Disabled = disabled) ∨
      ∃ tunnel old, change = some (.inl tunnel) ∧ tunnel.old = some (name, old) ∧ old.Name = name ∧
        tunnel.cfg.Name = name := by
  rw [start, Action.choose_apply] at started
  cases present : site.services.entries r name with
  | none =>
    rw [present] at started
    cases started
  | some current =>
    rw [present] at started
    have own : current.cfg.Name = name := keyed.services _ _ (configs_of_entries present)
    dsimp only at started
    split_ifs at started with same
    · cases started
      exact .inl ⟨rfl, current, rfl, same⟩
    · obtain ⟨tunnel, r₁, ran, ⟨⟩⟩ := Action.of_bind_ok started
      obtain ⟨old, cfg, _⟩ := Shelf.replaceStart_change (services_steady site) ran
      exact .inr ⟨tunnel, current.cfg, rfl, old, own, (congrArg Config.Name cfg).trans own⟩

/-! The operations, one by one. -/

variable (numbers : site.host.dir.Numbers)

include numbers in
theorem addService_confined (config : Config) :
    Confined site env r tree (.addService config true) config.Name where
  files := by
    intro x files calls
    obtain ⟨change, r', started, rfl, rfl⟩ := of_fileCalls rfl calls
    obtain ⟨tunnel, same, old, _⟩ := addService_change started
    cases same
    unfold Shelf.fileScript
    rw [old]
    exact FileKind.createFile_each (serviceFiles_regular _ _) fun plain => tree.receives numbers plain
  refused elsewhere := refused_of_slash rfl (slash_of_elsewhere elsewhere) fun change r' started => by
    obtain ⟨tunnel, same, _, own⟩ := addService_change started
    exact ⟨tunnel, same, own⟩

include numbers in
theorem replaceService_confined_iff (keyed : Keyed site r) (config : Config) :
    Confined site env r tree (.replaceService config) config.Name ↔
      ¬ Escapes site env r tree (.replaceService config) := by
  have each : ∀ (cfg oldCfg : Config) (files : Files),
    (site.services.files.replaceFile site.host.dir.place env.faults.file
      oldCfg cfg).Each (Script.Within tree.Inside) files ↔
        (site.services.files.Displaces site.host.dir.place env.faults.file files oldCfg cfg →
          tree.Inside (site.services.files.file site.host.dir.place oldCfg.Name) ∧
            tree.Inside (site.services.files.backup site.host.dir.place oldCfg.Name)) :=
    fun cfg oldCfg files => FileKind.replaceFile_each (serviceFiles_regular _ _) fun plain =>
      tree.receives numbers plain
  have ownName : ∀ {oldName : String} {old : Service}, Replaces site env r config oldName old →
      old.cfg.Name = oldName :=
    fun replaces => keyed.services _ _ (configs_of_entries (of_find replaces.found).1)
  constructor
  · rintro confined ⟨oldName, old, replaces, displaces, outside⟩
    obtain ⟨tunnel, r', started⟩ := replaceService_starts replaces
    obtain ⟨_, name', old', same, replaces', oldCfg, cfg, files⟩ := replaceService_change started
    cases same
    cases replaces.found.symm.trans replaces'.found
    have changes :=
      confined.files _ _ ((fileCalls_saves rfl).trans (congrArg (savingCalls site env) started))
    unfold Shelf.fileScript at changes
    rw [oldCfg, cfg, files] at changes
    have inside := (each _ _ _).mp changes displaces
    rw [ownName replaces] at inside
    exact outside inside
  · intro stays
    constructor
    · intro x files calls
      obtain ⟨change, r', started, rfl, rfl⟩ := of_fileCalls rfl calls
      obtain ⟨tunnel, oldName, old, same, replaces, oldCfg, cfg, unchanged⟩ :=
        replaceService_change started
      cases same
      unfold Shelf.fileScript
      rw [oldCfg, cfg, unchanged]
      refine (each _ _ _).mpr fun displaces => ?_
      by_contra outside
      rw [ownName replaces] at outside
      exact stays ⟨oldName, old, replaces, displaces, outside⟩
    · intro elsewhere
      apply refused_of_slash rfl (slash_of_elsewhere elsewhere)
      intro change r' started
      obtain ⟨tunnel, oldName, old, same, _, _, cfg, _⟩ := replaceService_change started
      exact ⟨tunnel, same, by rw [cfg]; rfl⟩

include numbers in
theorem setServiceDisabled_confined_iff (keyed : Keyed site r) (name : String) (disabled : Bool) :
    Confined site env r tree (.setServiceDisabled name disabled) name ↔
      ¬ Escapes site env r tree (.setServiceDisabled name disabled) := by
  constructor
  · rintro confined ⟨elsewhere, current, present, same⟩
    obtain ⟨⟨e, failed⟩, _⟩ := confined.refused elsewhere
    have kept : apply site env (.setServiceDisabled name disabled) r = (.ok (), r) := by
      rw [apply, SetServiceDisabled, Action.choose_apply, present]
      exact congrFun (if_pos same) r
    rw [kept] at failed
    cases failed
  · intro stays
    constructor
    · intro x files calls
      obtain ⟨change, r', started, rfl, rfl⟩ := of_fileCalls rfl calls
      rcases setServiceDisabled_change keyed started with
        ⟨none_, _⟩ | ⟨tunnel, oldCfg, same, old, oldOwn, own⟩
      · cases none_
      · cases same
        unfold Shelf.fileScript
        rw [old]
        refine (FileKind.replaceFile_each (serviceFiles_regular _ _) fun plain =>
          tree.receives numbers plain).mpr ?_
        intro displaces
        have plain : '/' ∉ change.cfg.Name.toList := displaces.staged.plain
        rw [own] at plain
        rw [show (serviceFiles site.host.dir site.unmarshal).name oldCfg = name from oldOwn]
        exact ⟨tree.file_inside plain, tree.backup_inside numbers plain⟩
    · intro elsewhere
      apply refused_of_slash rfl (slash_of_elsewhere elsewhere)
      intro change r' started
      rcases setServiceDisabled_change keyed started with
        ⟨_, current, present, same⟩ | ⟨tunnel, _, same, _, _, own⟩
      · exact absurd ⟨elsewhere, current, present, same⟩ stays
      · exact ⟨tunnel, same, own⟩

theorem removeService_confined_iff (name : String) :
    Confined site env r tree (.removeService name) name ↔
      ¬ Escapes site env r tree (.removeService name) := by
  constructor
  · rintro confined ⟨elsewhere, fine⟩
    obtain ⟨⟨e, failed⟩, _⟩ := confined.refused elsewhere
    have deleted : (site.services.files.deleteFile site.host.dir.place env.faults.file name).exec
        r.manager.files = (.ok true, _) :=
      FileScript.perform_ok fine _ _
    obtain ⟨r', ran, _⟩ := Shelf.removeLocked_ok (services_lawful site)
      (routes_lawful site) (services_beside site) (services_plain site) env.missed name
      (r.withFiles (r.manager.files.remove (site.services.files.file site.host.dir.place name)))
    have removed : apply site env (.removeService name) r = (.ok (), r') := by
      rw [apply, RemoveService, Shelf.remove_eq, Action.bind_ok _ (Shelf.onFiles_ok deleted)]
      exact ran
    rw [removed] at failed
    cases failed
  · intro stays
    constructor
    · rintro _ _ ⟨⟩
      refine FileScript.attempt_each.mpr fun fine => .inl (FileKind.remove_within ?_)
      by_contra elsewhere
      exact stays ⟨elsewhere, fine⟩
    · intro elsewhere
      cases fault : env.faults.file .removeFile with
      | none => exact absurd ⟨elsewhere, fault⟩ stays
      | some text =>
        have failed : (site.services.files.deleteFile site.host.dir.place env.faults.file name).exec
            r.manager.files = (.error (.failed text), r.manager.files) :=
          FileScript.perform_error fault _ _
        constructor
        · rw [apply, RemoveService, Shelf.remove_eq, Action.bind_error _ (Shelf.onFiles_error failed)]
          exact ⟨_, rfl⟩
        · rintro _ _ ⟨⟩
          refine FileScript.attempt_each.mpr fun fine => ?_
          rw [fault] at fine
          cases fine

/-- In every state that is reached, an operation on a tunnel by name is confined to the tunnel
directory exactly when it does not escape. -/
theorem operation_confined_iff (tree : Tree δ site.host.dir.tunDir)
    {allowed : Registry → Op × Env → Prop} {events : List (Op × Env)}
    (run : (system site).Run allowed events r) (numbers : site.host.dir.Numbers) {op : Op}
    {name : String} (named : tunnelName op = some name) :
    Confined site env r tree op name ↔ ¬ Escapes site env r tree op := by
  have keyed := keyed_of_run run
  cases op with
  | addService config createFile =>
    cases createFile with
    | false => cases named
    | true =>
      cases named
      exact iff_of_true (addService_confined numbers config) fun escapes => escapes
  | replaceService config =>
    cases named
    exact replaceService_confined_iff numbers keyed config
  | setServiceDisabled name disabled =>
    cases named
    exact setServiceDisabled_confined_iff numbers keyed name disabled
  | removeService name =>
    cases named
    exact removeService_confined_iff name
  | removeServiceByUUID uuid => cases named
  | addRoute cfg createFile => cases named
  | replaceRoute cfg => cases named
  | setRouteDisabled name disabled => cases named
  | removeRoute name => cases named
  | removeRouteByUUID uuid => cases named

/-- At every moment of an operation that is confined, the files elsewhere are as they were. -/
theorem Confined.frame {op : Op} {name : String} (confined : Confined site env r tree op name)
    {x : FileScript Bool} {files : Files} (calls : fileCalls site env r op = some (x, files))
    (n : Nat) {path : String} (outside : ¬ tree.Inside path) : x.killed n files path = files path :=
  (confined.files x files calls).frame n outside

end calls

/-- The directory of a path, by its spelling. -/
def parentOf (path : String) : String :=
  String.ofList (path.toList.reverse.dropWhile (· ≠ '/')).tail.reverse

theorem parentOf_append (dir : String) {entry : String} (plain : '/' ∉ entry.toList) :
    parentOf (dir ++ "/" ++ entry) = dir := by
  have passed : ∀ c ∈ entry.toList.reverse, decide (c ≠ '/') = true := by
    intro c member
    refine decide_eq_true fun same => plain ?_
    rw [← same]
    exact List.mem_reverse.mp member
  have split : (dir ++ "/" ++ entry).toList.reverse =
      entry.toList.reverse ++ '/' :: dir.toList.reverse := by
    simp [String.toList_append]
  rw [parentOf, split, List.dropWhile_append_of_pos passed, List.dropWhile_cons_of_neg (by decide),
    List.tail_cons, List.reverse_reverse, String.ofList_toList]

/-- A directory without links, and paths without detours. -/
def spelled (tunDir : String) : Tree String tunDir where
  place := parentOf
  home := tunDir
  staging := tunDir ++ "/.staging"
  direct _ entry := parentOf_append tunDir entry.plain
  staged name entry := by
    have split : tunDir ++ "/.staging/" ++ name = tunDir ++ "/.staging" ++ "/" ++ name := by
      simp only [String.append_assoc]
      rfl
    rw [split]
    exact parentOf_append _ entry.plain

theorem localSite_numbers : localSite.host.dir.Numbers := ⟨by decide, by decide⟩

/-- The removal of a registered tunnel that has a file is confined, and deletes the file. -/
theorem plain_removal_confined :
    (afterFirst.manager.services "web").isSome ∧ (afterFirst.manager.files "tunnels/web.tun").isSome ∧
    Confined localSite (calm ["web"] []) afterFirst (spelled "tunnels") (.removeService "web") "web" ∧
    (apply localSite (calm ["web"] []) (.removeService "web") afterFirst).2.manager.files
      "tunnels/web.tun" = none := by
  have run : (system localSite).Run (fun _ _ => True)
      ([] ++ [(.addService (tunnelOf "1" "web" "7001") true, calm [] [])]) afterFirst :=
    .step (.start localSite_starts) trivial rfl
  have named : tunnelName (.removeService "web") = some "web" := rfl
  refine ⟨by decide +kernel, by decide +kernel, ?_, by decide +kernel⟩
  refine (operation_confined_iff (spelled "tunnels") run localSite_numbers named).mpr ?_
  have plain : '/' ∉ "web".toList := by decide
  have inside : (spelled localSite.host.dir.tunDir).Inside
      (localSite.services.files.file localSite.host.dir.place "web") :=
    Tree.file_inside _ plain
  exact fun escapes => escapes.1 inside

/-- A file beside the tunnel directory. -/
def besideFiles : Files := Files.write "tunnels/../notes.tun" [] fun _ => none

theorem notes_elsewhere : Elsewhere localSite (spelled "tunnels") "../notes" := by
  rintro (home | staging)
  · exact absurd home (by decide +kernel)
  · exact absurd staging (by decide +kernel)

/-- A removal by a path deletes it. -/
theorem removal_escapes : (besideFiles "tunnels/../notes.tun").isSome ∧
    (apply localSite (calm [] []) (.removeService "../notes") (empty [] besideFiles)).1 = .ok () ∧
    (apply localSite (calm [] []) (.removeService "../notes") (empty [] besideFiles)).2.manager.files
      "tunnels/../notes.tun" = none ∧
    ¬ ∀ (op : Op) (name : String), tunnelName op = some name →
      Confined localSite (calm [] []) (empty [] besideFiles) (spelled "tunnels") op name := by
  refine ⟨by decide +kernel, by decide +kernel, by decide +kernel, ?_⟩
  intro claimed
  exact (removeService_confined_iff "../notes").mp (claimed _ _ rfl) ⟨notes_elsewhere, rfl⟩

end Registry

end Gotun.Tun
