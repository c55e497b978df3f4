import Gotun.ProbeHistory.Store
import Mathlib.Data.Nat.Find
import Mathlib.Tactic.Choose

/-! `Query` and `prune` of `pkg/probehistory/store.go`: the history is read page by page, newest rows
first, while rows are added and expired rows are deleted. Times are nanoseconds since the zero time,
and the table keeps whole milliseconds of the Unix epoch. -/

namespace Gotun.ProbeHistory

/-- Seven days. -/
def Retention : Int := 7 * 24 * 3600 * 1000000000

def unixEpochMilli : Int := 62135596800000

def UnixMilli (t : Int) : Int := t / 1000000 - unixEpochMilli

structure Row where
  id : Int
  tunnel_uuid : String
  probed_at : Int
  kind : String
  route_uuid : String
  route_name : String
  status : String
  duration_ms : Int
  connectivity : String
  error : List UInt8
  deriving DecidableEq, Repr

def Row.of (id : Int) (r : Record) : Row :=
  ⟨id, r.TunnelUUID, UnixMilli r.Time, r.Kind, r.RouteUUID, r.RouteName, r.Status, r.DurationMS,
    r.Connectivity, r.Error⟩

/-- The record with its `ID`, as `Query` returns it. -/
def Row.scan (row : Row) : Int × Record :=
  (row.id, ⟨row.tunnel_uuid, (row.probed_at + unixEpochMilli) * 1000000, row.kind, row.route_uuid,
    row.route_name, row.status,
    row.duration_ms, row.connectivity, row.error⟩)

/-- The rows in the order of their ids. `seq` is the last id given: with `AUTOINCREMENT` no id is
given twice, even when its row is deleted. -/
structure Table where
  rows : List Row
  seq : Int
  counted : 0 ≤ seq
  ordered : rows.Pairwise (·.id < ·.id)
  given : ∀ row ∈ rows, 0 < row.id ∧ row.id ≤ seq

/-- A row given an id after `seq`. -/
def numbered (seq : Int) : List Record → List Row
  | [] => []
  | r :: rest => Row.of (seq + 1) r :: numbered (seq + 1) rest

theorem mem_numbered {seq : Int} {records : List Record} {row : Row}
    (member : row ∈ numbered seq records) :
    seq < row.id ∧ row.id ≤ seq + records.length := by
  induction records generalizing seq with
  | nil => cases member
  | cons r rest ih =>
    rcases List.mem_cons.mp member with rfl | later
    · simp only [Row.of, List.length_cons]
      omega
    · have bounds := ih later
      simp only [List.length_cons]
      omega

theorem numbered_ordered (seq : Int) (records : List Record) :
    (numbered seq records).Pairwise (·.id < ·.id) := by
  induction records generalizing seq with
  | nil => exact List.Pairwise.nil
  | cons r rest ih =>
    refine List.Pairwise.cons (fun row member => ?_) (ih (seq + 1))
    exact (mem_numbered member).1

namespace Table

/-- A transaction that is committed; one that is rolled back changes nothing. -/
def insert (t : Table) (records : List Record) : Table where
  rows := t.rows ++ numbered t.seq records
  seq := t.seq + records.length
  counted := by
    have := t.counted
    omega
  ordered := by
    refine List.pairwise_append.mpr
      ⟨t.ordered, numbered_ordered t.seq records, fun row old row' new => ?_⟩
    exact Int.lt_of_le_of_lt (t.given row old).2 (mem_numbered new).1
  given row member := by
    have counted := t.counted
    rcases List.mem_append.mp member with old | new
    · have bounds := t.given row old
      omega
    · have bounds := mem_numbered new
      omega

/-- One `DELETE` of `prune`, which takes some of the expired rows. -/
def delete (t : Table) (now : Int) (picked : Row → Bool) : Table where
  rows := t.rows.filter fun row => !(decide (row.probed_at < UnixMilli (now - Retention)) && picked row)
  seq := t.seq
  counted := t.counted
  ordered := t.ordered.filter _
  given row member := t.given row (List.mem_of_mem_filter member)

end Table

structure Filter where
  TunnelUUID : String
  Since : Int
  Until : Int
  Kind : String
  Status : String
  BeforeID : Int
  Limit : Int
  deriving DecidableEq, Repr

structure Page where
  Records : List (Int × Record)
  NextBefore : Int
  deriving DecidableEq, Repr

namespace Filter

/-- `now` and `later` are the two readings of the clock. -/
def filled (now later : Int) (f : Filter) : Filter :=
  { f with
    Since := if f.Since < now - Retention then now - Retention else f.Since
    Until := if f.Until = 0 then later else f.Until
    Limit := if f.Limit ≤ 0 ∨ 100 < f.Limit then 50 else f.Limit }

/-- The conditions that do not depend on the cursor. -/
def wants (f : Filter) (row : Row) : Bool :=
  row.tunnel_uuid = f.TunnelUUID ∧ UnixMilli f.Since ≤ row.probed_at ∧
    row.probed_at ≤ UnixMilli f.Until ∧
    (f.Kind = "" ∨ row.kind = f.Kind) ∧ (f.Status = "" ∨ row.status = f.Status)

def before (f : Filter) (row : Row) : Bool := f.BeforeID ≤ 0 ∨ row.id < f.BeforeID

/-- The statement, with its `ORDER BY id DESC LIMIT ?`. -/
def select (f : Filter) (t : Table) : List Row :=
  (t.rows.filter fun row => f.wants row && f.before row).reverse.take (f.Limit.toNat + 1)

def page (f : Filter) (t : Table) : Page :=
  let found := (f.select t).map Row.scan
  if f.Limit.toNat < found.length then
    let kept := found.take f.Limit.toNat
    ⟨kept, (kept.getLast?.map Prod.fst).getD 0⟩
  else ⟨found, 0⟩

end Filter

def Query (now later : Int) (f : Filter) (t : Table) : Except String Page :=
  if f.TunnelUUID = "" then .error "缺少隧道 UUID" else .ok ((f.filled now later).page t)

/-! One page. -/

section page

variable {f : Filter} {t : Table}

/-- What a filter asks for at the time of a query, in whole milliseconds. -/
structure Filter.Admits (f : Filter) (now later : Int) (row : Row) : Prop where
  tunnel : row.tunnel_uuid = f.TunnelUUID
  kept : UnixMilli (now - Retention) ≤ row.probed_at
  since : UnixMilli f.Since ≤ row.probed_at
  untilTime : row.probed_at ≤ UnixMilli (if f.Until = 0 then later else f.Until)
  kind : f.Kind = "" ∨ row.kind = f.Kind
  status : f.Status = "" ∨ row.status = f.Status

theorem filled_wants (now later : Int) (row : Row) :
    (f.filled now later).wants row = true ↔ f.Admits now later row := by
  have since :
    UnixMilli (if f.Since < now - Retention then now - Retention else f.Since) ≤ row.probed_at ↔
      UnixMilli (now - Retention) ≤ row.probed_at ∧ UnixMilli f.Since ≤ row.probed_at := by
    unfold UnixMilli
    split_ifs <;> omega
  unfold Filter.wants Filter.filled
  rw [decide_eq_true_iff]
  simp only [since]
  constructor
  · rintro ⟨tunnel, ⟨kept, since⟩, untilTime, kind, status⟩
    exact ⟨tunnel, kept, since, untilTime, kind, status⟩
  · rintro ⟨tunnel, kept, since, untilTime, kind, status⟩
    exact ⟨tunnel, ⟨kept, since⟩, untilTime, kind, status⟩

/-- In a list of decreasing ids, the first ones are those from the id of the last of them on. -/
theorem take_decreasing {rows : List Row} (decreasing : rows.Pairwise (·.id > ·.id)) {n : Nat}
    (some_rows : 0 < n) (enough : n ≤ rows.length) :
    ∃ last, (rows.take n).getLast? = some last ∧ ∀ row, row ∈ rows.take n ↔ row ∈ rows ∧
      last.id ≤ row.id := by
  have nonempty : rows.take n ≠ [] := by
    intro empty
    have length := congrArg List.length empty
    rw [List.length_take, List.length_nil] at length
    omega
  refine ⟨(rows.take n).getLast nonempty, List.getLast?_eq_some_getLast nonempty, fun row => ?_⟩
  have ends := List.dropLast_concat_getLast nonempty
  rw [← List.take_append_drop n rows] at decreasing
  obtain ⟨kept, _, above⟩ := List.pairwise_append.mp decreasing
  rw [← ends] at kept
  obtain ⟨_, _, front⟩ := List.pairwise_append.mp kept
  constructor
  · intro member
    refine ⟨List.mem_of_mem_take member, ?_⟩
    rw [← ends] at member
    rcases List.mem_append.mp member with inner | last
    · exact Int.le_of_lt (front row inner _ (List.mem_singleton.mpr rfl))
    · exact Int.le_of_eq (congrArg Row.id (List.mem_singleton.mp last)).symm
  · rintro ⟨member, from_last⟩
    rw [← List.take_append_drop n rows] at member
    rcases List.mem_append.mp member with first | later
    · exact first
    · have below := above _ (List.getLast_mem nonempty) row later
      omega

/-- A page has the selected rows from `NextBefore` on, which is the id of one of them, or zero at
the end. -/
structure Filter.Cut (f : Filter) (t : Table) (page : Page) (rows : List Row) : Prop where
  records : page.Records = rows.map Row.scan
  decreasing : rows.Pairwise (·.id > ·.id)
  members : ∀ row, row ∈ rows ↔ (row ∈ t.rows ∧ f.wants row = true ∧ f.before row = true) ∧
    page.NextBefore ≤ row.id
  next : page.NextBefore = 0 ∨ ∃ row ∈ rows, row.id = page.NextBefore

theorem page_cut (limited : 0 < f.Limit) (t : Table) : ∃ rows, f.Cut t (f.page t) rows := by
  generalize chosen : (t.rows.filter fun row => f.wants row && f.before row).reverse = rows
  have decreasing : rows.Pairwise (·.id > ·.id) := by
    rw [← chosen]
    exact List.pairwise_reverse.mpr (t.ordered.filter _)
  have members (row : Row) : row ∈ rows ↔ row ∈ t.rows ∧ f.wants row = true ∧ f.before row = true := by
    rw [← chosen, List.mem_reverse, List.mem_filter, Bool.and_eq_true]
  have size : ((f.select t).map Row.scan).length = min (f.Limit.toNat + 1) rows.length := by
    rw [List.length_map, Filter.select, chosen, List.length_take]
  unfold Filter.page
  dsimp only
  rw [size]
  split_ifs with more
  · obtain ⟨last, ends, cut⟩ := take_decreasing decreasing (n := f.Limit.toNat) (by omega) (by omega)
    have kept : ((f.select t).map Row.scan).take f.Limit.toNat =
        (rows.take f.Limit.toNat).map Row.scan := by
      rw [Filter.select, chosen, ← List.map_take, List.take_take, Nat.min_eq_left (by omega)]
    have next : ((((f.select t).map Row.scan).take f.Limit.toNat).getLast?.map Prod.fst).getD 0 =
        last.id := by
      rw [kept, List.getLast?_map, ends]
      rfl
    refine ⟨rows.take f.Limit.toNat, kept, decreasing.sublist (List.take_sublist _ _),
      fun row => ?_, Or.inr ?_⟩
    · rw [cut row, members row, next]
    · exact ⟨last, List.mem_of_getLast? ends, next.symm⟩
  · have all : f.select t = rows := by
      rw [Filter.select, chosen]
      exact List.take_of_length_le (by omega)
    refine ⟨rows, by rw [all], decreasing, fun row => ?_, Or.inl rfl⟩
    rw [members row]
    refine ⟨fun found => ⟨found, ?_⟩, And.left⟩
    exact Int.le_of_lt (t.given row found.1).1

end page

/-! Page after page. -/

inductive Change where
  | insert (records : List Record)
  | delete (now : Int) (picked : Row → Bool)

def Change.apply : Change → Table → Table
  | .insert records, t => t.insert records
  | .delete now picked, t => t.delete now picked

/-- The changes since the query before, and the two readings of the clock. -/
structure Visit where
  changes : List Change
  now : Int
  later : Int

section visits

variable (f : Filter) (t : Table) (visits : Nat → Visit)

def tableAt : Nat → Table
  | 0 => t
  | k + 1 => (visits (k + 1)).changes.foldl (fun t change => change.apply t) (tableAt k)

/-- The queries of a client that follows `NextBefore`. -/
def turn : Nat → Except String Page
  | 0 => Query (visits 0).now (visits 0).later f t
  | k + 1 => do
    let page ← turn k
    Query (visits (k + 1)).now (visits (k + 1)).later { f with BeforeID := page.NextBefore }
      (tableAt t visits (k + 1))

/-- The cursor of each query. -/
def cursor (pages : Nat → Page) : Nat → Int
  | 0 => f.BeforeID
  | k + 1 => (pages k).NextBefore

end visits

section deletion

variable {t : Table} {row : Row}

theorem Change.apply_seq (change : Change) (t : Table) : t.seq ≤ (change.apply t).seq := by
  cases change with
  | insert records => exact Int.le_add_of_nonneg_right (Int.natCast_nonneg _)
  | delete now picked => exact Int.le_refl _

/-- A row that is not new was there before. -/
theorem Change.apply_old (change : Change) (old : row.id ≤ t.seq)
    (member : row ∈ (change.apply t).rows) : row ∈ t.rows := by
  cases change with
  | insert records =>
    rcases List.mem_append.mp member with there | new
    · exact there
    · exact absurd (mem_numbered new).1 (by omega)
  | delete now picked => exact List.mem_of_mem_filter member

theorem changes_old (changes : List Change) (old : row.id ≤ t.seq) :
    row.id ≤ (changes.foldl (fun t change => change.apply t) t).seq ∧
      (row ∈ (changes.foldl (fun t change => change.apply t) t).rows → row ∈ t.rows) := by
  induction changes generalizing t with
  | nil => exact ⟨old, id⟩
  | cons change rest ih =>
    obtain ⟨still, back⟩ := ih (Int.le_trans old (change.apply_seq t))
    exact ⟨still, fun member => change.apply_old old (back member)⟩

/-- A row of the first table that is in a later one was in all tables between. -/
theorem tableAt_between (visits : Nat → Visit) (first : row ∈ t.rows) {n : Nat}
    (last : row ∈ (tableAt t visits n).rows) {k : Nat} (before : k ≤ n) :
    row ∈ (tableAt t visits k).rows := by
  have old (k : Nat) : row.id ≤ (tableAt t visits k).seq := by
    induction k with
    | zero => exact (t.given row first).2
    | succ k ih => exact (changes_old _ ih).1
  induction n with
  | zero => rwa [Nat.le_zero.mp before]
  | succ n ih =>
    rcases Nat.le_succ_iff.mp before with earlier | same
    · exact ih ((changes_old _ (old n)).2 last) earlier
    · rwa [same]

end deletion

section paging

variable {f : Filter} {t : Table} {visits : Nat → Visit}

/-- Every query of the sequence, as the page that the filter with the cursor of its turn cuts. -/
def Pages (f : Filter) (t : Table) (visits : Nat → Visit) (pages : Nat → Page)
    (rows : Nat → List Row) : Prop :=
  ∀ k, turn f t visits k = .ok (pages k) ∧
    ({ f with BeforeID := cursor f pages k }.filled (visits k).now (visits k).later).Cut
      (tableAt t visits k) (pages k) (rows k)

theorem filled_limited (now later : Int) (f : Filter) : 0 < (f.filled now later).Limit := by
  simp only [Filter.filled]
  split_ifs <;> omega

variable (t visits) in
theorem exists_pages (given : f.TunnelUUID ≠ "") : ∃ pages rows, Pages f t visits pages rows := by
  have query (now later : Int) (before : Int) (t : Table) : ∃ page rows,
      Query now later { f with BeforeID := before } t = .ok page ∧
        ({ f with BeforeID := before }.filled now later).Cut t page rows := by
    obtain ⟨rows, cut⟩ := page_cut (filled_limited now later { f with BeforeID := before }) t
    exact ⟨_, rows, if_neg given, cut⟩
  have turns (k : Nat) : ∃ page, turn f t visits k = .ok page := by
    induction k with
    | zero =>
      obtain ⟨page, _, ok, _⟩ := query (visits 0).now (visits 0).later f.BeforeID t
      exact ⟨page, ok⟩
    | succ k ih =>
      obtain ⟨previous, earlier⟩ := ih
      obtain ⟨page, _, ok, _⟩ := query (visits (k + 1)).now
        (visits (k + 1)).later previous.NextBefore (tableAt t visits (k + 1))
      refine ⟨page, ?_⟩
      rw [turn, earlier]
      exact ok
  choose pages ok using turns
  have cuts (k : Nat) : ∃ rows,
      ({ f with BeforeID := cursor f pages k }.filled (visits k).now (visits k).later).Cut
        (tableAt t visits k) (pages k) rows := by
    obtain ⟨page, rows, found, cut⟩ :=
      query (visits k).now (visits k).later (cursor f pages k) (tableAt t visits k)
    have same : page = pages k := by
      have result := ok k
      cases k with
      | zero => exact Except.ok.inj (found.symm.trans result)
      | succ k =>
        rw [turn, ok k] at result
        exact Except.ok.inj (found.symm.trans result)
    exact ⟨rows, same ▸ cut⟩
  choose rows cut using cuts
  exact ⟨pages, rows, fun k => ⟨ok k, cut k⟩⟩

variable {pages : Nat → Page} {rows : Nat → List Row}

theorem before_iff (now later : Int) (f : Filter) (row : Row) :
    (f.filled now later).before row = true ↔ f.BeforeID ≤ 0 ∨ row.id < f.BeforeID := decide_eq_true_iff

namespace Pages

theorem member (found : Pages f t visits pages rows) (k : Nat) (row : Row) : row ∈ rows k ↔
    (row ∈ (tableAt t visits k).rows ∧ f.Admits (visits k).now (visits k).later row ∧
      (cursor f pages k ≤ 0 ∨ row.id < cursor f pages k)) ∧ (pages k).NextBefore ≤ row.id := by
  rw [(found k).2.members row, filled_wants, before_iff]
  refine and_congr_left fun _ => and_congr_right fun _ => and_congr_left fun _ => ?_
  exact ⟨fun admits => ⟨admits.1, admits.2, admits.3, admits.4, admits.5, admits.6⟩,
    fun admits => ⟨admits.1, admits.2, admits.3, admits.4, admits.5, admits.6⟩⟩

/-- A cursor that is not the end is the id of a row, below the cursor before. -/
theorem next_cursor (found : Pages f t visits pages rows) {k : Nat} (more : (pages k).NextBefore ≠ 0) :
    0 < (pages k).NextBefore ∧ (cursor f pages k ≤ 0 ∨ (pages k).NextBefore < cursor f pages k) := by
  obtain ⟨row, member, id⟩ := (found k).2.next.resolve_left more
  obtain ⟨⟨there, _, before⟩, _⟩ := (found.member k row).mp member
  rw [← id]
  exact ⟨((tableAt t visits k).given row there).1, before⟩

theorem exists_last (found : Pages f t visits pages rows) :
    ∃ n, (pages n).NextBefore = 0 ∧ ∀ k < n, (pages k).NextBefore ≠ 0 := by
  have some_last : ∃ n, (pages n).NextBefore = 0 := by
    by_contra endless
    have more (k : Nat) : (pages k).NextBefore ≠ 0 := fun last => endless ⟨k, last⟩
    have falls (k : Nat) : (pages k).NextBefore ≤ (pages 0).NextBefore - k := by
      induction k with
      | zero => simp
      | succ k ih =>
        have positive := (found.next_cursor (more k)).1
        have below := (found.next_cursor (more (k + 1))).2
        simp only [cursor] at below
        omega
    have positive := (found.next_cursor (more (pages 0).NextBefore.toNat)).1
    have bound := falls (pages 0).NextBefore.toNat
    omega
  exact ⟨Nat.find some_last, Nat.find_spec some_last, fun k before => Nat.find_min some_last before⟩

/-- All records up to a page are in decreasing order, and from its cursor on. -/
theorem decreasing (found : Pages f t visits pages rows) {n : Nat}
    (more : ∀ k < n, (pages k).NextBefore ≠ 0) :
    ((List.range (n + 1)).flatMap rows).Pairwise (·.id > ·.id) ∧
      ∀ row ∈ (List.range (n + 1)).flatMap rows, (pages n).NextBefore ≤ row.id := by
  induction n with
  | zero =>
    have first : (List.range (0 + 1)).flatMap rows = rows 0 := by simp
    rw [first]
    exact ⟨(found 0).2.decreasing, fun row member => ((found.member 0 row).mp member).2⟩
  | succ n ih =>
    obtain ⟨sorted, above⟩ := ih fun k before => more k (by omega)
    have split : (List.range (n + 1 + 1)).flatMap rows =
        (List.range (n + 1)).flatMap rows ++ rows (n + 1) := by
      rw [List.range_succ, List.flatMap_append]
      simp
    have positive := (found.next_cursor (more n (by omega))).1
    -- The page after is below the cursor, and all pages before are above it.
    have below (row : Row) (member : row ∈ rows (n + 1)) : row.id < (pages n).NextBefore := by
      rcases ((found.member (n + 1) row).mp member).1.2.2 with none_yet | below
      · simp only [cursor] at none_yet
        omega
      · exact below
    rw [split]
    refine ⟨List.pairwise_append.mpr ⟨sorted, (found (n + 1)).2.decreasing,
      fun row earlier row' later => ?_⟩, fun row member => ?_⟩
    · have high := above row earlier
      have low := below row' later
      omega
    · rcases List.mem_append.mp member with earlier | last
      · have high := above row earlier
        rcases (found (n + 1)).2.next with ended | ⟨low, there, id⟩
        · omega
        · have := below low there
          omega
      · exact ((found.member (n + 1) row).mp last).2

theorem complete (found : Pages f t visits pages rows) {n : Nat} (last : (pages n).NextBefore = 0)
    {row : Row} (first : row ∈ t.rows) (kept : row ∈ (tableAt t visits n).rows)
    (before : f.BeforeID ≤ 0 ∨ row.id < f.BeforeID)
    (admits : ∀ k ≤ n, f.Admits (visits k).now (visits k).later row) : ∃ k ≤ n, row ∈ rows k := by
  have there (k : Nat) (upTo : k ≤ n) : row ∈ (tableAt t visits k).rows :=
    tableAt_between visits first kept upTo
  have turns (k : Nat) (upTo : k ≤ n) : (∃ j < k, row ∈ rows j) ∨ cursor f pages k ≤ 0 ∨
      row.id < cursor f pages k := by
    induction k with
    | zero => exact Or.inr before
    | succ k ih =>
      rcases ih (by omega) with ⟨j, earlier, member⟩ | ahead
      · exact Or.inl ⟨j, by omega, member⟩
      by_cases reached : (pages k).NextBefore ≤ row.id
      · exact Or.inl ⟨k, by omega, (found.member k row).mpr ⟨⟨there k (by omega),
          admits k (by omega), ahead⟩, reached⟩⟩
      · exact Or.inr (Or.inr (Int.not_le.mp reached))
  rcases turns n (Nat.le_refl n) with ⟨j, earlier, member⟩ | ahead
  · exact ⟨j, by omega, member⟩
  · have positive := (t.given row first).1
    exact ⟨n, Nat.le_refl n, (found.member n row).mpr
      ⟨⟨there n (Nat.le_refl n), admits n (Nat.le_refl n), ahead⟩, by omega⟩⟩

end Pages

/-- A client that follows `NextBefore` reaches the end, and has then seen every row that was there and
admitted from the first query to the last, none twice, and no other rows. -/
theorem pages_complete (t : Table) (f : Filter) (given : f.TunnelUUID ≠ "") (visits : Nat → Visit) :
    ∃ pages : Nat → Page, (∀ k, turn f t visits k = .ok (pages k)) ∧
      ∃ n, (pages n).NextBefore = 0 ∧ (∀ k < n, (pages k).NextBefore ≠ 0) ∧
        ((List.range (n + 1)).flatMap fun k => (pages k).Records).Pairwise
          (fun found later => later.1 < found.1) ∧
        (∀ k ≤ n, ∀ found ∈ (pages k).Records, ∃ row ∈ (tableAt t visits k).rows, row.scan = found ∧
          f.Admits (visits k).now (visits k).later row) ∧
        ∀ row ∈ t.rows, row ∈ (tableAt t visits n).rows → (f.BeforeID ≤ 0 ∨ row.id < f.BeforeID) →
          (∀ k ≤ n, f.Admits (visits k).now (visits k).later row) →
            ∃ k ≤ n, row.scan ∈ (pages k).Records := by
  obtain ⟨pages, rows, found⟩ := exists_pages t visits given
  obtain ⟨n, last, more⟩ := found.exists_last
  have records (k : Nat) : (pages k).Records = (rows k).map Row.scan := (found k).2.records
  refine ⟨pages, fun k => (found k).1, n, last, more, ?_, fun k _ hit member => ?_,
    fun row first kept before admits => ?_⟩
  · simp only [records, ← List.map_flatMap]
    rw [List.pairwise_map]
    exact (found.decreasing more).1
  · rw [records] at member
    obtain ⟨row, there, rfl⟩ := List.mem_map.mp member
    obtain ⟨⟨present, admits, _⟩, _⟩ := (found.member k row).mp there
    exact ⟨row, present, rfl, admits⟩
  · obtain ⟨k, upTo, member⟩ := found.complete last first kept before admits
    refine ⟨k, upTo, ?_⟩
    rw [records]
    exact List.mem_map_of_mem member

end paging

/-- The table after one transaction. -/
def recorded (records : List Record) : Table :=
  Table.insert ⟨[], 0, Int.le_refl 0, List.Pairwise.nil, fun _ member => nomatch member⟩ records

def probeAt (seconds : Int) : Record := { Store.probe with Time := seconds * 1000000000 }

def fourRows : Table := recorded [probeAt 5, probeAt 1, probeAt 5, probeAt 5]

/-- Between the first page and the second a row is added and the oldest one expires. -/
def visited : Nat → Visit
  | 0 => ⟨[], 6000000000, 6000000000⟩
  | 1 =>
    ⟨[.insert [probeAt 7], .delete (Retention + 3000000000) fun _ => true], Retention + 3000000000,
      Retention + 3000000000⟩
  | _ => ⟨[], Retention + 3000000000, Retention + 3000000000⟩

def inTwos : Filter := ⟨"a", 0, 0, "", "", 0, 2⟩

/-- The pages have the rows that were there all the time. -/
theorem rows_paged : ∃ pages : Nat → Page, (∀ k, turn inTwos fourRows visited k = .ok (pages k)) ∧
    (pages 0).Records.map Prod.fst = [4, 3] ∧ (pages 1).Records.map Prod.fst = [1] ∧
      (pages 1).NextBefore = 0 ∧
    ∃ n, (pages n).NextBefore = 0 ∧ ∀ row ∈ fourRows.rows, row.id ≠ 2 →
      ∃ k ≤ n, row.scan ∈ (pages k).Records := by
  obtain ⟨pages, turns, n, last, _, _, _, complete⟩ := pages_complete fourRows inTwos (by decide) visited
  have first := Except.ok.inj (turns 0)
  have second := Except.ok.inj (turns 1)
  have continued : (pages 0).NextBefore ≠ 0 := by
    rw [← first]
    decide
  refine ⟨pages, turns, ?_, ?_, ?_, n, last, fun row member young => ?_⟩
  · rw [← first]
    decide
  · rw [← second]
    decide
  · rw [← second]
    decide
  have settled (k : Nat) : tableAt fourRows visited (k + 1) = tableAt fourRows visited 1 := by
    induction k with
    | zero => rfl
    | succ k ih => exact ih
  refine complete row member ?_ (Or.inl (by decide)) fun k _ => ?_
  · cases n with
    | zero => exact absurd last continued
    | succ n =>
      rw [settled]
      revert row
      decide
  · rw [← filled_wants]
    rcases k with _ | _ | k
    · revert row
      decide
    · revert row
      decide
    · show (inTwos.filled (Retention + 3000000000) (Retention + 3000000000)).wants row = true
      revert row
      decide

/-- A row that is one nanosecond too old is still shown, as the table keeps milliseconds. -/
theorem expired_shown :
    ∃ page, Query (Retention + 8) (Retention + 8) ⟨"a", 0, 0, "", "", 0, 50⟩
      (recorded [Store.probe]) = .ok page ∧
    ∃ found ∈ page.Records, found.2.Time < Retention + 8 - Retention ∧
      Store.probe.Time < Retention + 8 - Retention := by
  refine ⟨_, rfl, ?_⟩
  decide

end Gotun.ProbeHistory
