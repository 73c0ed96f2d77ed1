import ClubOffice.Audit.Retention
import Mathlib.Data.List.Sort

/-!
# The listing that pages are cut from

What is selected of a trail has one listing: the later time first, and of entries with the same time
the one that was written later. A page is a window on that listing, wherever it begins and however
many entries are asked for, so that the pages of any size, one after the other, show each entry that
is selected once. As entries may be equal, the listing is of entries with their places in the trail.
-/

namespace ClubOffice.Audit

open Time

/-- What a query shows of entries that are listed in the order in which they are to be shown. -/
def Query.window (query : Query) (listed : List Entry) : List Entry :=
  ((listed.filter query.selects).drop query.offset).take (Query.pageSize query.limit)

/-- The query for a page, counted from 0, of the size that a query asks for. -/
def Query.turnTo (query : Query) (number : Nat) : Query :=
  { query with offset := number * Query.pageSize query.limit }

/-- All entries, newest first. -/
def Trail.listed (trail : Trail) : List Entry :=
  sorted (fun a b => b.time ≤ a.time) trail.entries.reverse

theorem Trail.page_eq_window (trail : Trail) (query : Query) :
    trail.page query = query.window trail.listed := by
  rw [Query.window, Trail.listed, filter_sorted query.selects
    (fun a b => Instant.total_by Entry.time b a)
    (fun a b c first second => Instant.trans_by Entry.time c b a second first)]
  rfl

/-- Pages that are turned one after the other show a beginning of what is selected. -/
theorem Query.flatten_windows (query : Query) (listed : List Entry) (count : Nat) :
    ((List.range count).map fun number => (query.turnTo number).window listed).flatten =
      (listed.filter query.selects).take (count * Query.pageSize query.limit) := by
  induction count with
  | zero => simp
  | succ count ih =>
      rw [List.range_succ, List.map_append, List.flatten_append, ih, Nat.succ_mul, List.take_add]
      simp only [List.map_cons, List.map_nil, List.flatten_singleton]
      rfl

/-- Of two entries with their places in a trail, the first has the later time, or they have the same
time and the first was written later. -/
def Newer (a b : Entry × Nat) : Prop := b.1.time < a.1.time ∨ a.1.time = b.1.time ∧ b.2 < a.2

theorem newer_iff {a b : Entry × Nat} :
    Newer a b ↔ b.1.time ≤ a.1.time ∧ (a.1.time ≤ b.1.time → b.2 < a.2) := by
  rw [Newer, eq_comm, Instant.lt_or_tie_iff]

theorem Newer.asymm {a b : Entry × Nat} (newer : Newer a b) : ¬ Newer b a := by
  intro older
  rw [newer_iff] at newer older
  exact Nat.lt_asymm (newer.2 older.1) (older.2 newer.1)

instance : Std.Irrefl Newer := ⟨fun _ newer => newer.asymm newer⟩

instance : Std.Antisymm Newer := ⟨fun _ _ newer older => absurd older newer.asymm⟩

/-- A listing, newest first, of the entries of the trail that are chosen, with their places. No
entry is newer than itself, so each of them is in the listing once. -/
structure Trail.Lists (trail : Trail) (chosen : Entry → Prop) (listed : List (Entry × Nat)) :
    Prop where
  mem : ∀ entry place, (entry, place) ∈ listed ↔
    trail.entries[place]? = some entry ∧ chosen entry
  ordered : listed.Pairwise Newer

theorem Trail.Lists.unique {trail : Trail} {chosen : Entry → Prop}
    {listed other : List (Entry × Nat)}
    (lists : trail.Lists chosen listed) (lists' : trail.Lists chosen other) : other = listed :=
  lists'.ordered.eq_of_mem_iff lists.ordered fun placed =>
    (lists'.mem placed.1 placed.2).trans (lists.mem placed.1 placed.2).symm

/-- All entries with their places, newest first. -/
def Trail.placed (trail : Trail) : List (Entry × Nat) :=
  sorted (fun a b => b.1.time ≤ a.1.time) trail.entries.zipIdx.reverse

theorem Trail.map_placed (trail : Trail) : trail.placed.map (·.1) = trail.listed := by
  rw [placed, listed, ← sorted_map (fun placed : Entry × Nat => placed.1)
    (fun a b => b.time ≤ a.time), List.map_reverse, List.zipIdx_map_fst]

theorem Trail.filter_listed (trail : Trail) (kept : Entry → Bool) :
    trail.listed.filter kept = (trail.placed.filter fun placed => kept placed.1).map (·.1) := by
  rw [← map_placed, List.filter_map]
  rfl

theorem Trail.pairwise_placed (trail : Trail) : trail.placed.Pairwise Newer := by
  have given : trail.entries.zipIdx.reverse.Pairwise fun a b => b.2 < a.2 :=
    List.pairwise_reverse.2 (pairwise_place_zipIdx trail.entries)
  -- The sort keeps what was written later in front, as the entries come to it in that order.
  have ordered := pairwise_sorted_of_pairwise
    (fun a b => Instant.total_by (fun placed : Entry × Nat => placed.1.time) b a)
    (fun a b c first second =>
      Instant.trans_by (fun placed : Entry × Nat => placed.1.time) c b a second first) given
  refine ordered.imp ?_
  rintro a b ⟨notEarlier, tie⟩
  exact newer_iff.2 ⟨of_decide_eq_true notEarlier, fun back => tie (decide_eq_true back)⟩

theorem Trail.lists_placed (trail : Trail) (chosen : Entry → Prop) [DecidablePred chosen] :
    trail.Lists chosen (trail.placed.filter fun placed => chosen placed.1) where
  mem entry place := by
    rw [List.mem_filter, placed, mem_sorted, List.mem_reverse, List.mem_zipIdx_iff_getElem?,
      decide_eq_true_iff]
  ordered := trail.pairwise_placed.sublist List.filter_sublist

/-- The entries of a source and of a severity, where these are given. -/
def Chosen (source : Option String) (least : Option Severity) (entry : Entry) : Prop :=
  (∀ name ∈ source, entry.source = name) ∧ ∀ severity ∈ least, severity ≤ entry.severity

instance (source : Option String) (least : Option Severity) : DecidablePred (Chosen source least) :=
  fun _ => inferInstanceAs (Decidable (_ ∧ _))

theorem Query.selects_eq_decide (query : Query) :
    query.selects = fun entry => decide (Chosen query.source query.atLeast entry) := by
  funext entry
  rw [Bool.eq_iff_iff, decide_eq_true_iff, selects, Bool.and_eq_true, Option.all_eq_true,
    Option.all_eq_true]
  simp only [decide_eq_true_iff]
  rfl

theorem Query.pageSize_of_le {limit : Nat} (pos : 1 ≤ limit) (le_max : limit ≤ 500) :
    Query.pageSize limit = limit := by
  rw [pageSize, maxLimit, Nat.min_eq_left le_max, Nat.max_eq_right pos]

theorem Query.pageSize_pageSize (limit : Nat) :
    Query.pageSize (Query.pageSize limit) = Query.pageSize limit := by
  simp only [pageSize, maxLimit]
  omega

/-- The keeper of the trail shows operators the page that the trail has. -/
theorem run_recent (query : Query) (now : Instant) (trail : Trail) :
    (recent query).run (Trail.serve now) trail = (.ok (trail.page query), trail) := by
  have same : trail.page { query with limit := Query.pageSize query.limit } = trail.page query := by
    rw [Trail.page, Trail.page, Query.pageSize_pageSize]
    rfl
  rw [← same]
  rfl

/-- There is one listing of what is chosen. The pages are its windows, for operators too, and pages
of a size that is allowed, one after the other, show all of it. -/
theorem pages_show_each_entry_once (trail : Trail) (source : Option String)
    (least : Option Severity) :
    ∃ listed,
      trail.Lists (Chosen source least) listed ∧
      (∀ other, trail.Lists (Chosen source least) other → other = listed) ∧
      (∀ limit offset, trail.page ⟨limit, offset, source, least⟩ =
        ((listed.map (·.1)).drop offset).take (max 1 (min limit 500))) ∧
      (∀ limit offset now,
        (recent ⟨limit, offset, source, least⟩).run (Trail.serve now) trail =
          (.ok (trail.page ⟨limit, offset, source, least⟩), trail)) ∧
      ∀ size, 1 ≤ size → size ≤ 500 → ∀ count, listed.length ≤ count * size →
        ((List.range count).map fun number =>
          trail.page ⟨size, number * size, source, least⟩).flatten = listed.map (·.1) := by
  have lists := trail.lists_placed (Chosen source least)
  refine ⟨_, lists, fun _ => lists.unique, ?windows, fun _ _ now => run_recent _ now trail, ?whole⟩
  case windows =>
    intro limit offset
    rw [Trail.page_eq_window, Query.window, Query.selects_eq_decide, Trail.filter_listed]
    rfl
  case whole =>
    intro size pos le_max count enough
    have turned := Query.flatten_windows ⟨size, 0, source, least⟩ trail.listed count
    simp only [Query.turnTo, ← Trail.page_eq_window, Query.pageSize_of_le pos le_max] at turned
    rw [turned, Query.selects_eq_decide, Trail.filter_listed]
    exact List.take_of_length_le (by rwa [List.length_map])

/-- In the leap second at the end of 2016. -/
def newYear : Instant := ⟨1483228799, 1500000000, by decide, by decide, by decide, by decide⟩

def castOff : Entry := ⟨⟨.ofNat 1⟩, ⟨.ofNat 9⟩, "boats", "cast off", .warning, newYear⟩

def serveDinner : Entry := ⟨⟨.ofNat 2⟩, ⟨.ofNat 8⟩, "bar", "serve dinner", .error, newYear⟩

def rig : Entry := ⟨⟨.ofNat 3⟩, ⟨.ofNat 9⟩, "boats", "rig", .error, .epoch⟩

def moor : Entry := ⟨⟨.ofNat 4⟩, ⟨.ofNat 9⟩, "boats", "moor", .warning, newYear⟩

/-- Three entries have the same time, and a clock was behind when the one among them was
written. -/
def cruise : Trail := ⟨[castOff, serveDinner, rig, moor]⟩

/-- Two pages of two show what is grave about the boats. Who asks for no entry is shown one, and who
asks for more than a page holds is shown what is left. -/
theorem cruise_is_listed :
    cruise.Lists (Chosen (some "boats") (some .warning)) [(moor, 3), (castOff, 0), (rig, 2)] ∧
      ((List.range 2).map fun number =>
        cruise.page ⟨2, number * 2, some "boats", some .warning⟩).flatten = [moor, castOff, rig] ∧
      cruise.page ⟨0, 1, some "boats", some .warning⟩ = [castOff] ∧
      (recent ⟨501, 1, some "boats", some .warning⟩).run (Trail.serve .epoch) cruise =
        (.ok [castOff, rig], cruise) ∧
      cruise.page ⟨1, 3, some "boats", some .warning⟩ = [] := by
  have lists := cruise.lists_placed (Chosen (some "boats") (some .warning))
  have known : (cruise.placed.filter fun placed => Chosen (some "boats") (some .warning) placed.1) =
      [(moor, 3), (castOff, 0), (rig, 2)] := by decide
  rw [known] at lists
  obtain ⟨listed, _, unique, windows, shown, whole⟩ :=
    pages_show_each_entry_once cruise (some "boats") (some .warning)
  have same := unique _ lists
  subst same
  refine ⟨lists, whole 2 (by decide) (by decide) 2 (by decide), windows 0 1, ?_, windows 1 3⟩
  rw [shown, windows]
  rfl

end ClubOffice.Audit
