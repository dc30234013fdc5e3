import Mathlib.Data.List.Induction
import Mathlib.Data.List.Nodup
import BlockGraph.Proofs.Batch.Progress
import BlockGraph.Progress.Board
/-!
# Progress only moves forward

Builds of several dumps report in any interleaving; each line follows its own build's events and
only rises, and the percentage is one exactly when every dump is finished.
-/

namespace BlockGraph.Progress

open Batch

/-- The share of a build an event's stage stands for, in tenths. -/
def eventTenths (e : Batch.Event) : Nat := stageTenths (some e.stage)

/-- Events whose stages never go back: none stands for a smaller share than one before it. -/
def Rises (S : List Batch.Event) : Prop := S.Pairwise fun a b => eventTenths a ≤ eventTenths b

/-- The stages a build reports rise from the queued event on: the share of each of its events
is one of load 1, scope 3, resolve 4, lint 6, codegen 7, in this order. -/
theorem rises_of_reported {path : String} {evs : List Batch.Event} (h : Reported path evs) :
    Rises (queuedEvent path :: evs) := by
  -- the shares of a build that runs every stage, queued event first
  have hall : ((queuedEvent path :: Stage.all.flatMap (stageEvents path)).map eventTenths) =
      [1, 1, 1, 3, 3, 4, 4, 6, 6, 7, 7] := rfl
  have hrises : ((queuedEvent path :: Stage.all.flatMap (stageEvents path)).map
      eventTenths).Pairwise (· ≤ ·) := by
    rw [hall]
    decide
  unfold Rises
  rw [← List.pairwise_map]
  cases h with
  | finished => exact hrises
  | failed done rest st text hsplit =>
    -- a failed stage stands where it would have been done
    have hsame : (queuedEvent path :: (done.flatMap (stageEvents path) ++
        [{ file := path, stage := st, status := .working },
          { file := path, stage := st, status := .error, error := some text }])).map eventTenths =
        (queuedEvent path :: (done ++ [st]).flatMap (stageEvents path)).map eventTenths := by
      simp [stageEvents, eventTenths]
    have hprefix : (done ++ [st]).flatMap (stageEvents path) <+:
        Stage.all.flatMap (stageEvents path) := by
      rw [hsplit]
      exact ⟨rest.flatMap (stageEvents path), by simp⟩
    rw [hsame]
    exact hrises.sublist ((List.cons_prefix_cons.2 ⟨rfl, hprefix⟩).map eventTenths).sublist
  | cached =>
    show [1, 1, 1, 7].Pairwise (· ≤ ·)
    decide

/-! ### One line of the board -/

/-- A line after an event for its dump: once finished, it is kept as it is. -/
def Item.follow (it : Item) (e : Batch.Event) : Item := if it.finished then it else it.update e

section Item

variable {it : Item} {e : Batch.Event} {S xs : List Batch.Event}

@[simp] theorem Item.update_path (it : Item) (e : Batch.Event) : (it.update e).path = it.path := by
  unfold Item.update
  split
  any_goals rfl
  split <;> rfl

@[simp] theorem Item.update_stage (it : Item) (e : Batch.Event) :
    (it.update e).stage = some e.stage := by
  unfold Item.update
  split
  any_goals rfl
  split <;> rfl

@[simp] theorem Item.follow_path (it : Item) (e : Batch.Event) : (it.follow e).path = it.path := by
  unfold Item.follow
  split <;> simp

@[simp] theorem Item.foldl_follow_path (it : Item) (xs : List Batch.Event) :
    (xs.foldl Item.follow it).path = it.path := by
  induction xs generalizing it with
  | nil => rfl
  | cons e xs ih => simp [ih]

theorem Item.foldl_follow_of_finished (h : it.finished = true) (xs : List Batch.Event) :
    xs.foldl Item.follow it = it := by
  induction xs with
  | nil => rfl
  | cons e xs ih => simpa [Item.follow, h] using ih

theorem stageTenths_le (s : Option Stage) : stageTenths s ≤ 7 := by
  unfold stageTenths
  split <;> omega

theorem Item.tenths_le (it : Item) : it.tenths ≤ 10 := by
  unfold Item.tenths
  split
  · exact Nat.le_refl 10
  · exact Nat.le_trans (stageTenths_le _) (by decide)

theorem Item.tenths_eq_ten_iff (it : Item) : it.tenths = 10 ↔ it.finished = true := by
  unfold Item.tenths
  split
  · simp [*]
  · have := stageTenths_le it.stage
    simp only [Bool.not_eq_true] at *
    simp only [*, Bool.false_eq_true, iff_false]
    omega

theorem Item.follow_finished_or (it : Item) (e : Batch.Event) :
    (it.follow e).finished = true ∨ (it.follow e).tenths = eventTenths e := by
  unfold Item.follow
  split
  · exact .inl ‹_›
  · -- the update moves the line into the event's stage, finished or not
    cases hfin : (it.update e).finished
    · exact .inr (by simp [Item.tenths, hfin, eventTenths])
    · exact .inl rfl

theorem Item.eventTenths_le_follow (it : Item) (e : Batch.Event) :
    eventTenths e ≤ (it.follow e).tenths := by
  rcases it.follow_finished_or e with h | h
  · rw [(Item.tenths_eq_ten_iff _).2 h]
    exact Nat.le_trans (stageTenths_le _) (by decide)
  · exact Nat.le_of_eq h.symm

theorem Item.follow_finishing (it : Item)
    (he : e.status = .error ∨ e.status = .cached ∨ e.status = .done ∧ e.stage = .codegen) :
    (it.follow e).finished = true := by
  unfold Item.follow
  split
  · assumption
  · rcases he with he | he | ⟨he, hst⟩ <;> simp [Item.update, *]

/-- A line stands below events when it is finished, or none of them stands for a smaller share
than it. -/
def Item.Below (it : Item) (S : List Batch.Event) : Prop :=
  it.finished = true ∨ ∀ e ∈ S, it.tenths ≤ eventTenths e

theorem Item.below_new (path : String) (S : List Batch.Event) : Item.Below { path } S :=
  .inr fun _ _ => Nat.zero_le _

theorem Item.Below.tenths_le_follow (h : it.Below (e :: S)) : it.tenths ≤ (it.follow e).tenths := by
  rcases h with hfin | hle
  · simp [Item.follow, hfin]
  · exact Nat.le_trans (hle e (List.mem_cons_self ..)) (it.eventTenths_le_follow e)

theorem Item.follow_below (it : Item) (hS : Rises (e :: S)) : (it.follow e).Below S := by
  rcases it.follow_finished_or e with hfin | htenths
  · exact .inl hfin
  · -- the line now stands in the event's stage, and the later events are no lower
    refine .inr fun e' he' => ?_
    rw [htenths]
    exact List.rel_of_pairwise_cons hS he'

theorem Item.Below.foldl (h : it.Below (xs ++ S)) (hS : Rises (xs ++ S)) :
    (xs.foldl Item.follow it).Below S := by
  induction xs generalizing it with
  | nil => exact h
  | cons e xs ih => exact ih (it.follow_below hS) (List.Pairwise.of_cons hS)

theorem Item.Below.tenths_le_foldl (h : it.Below xs) (hS : Rises xs) :
    it.tenths ≤ (xs.foldl Item.follow it).tenths := by
  induction xs generalizing it with
  | nil => exact Nat.le_refl _
  | cons e xs ih =>
    exact Nat.le_trans h.tenths_le_follow (ih (it.follow_below hS) (List.Pairwise.of_cons hS))

end Item

theorem Item.foldl_follow_complete {path : String} {evs : List Batch.Event}
    (hrep : Reported path evs) (it : Item) :
    ((queuedEvent path :: evs).foldl Item.follow it).finished = true := by
  obtain ⟨xs, e, rfl, he⟩ := hrep.ends_finishing
  rw [← List.cons_append, List.foldl_append, List.foldl_cons, List.foldl_nil]
  exact Item.follow_finishing _ he

theorem Item.foldl_follow_mono {path : String} {evs P Q : List Batch.Event}
    (hrep : Reported path evs) (hpre : P ++ Q <+: queuedEvent path :: evs) :
    let a := P.foldl Item.follow { path }
    let b := (P ++ Q).foldl Item.follow { path }
    (a.finished = true → b = a) ∧ a.tenths ≤ b.tenths := by
  intro a b
  have hS : Rises (P ++ Q) := (rises_of_reported hrep).sublist hpre.sublist
  have hb : b = Q.foldl Item.follow a := List.foldl_append ..
  refine ⟨fun hfin => hb.trans (Item.foldl_follow_of_finished hfin Q), ?_⟩
  rw [hb]
  exact ((Item.below_new path (P ++ Q)).foldl hS).tenths_le_foldl
    (hS.sublist (List.sublist_append_right P Q))

/-! ### The board -/

theorem lastIndexOf_eq_none_iff {items : List Item} {path : String} :
    lastIndexOf items path = none ↔ path ∉ items.map Item.path := by
  simp only [lastIndexOf, Option.map_eq_none_iff, List.getLast?_eq_none_iff,
    List.filter_eq_nil_iff, List.mem_map, not_exists, not_and, beq_iff_eq]
  constructor
  · intro h it hit hpath
    obtain ⟨i, hi⟩ := List.mem_iff_getElem?.1 hit
    exact h (it, i) (List.mem_zipIdx_iff_getElem?.2 hi) hpath
  · rintro h ⟨it, i⟩ hmem hpath
    exact h it (List.mem_of_getElem? (List.mem_zipIdx_iff_getElem?.1 hmem)) hpath

theorem lastIndexOf_path {items : List Item} {path : String} {i : Nat}
    (h : lastIndexOf items path = some i) : ∃ hi : i < items.length, items[i].path = path := by
  unfold lastIndexOf at h
  obtain ⟨⟨it, j⟩, hlast, rfl⟩ := Option.map_eq_some_iff.1 h
  obtain ⟨hmem, hpath⟩ := List.mem_filter.1 (List.mem_of_getLast? hlast)
  obtain ⟨hj, hget⟩ := List.getElem?_eq_some_iff.1 (List.mem_zipIdx_iff_getElem?.1 hmem)
  exact ⟨hj, by rw [hget]; exact beq_iff_eq.1 hpath⟩

theorem Board.apply_of_not_mem {b : Board} {e : Batch.Event}
    (h : e.file ∉ b.items.map Item.path) : b.apply e = b := by
  unfold Board.apply
  rw [lastIndexOf_eq_none_iff.2 h]

theorem Board.apply_items {b : Board} (h : (b.items.map Item.path).Nodup) (e : Batch.Event) :
    (b.apply e).items = b.items.map fun it => if it.path = e.file then it.follow e else it := by
  unfold Board.apply
  split
  · rename_i hnone
    have hnot := lastIndexOf_eq_none_iff.1 hnone
    refine ((List.map_congr_left fun it hit => if_neg fun hpath => hnot ?_).trans
      (List.map_id' _)).symm
    exact List.mem_map.2 ⟨it, hit, hpath⟩
  · rename_i i hsome
    obtain ⟨hi, hpath⟩ := lastIndexOf_path hsome
    refine List.ext_getElem (by simp) fun k hk _ => ?_
    have hk' : k < b.items.length := by simpa using hk
    -- the line at `k` has the event's path exactly when it is the line at `i`
    have hiff : i = k ↔ b.items[k].path = e.file := by
      constructor
      · rintro rfl
        exact hpath
      · intro hkpath
        have hi' : i < (b.items.map Item.path).length := by simpa using hi
        have hk'' : k < (b.items.map Item.path).length := by simpa using hk'
        have hsame : (b.items.map Item.path)[i] = (b.items.map Item.path)[k] := by
          simp [hpath, hkpath]
        exact h.getElem_inj_iff.1 hsame
    simp only [List.getElem_modify, List.getElem_map, hiff, Item.follow]

theorem Board.items_foldl_apply (title : String) {paths : List String} (hpaths : paths.Nodup)
    (es : List Batch.Event) :
    (es.foldl Board.apply (Board.new title paths)).items =
      paths.map fun path => (eventsOf es path).foldl Item.follow { path } := by
  induction es using List.reverseRecOn with
  | nil => simp [Board.new, eventsOf]
  | append_singleton es e ih =>
    have hnodup : ((es.foldl Board.apply (Board.new title paths)).items.map Item.path).Nodup := by
      rw [ih, List.map_map]
      simpa [Function.comp_def] using hpaths
    rw [List.foldl_append, List.foldl_cons, List.foldl_nil, Board.apply_items hnodup, ih,
      List.map_map]
    refine List.map_congr_left fun path _ => ?_
    simp only [Function.comp_apply, Item.foldl_follow_path, eventsOf_append, List.foldl_append]
    -- the event is for this dump or for another
    by_cases hfile : e.file = path
    · simp [eventsOf, hfile]
    · simp [eventsOf, hfile, Ne.symm hfile]

theorem sum_tenths_le (items : List Item) :
    items.foldr (fun it n => it.tenths + n) 0 ≤ 10 * items.length := by
  induction items with
  | nil => exact Nat.le_refl 0
  | cons it items ih =>
    have := it.tenths_le
    simp only [List.foldr_cons, List.length_cons]
    omega

theorem sum_tenths_eq_iff (items : List Item) :
    items.foldr (fun it n => it.tenths + n) 0 = 10 * items.length ↔
      ∀ it ∈ items, it.finished = true := by
  induction items with
  | nil => simp
  | cons it items ih =>
    have hle := it.tenths_le
    have hsum := sum_tenths_le items
    simp only [List.foldr_cons, List.length_cons, List.forall_mem_cons, ← ih,
      ← it.tenths_eq_ten_iff]
    omega

theorem Board.percent_eq_one_iff (b : Board) :
    b.percent = 1 ↔ b.items ≠ [] ∧ ∀ it ∈ b.items, it.finished = true := by
  unfold Board.percent
  cases hitems : b.items with
  | nil => simp
  | cons it rest =>
    have hd : 10 * (it :: rest).length ≠ 0 := by simp
    have hone : (1 : Rat) = mkRat 1 1 := by rw [Rat.mkRat_one]; rfl
    rw [hone, Rat.mkRat_eq_iff hd Nat.one_ne_zero, ← sum_tenths_eq_iff]
    simp only [ne_eq, reduceCtorEq, not_false_eq_true, true_and, Int.ofNat_eq_natCast]
    omega

/-- Builds not cancelled report the events of one build each, and a batch of the board's dumps
reports each queued and then all the events of its build. A board of distinct dumps fed any
interleaving of such events, each dump's queued first, lists its dumps, ignores events of other
paths, never changes a finished line nor lowers a line's share, and finishes every dump whose
build has reported all its events. So it is at one exactly when it lists dumps and all of them
are finished, and it gets there once every build has reported all its events. -/
theorem board_follows_builds (title : String) {paths : List String} (hpaths : paths.Nodup) :
    (∀ (s : Batch.Setting) (ctx : Trace.Context) (req : Batch.Request) (ws : Batch.Workspace),
        s.cancelled = false → req.progress = true →
        ∃ evs, (Batch.compile s ctx req ws).2.2.events.toList = ws.events.toList ++ evs ∧
          Reported req.path evs) ∧
      (∀ (s : Batch.Setting) (ctx : Trace.Context) (reqs : List Batch.Request)
        (ws : Batch.Workspace), s.cancelled = false → (∀ req ∈ reqs, req.progress = true) →
        reqs.map (·.path) = paths → ws.events = #[] →
        let es := (Batch.compileAll s ctx reqs ws).2.2.events.toList
        Interleaved paths es ∧ ∀ path ∈ paths, Complete es path) ∧
      (∀ (b : Board) (e : Batch.Event), e.file ∉ b.items.map Item.path → b.apply e = b) ∧
      ∀ es : List Batch.Event, Interleaved paths es →
        let board := fun xs : List Batch.Event => xs.foldl Board.apply (Board.new title paths)
        (board es).items.map Item.path = paths ∧
        (∀ es₁ es₂, es = es₁ ++ es₂ →
          List.Forall₂ (fun a b => (a.finished = true → b = a) ∧ a.tenths ≤ b.tenths)
            (board es₁).items (board es).items) ∧
        (∀ it ∈ (board es).items, Complete es it.path → it.finished = true) ∧
        ((board es).percent = 1 ↔ paths ≠ [] ∧ ∀ it ∈ (board es).items, it.finished = true) ∧
        ((∀ path ∈ paths, Complete es path) → paths ≠ [] → (board es).percent = 1) := by
  refine ⟨fun s ctx req ws hs hp => compile_reported hs ctx hp ws, ?_,
    fun b e h => Board.apply_of_not_mem h, ?_⟩
  · intro s ctx reqs ws hs hp hreqs hws es
    have hall : ∀ path ∈ paths, Complete es path := by
      intro path hpath
      rw [← hreqs] at hpath hpaths
      obtain ⟨req, hreq, rfl⟩ := List.mem_map.1 hpath
      exact compileAll_complete hs ctx hp hpaths hws req hreq
    exact ⟨interleaved_of_complete hall, hall⟩
  intro es hes board
  have hitems : ∀ xs, (board xs).items =
      paths.map fun path => (eventsOf xs path).foldl Item.follow { path } :=
    Board.items_foldl_apply title hpaths
  have hlisted : (board es).items.map Item.path = paths := by
    simp [hitems, Function.comp_def]
  have hcomplete : ∀ it ∈ (board es).items, Complete es it.path → it.finished = true := by
    rintro it hit ⟨evs, hrep, hevs⟩
    rw [hitems] at hit
    obtain ⟨path, -, rfl⟩ := List.mem_map.1 hit
    rw [Item.foldl_follow_path] at hevs
    rw [hevs]
    exact Item.foldl_follow_complete hrep _
  have hpercent : (board es).percent = 1 ↔
      paths ≠ [] ∧ ∀ it ∈ (board es).items, it.finished = true := by
    have hne : (board es).items ≠ [] ↔ paths ≠ [] := by
      rw [← hlisted]
      simp
    rw [Board.percent_eq_one_iff, hne]
  refine ⟨hlisted, ?_, hcomplete, hpercent, ?_⟩
  · -- each line follows the events of its own build, split where the stream is split
    rintro es₁ es₂ rfl
    rw [hitems, hitems, List.forall₂_map_left_iff, List.forall₂_map_right_iff,
      List.forall₂_same]
    intro path hpath
    obtain ⟨evs, hrep, hpre⟩ := hes path hpath
    rw [eventsOf_append] at hpre ⊢
    exact Item.foldl_follow_mono hrep hpre
  · intro hall hne
    refine hpercent.2 ⟨hne, fun it hit => hcomplete it hit (hall it.path ?_)⟩
    rw [← hlisted]
    exact List.mem_map_of_mem hit

/-- Two dumps built at once, one served from the cache and one whose load fails, their events
mixed: both lines finish and the board is at one. -/
theorem board_of_cached_and_failed :
    let es : List Batch.Event :=
      [queuedEvent "a.json", queuedEvent "b.json",
        { file := "a.json", stage := .load, status := .working },
        { file := "b.json", stage := .load, status := .working },
        { file := "a.json", stage := .load, status := .done },
        { file := "b.json", stage := .load, status := .error, error := some "decode" },
        { file := "a.json", stage := .codegen, status := .cached }]
    ["a.json", "b.json"].Nodup ∧ Interleaved ["a.json", "b.json"] es ∧
      (es.foldl Board.apply (Board.new "build" ["a.json", "b.json"])).percent = 1 := by
  intro es
  have hpaths : ["a.json", "b.json"].Nodup := by simp
  have hcomplete : ∀ path ∈ ["a.json", "b.json"], Complete es path := by
    simp only [List.mem_cons, List.not_mem_nil, or_false, forall_eq_or_imp, forall_eq]
    exact ⟨⟨_, Reported.cached, rfl⟩,
      ⟨_, Reported.failed [] [.scope, .resolve, .lint, .codegen] .load "decode" rfl, rfl⟩⟩
  have hinter := interleaved_of_complete hcomplete
  exact ⟨hpaths, hinter, ((board_follows_builds "build" hpaths).2.2.2 es hinter).2.2.2.2
    hcomplete (List.cons_ne_nil _ _)⟩

end BlockGraph.Progress
