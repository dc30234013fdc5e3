import BlockGraph.Trace.Tracer
import Mathlib.Data.List.Induction
/-!
# A ring tracer keeps the newest events

A ring of `c` slots read oldest first gives the last `c` entries pushed, so a snapshot of a ring
tracer gives the last `min k c` of the `k` events admitted, in order.
-/

namespace BlockGraph.Trace

namespace RingBuffer

variable {α : Type} {c : Nat}

/-- The shape a ring of `c` slots keeps: its next slot is one of them, and it has written all of
them once it has wrapped, else exactly those before the next one. -/
def Fits (r : RingBuffer α) (c : Nat) : Prop :=
  r.head < c ∧ r.slots.length = if r.full then c else r.head

theorem fits_empty (hc : 0 < c) : ({} : RingBuffer α).Fits c := ⟨hc, rfl⟩

theorem length_toList {r : RingBuffer α} (h : r.Fits c) :
    r.toList.length = if r.full then c else r.head := by
  obtain ⟨hhead, hlen⟩ := h
  unfold toList
  split <;> simp_all
  omega

theorem push_fits_of_not_full {r : RingBuffer α} (h : r.Fits c) (hfull : r.full = false) (x : α) :
    (r.push c x).Fits c ∧ (r.push c x).toList = r.toList ++ [x] := by
  obtain ⟨hhead, hlen⟩ := h
  simp only [hfull, Bool.false_eq_true, if_false] at hlen
  have htoList : r.toList = r.slots := by
    rw [toList, hfull, if_neg Bool.false_ne_true, ← hlen, List.take_length]
  have hslots : (r.push c x).slots = r.slots ++ [x] := by
    simp [push, hlen]
  rw [htoList]
  by_cases hnext : r.head + 1 < c
  · -- the next slot moves on, and the ring has still not wrapped
    have hmod : (r.head + 1) % c = r.head + 1 := Nat.mod_eq_of_lt hnext
    have hpush : (r.push c x).head = r.head + 1 ∧ (r.push c x).full = false := by
      simp [push, hmod, hfull]
    refine ⟨⟨by rw [hpush.1]; exact hnext, by simp [hslots, hpush, hlen]⟩, ?_⟩
    rw [toList, hpush.2, if_neg Bool.false_ne_true, hslots, hpush.1]
    exact List.take_of_length_le (by simp; omega)
  · -- the last slot is written, and the ring wraps
    have hmod : (r.head + 1) % c = 0 := by rw [show r.head + 1 = c by omega, Nat.mod_self]
    have hpush : (r.push c x).head = 0 ∧ (r.push c x).full = true := by
      simp [push, hmod]
    refine ⟨⟨by rw [hpush.1]; omega, by simp [hslots, hpush]; omega⟩, ?_⟩
    rw [toList, hpush.2, if_pos rfl, hslots, hpush.1]
    simp

theorem push_fits_of_full {r : RingBuffer α} (h : r.Fits c) (hfull : r.full = true) (x : α) :
    (r.push c x).Fits c ∧ (r.push c x).toList = (r.toList ++ [x]).drop 1 := by
  obtain ⟨hhead, hlen⟩ := h
  simp only [hfull, if_true] at hlen
  -- the slots before the next one, the oldest entry, and the slots after it
  obtain ⟨A, y, B, hslots, hA⟩ : ∃ A y B, r.slots = A ++ y :: B ∧ A.length = r.head := by
    refine ⟨r.slots.take r.head, r.slots[r.head], r.slots.drop (r.head + 1), ?_, by simp; omega⟩
    rw [← List.drop_eq_getElem_cons, List.take_append_drop]
  have htoList : r.toList = y :: B ++ A := by
    rw [toList, hfull, if_pos rfl, hslots, ← hA]
    simp
  have hset : (r.push c x).slots = A ++ x :: B := by
    simp [push, hslots, ← hA, List.set_append_right]
  have hB : A.length + 1 + B.length = c := by
    rw [← hlen, hslots]
    simp
    omega
  rw [htoList]
  by_cases hnext : r.head + 1 < c
  · have hpush : (r.push c x).head = r.head + 1 ∧ (r.push c x).full = true := by
      simp [push, Nat.mod_eq_of_lt hnext, hfull]
    refine ⟨⟨by rw [hpush.1]; exact hnext, by simp [hset, hpush]; omega⟩, ?_⟩
    rw [toList, hpush.2, if_pos rfl, hset, hpush.1, ← hA]
    simp [List.drop_append, List.take_append, List.drop_eq_nil_of_le, List.take_of_length_le]
  · have hmod : (r.head + 1) % c = 0 := by rw [show r.head + 1 = c by omega, Nat.mod_self]
    have hpush : (r.push c x).head = 0 ∧ (r.push c x).full = true := by
      simp [push, hmod, hfull]
    have hBnil : B = [] := List.eq_nil_of_length_eq_zero (by omega)
    refine ⟨⟨by rw [hpush.1]; omega, by simp [hset, hpush]; omega⟩, ?_⟩
    rw [toList, hpush.2, if_pos rfl, hset, hpush.1, hBnil]
    simp

theorem push_fits {r : RingBuffer α} (h : r.Fits c) (x : α) :
    (r.push c x).Fits c ∧
      (r.push c x).toList = (r.toList ++ [x]).drop (r.toList.length + 1 - c) := by
  cases hfull : r.full with
  | false =>
    have hdrop : r.toList.length + 1 - c = 0 := by
      rw [length_toList h, hfull]
      have := h.1
      simp only [Bool.false_eq_true, if_false]
      omega
    rw [hdrop, List.drop_zero]
    exact push_fits_of_not_full h hfull x
  | true =>
    have hdrop : r.toList.length + 1 - c = 1 := by
      rw [length_toList h, hfull, if_pos rfl]
      omega
    rw [hdrop]
    exact push_fits_of_full h hfull x

theorem toList_pushAll (hc : 0 < c) (xs : List α) :
    (xs.foldl (fun r x => r.push c x) ({} : RingBuffer α)).Fits c ∧
      (xs.foldl (fun r x => r.push c x) ({} : RingBuffer α)).toList = xs.drop (xs.length - c) := by
  induction xs using List.reverseRecOn with
  | nil => exact ⟨fits_empty hc, by simp [toList]⟩
  | append_singleton xs x ih =>
    obtain ⟨hfits, htoList⟩ := ih
    rw [List.foldl_append, List.foldl_cons, List.foldl_nil]
    obtain ⟨hfits', htoList'⟩ := push_fits hfits x
    refine ⟨hfits', ?_⟩
    -- dropping the oldest after dropping all but the last `c` drops all but the last `c` of all
    rw [htoList', htoList, List.length_drop, ← List.drop_append_of_le_length (by omega),
      List.drop_drop, List.length_append, List.length_singleton]
    congr 1
    omega

example : ([1, 2, 3].foldl (fun r x => r.push 2 x) ({} : RingBuffer Nat)).toList = [2, 3] := by
  decide

end RingBuffer

/-! ## The ring of a ring tracer -/

/-- The records a tracer of level `l` keeps of a run of emitted events, numbered on from `seq`:
the events `l` admits, in order, the `i`-th of them numbered `seq + i + 1`, each with the span
whose extra pairs it shares. -/
def admitted (l : Level) (seq : Nat) (es : List (Event × Option Nat)) : List Record :=
  ((es.filter fun p => l.admits p.1.scope).zipIdx).map fun q =>
    { event := { q.1.1 with seq := seq + q.2 + 1 }, shared := q.1.2 }

theorem length_admitted (l : Level) (seq : Nat) (es : List (Event × Option Nat)) :
    (admitted l seq es).length = (es.filter fun p => l.admits p.1.scope).length := by
  simp [admitted]

theorem admitted_concat (l : Level) (seq : Nat) (es : List (Event × Option Nat))
    (p : Event × Option Nat) :
    admitted l seq (es ++ [p]) = admitted l seq es ++
      if l.admits p.1.scope then
        [{ event := { p.1 with seq := seq + (admitted l seq es).length + 1 }, shared := p.2 }]
      else [] := by
  rw [length_admitted]
  unfold admitted
  rw [List.filter_append]
  by_cases hp : l.admits p.1.scope <;> simp [hp, List.zipIdx_append]

theorem admitted_seq_lt (l : Level) (seq : Nat) (es : List (Event × Option Nat)) :
    (admitted l seq es).Pairwise fun a b => a.event.seq < b.event.seq := by
  have hidx : (List.range' 0 (es.filter fun p => l.admits p.1.scope).length).Pairwise (· < ·) :=
    List.pairwise_lt_range'
  rw [← List.zipIdx_map_snd, List.pairwise_map] at hidx
  rw [admitted, List.pairwise_map]
  exact hidx.imp fun h => by simp only; omega

/-- A ring tracer takes an event its level admits by drawing the next number for it and pushing
the numbered record onto its ring; any other event leaves the journal as it was. -/
theorem emit_ring (l : Level) (c : Nat) (e : Event) (shared : Option Nat) (j : Journal) :
    (Tracer.ring l c).emit e shared j =
      if l.admits e.scope then
        { j with seq := j.seq + 1,
                 ring := j.ring.push c { event := { e with seq := j.seq + 1 }, shared } }
      else j := rfl

theorem ring_emitAll (l : Level) (c : Nat) (j : Journal) (es : List (Event × Option Nat)) :
    (es.foldl (fun j p => (Tracer.ring l c).emit p.1 p.2 j) j).seq =
        j.seq + (admitted l j.seq es).length ∧
      (es.foldl (fun j p => (Tracer.ring l c).emit p.1 p.2 j) j).notes = j.notes ∧
      (es.foldl (fun j p => (Tracer.ring l c).emit p.1 p.2 j) j).ring =
        (admitted l j.seq es).foldl (fun r x => r.push c x) j.ring := by
  induction es using List.reverseRecOn with
  | nil => simp [admitted]
  | append_singleton es p ih =>
    obtain ⟨hseq, hnotes, hring⟩ := ih
    rw [List.foldl_append, List.foldl_cons, List.foldl_nil, admitted_concat, emit_ring]
    generalize es.foldl (fun j p => (Tracer.ring l c).emit p.1 p.2 j) j = jn at hseq hnotes hring
    by_cases hp : l.admits p.1.scope
    · rw [if_pos hp, if_pos hp]
      refine ⟨?_, hnotes, ?_⟩
      · show jn.seq + 1 = _
        rw [List.length_append, List.length_singleton, hseq]
        omega
      · show jn.ring.push c _ = _
        rw [List.foldl_append, List.foldl_cons, List.foldl_nil, ← hring, hseq]
    · rw [if_neg hp, if_neg hp, List.append_nil]
      exact ⟨hseq, hnotes, hring⟩

theorem shown_congr {j j' : Journal} (h : j'.notes = j.notes) : j'.shown = j.shown := by
  funext r
  simp only [Journal.shown, Journal.notesOf, h]

theorem shown_seq (j : Journal) (r : Record) : (j.shown r).seq = r.event.seq := by
  unfold Journal.shown
  split <;> rfl

theorem silent_emitAll (j : Journal) (es : List (Event × Option Nat)) :
    es.foldl (fun j p => Tracer.silent.emit p.1 p.2 j) j = j := by
  induction es with
  | nil => rfl
  | cons p es ih => exact ih

/-- A ring tracer of any level, with the capacity asked for (4096 when that is not positive),
keeps of every run of emitted events the last `min k c` of the `k` events its level admits: its
ring reads them oldest first, a snapshot shows them so, numbered in increasing order and each
with the extra pairs of the span it shares, and a dump writes exactly those, in that order. A
tracer of level `off` is silent, and its level admits no event. -/
theorem Tracer.ring_keeps_newest (level : Level) (format : Format) (output : Option String)
    (size : Int) (tree : Disk.Tree) (cwd : Disk.Location) :
    ∃ t, Tracer.new { level, mode := .ring, format, output, ringSize := size } tree cwd =
        .ok (t, tree) ∧
      ∀ (j : Journal) (es : List (Event × Option Nat)),
        let j' := es.foldl (fun j p => t.emit p.1 p.2 j) { j with ring := {} }
        let kept := admitted level j.seq es
        let newest := kept.drop (kept.length - if size ≤ 0 then 4096 else size.toNat)
        j'.ring.toList = newest ∧
          newest.length = min kept.length (if size ≤ 0 then 4096 else size.toNat) ∧
          j'.snapshot = newest.map j.shown ∧
          j'.snapshot.Pairwise (fun a b => a.seq < b.seq) ∧
          ∀ f, j'.dump f = String.join (newest.map fun r => (j.shown r).line f) := by
  by_cases hoff : level = .off
  · -- a tracer of level `off` is silent, and its level admits nothing
    refine ⟨.silent, by simp [Tracer.new, hoff], fun j es => ?_⟩
    have hkept : admitted level j.seq es = [] := by simp [admitted, hoff, Level.admits]
    simp only [silent_emitAll, hkept]
    simp [Journal.snapshot, Journal.dump, RingBuffer.toList]
  · refine ⟨.ring level (if size ≤ 0 then 4096 else size.toNat),
      by simp [Tracer.new, hoff], ?_⟩
    generalize hcapdef : (if size ≤ 0 then 4096 else size.toNat) = cap
    have hcap : 0 < cap := by rw [← hcapdef]; split <;> omega
    intro j es j' kept newest
    obtain ⟨-, hnotes, hring⟩ := ring_emitAll level cap { j with ring := {} } es
    obtain ⟨-, htoList⟩ := RingBuffer.toList_pushAll hcap kept
    have hring : j'.ring = kept.foldl (fun r x => r.push cap x) {} := hring
    have hnotes : j'.notes = j.notes := hnotes
    have hread : j'.ring.toList = newest := by rw [hring]; exact htoList
    have hsnapshot : j'.snapshot = newest.map j.shown := by
      rw [Journal.snapshot, hread, shown_congr hnotes]
    refine ⟨hread, by rw [List.length_drop]; omega, hsnapshot, ?_, fun f => ?_⟩
    · -- the newest are a part of the records kept, which are numbered in increasing order
      rw [hsnapshot, List.pairwise_map]
      refine ((admitted_seq_lt level j.seq es).sublist (List.drop_sublist _ _)).imp ?_
      intro a b hab
      rwa [shown_seq, shown_seq]
    · rw [Journal.dump, hsnapshot, List.map_map]
      rfl

end BlockGraph.Trace
