import Mathlib.Data.Prod.Lex
import Mathlib.Data.List.Induction
import BlockGraph.Proofs.Batch.Failures

namespace BlockGraph

/-- What the reporter compares to tell a repeat: code, severity, span and message. -/
def Diagnostic.reportKey (d : Diagnostic) : Code × Severity × Span × String :=
  (d.code, d.severity, d.primary, d.message)

/-- Where a finding stands in report order: by file, start, stop, severity (the most severe
first) and code, compared in that order. -/
def Diagnostic.orderKey (d : Diagnostic) : ℕ ×ₗ ℕ ×ₗ ℕ ×ₗ ℕᵒᵈ ×ₗ ℕ :=
  toLex (d.primary.file, toLex (d.primary.start, toLex (d.primary.stop,
    toLex (OrderDual.toDual d.severity.level, d.code.value))))

/-- The reports of a run that repeat no earlier report, in report order: a report is kept when
no report before it has its code, severity, span and message. -/
def firstReports (ds : List Diagnostic) : List Diagnostic :=
  (ds.zipIdx.filter fun (p : Diagnostic × Nat) =>
    decide (∀ e ∈ ds.take p.2, e.reportKey ≠ p.1.reportKey)).map Prod.fst

theorem Code.beq_iff {a b : Code} : (a == b) = true ↔ a = b := by
  obtain ⟨a⟩ := a
  obtain ⟨b⟩ := b
  show (a == b) = true ↔ _
  simp

theorem Severity.beq_iff {a b : Severity} : (a == b) = true ↔ a = b := by
  obtain ⟨a⟩ := a
  obtain ⟨b⟩ := b
  show (a == b) = true ↔ _
  simp

theorem Span.beq_iff {a b : Span} : (a == b) = true ↔ a = b := by
  obtain ⟨f, s, t⟩ := a
  obtain ⟨f', s', t'⟩ := b
  show (f == f' && (s == s' && t == t')) = true ↔ _
  simp

theorem Diagnostic.repeats_iff {d e : Diagnostic} :
    d.repeats e = true ↔ d.reportKey = e.reportKey := by
  simp [Diagnostic.repeats, Diagnostic.reportKey, Code.beq_iff, Severity.beq_iff, Span.beq_iff,
    and_assoc]

/-! ## The first reports of a run -/

@[simp] theorem firstReports_nil : firstReports [] = [] := rfl

theorem firstReports_concat (ps : List Diagnostic) (d : Diagnostic) :
    firstReports (ps ++ [d]) =
      firstReports ps ++ if ∀ e ∈ ps, e.reportKey ≠ d.reportKey then [d] else [] := by
  -- the reports before the last see the same earlier reports in `ps ++ [d]` as in `ps`
  have hearlier : ∀ p ∈ ps.zipIdx, (ps ++ [d]).take p.2 = ps.take p.2 := by
    intro p hp
    exact List.take_append_of_le_length (Nat.le_of_lt (List.snd_lt_of_mem_zipIdx hp))
  unfold firstReports
  rw [List.zipIdx_append, List.filter_append, List.filter_congr fun p hp => by rw [hearlier p hp]]
  have hlast : (ps ++ [d]).take ps.length = ps := List.take_left' rfl
  simp only [List.zipIdx_singleton, Nat.zero_add, List.filter_cons, List.filter_nil, hlast]
  split <;> simp_all

theorem exists_firstReports_iff (ps : List Diagnostic) (k : Code × Severity × Span × String) :
    (∃ f ∈ firstReports ps, f.reportKey = k) ↔ ∃ e ∈ ps, e.reportKey = k := by
  induction ps using List.reverseRecOn with
  | nil => simp
  | append_singleton ps d ih =>
    rw [firstReports_concat]
    split
    · simp only [List.mem_append, List.mem_singleton, or_and_right, exists_or,
        exists_eq_left, ih]
    · rename_i hrepeat
      obtain ⟨e, he, hkey⟩ : ∃ e ∈ ps, e.reportKey = d.reportKey := by simpa using hrepeat
      simp only [List.append_nil, ih, List.mem_append, List.mem_singleton, or_and_right, exists_or,
        exists_eq_left]
      exact ⟨.inl, fun h => h.elim id fun hd => ⟨e, he, hkey.trans hd⟩⟩

/-! ## The reporter's run into a fresh bag -/

theorem Bag.push_take {b : Bag} {fs : List Diagnostic} (h : b.items = fs.take b.limit)
    (d : Diagnostic) : (b.push d).items = (fs ++ [d]).take b.limit := by
  by_cases hroom : fs.length < b.limit
  · have hitems : b.items = fs := by rw [h, List.take_of_length_le (Nat.le_of_lt hroom)]
    rw [Bag.push_of_room d (by rw [hitems]; exact hroom), hitems,
      List.take_of_length_le (by simp; omega)]
  · have hfull : b.items.length ≥ b.limit := by rw [h, List.length_take]; omega
    rw [List.take_append_of_le_length (by omega), ← h]
    simp [Bag.push, Bag.add, hfull]

theorem Reporter.reportAll_concat (r : Reporter) (ps : List Diagnostic) (d : Diagnostic) :
    r.reportAll (ps ++ [d]) = (r.reportAll ps).report d := by
  simp [Reporter.reportAll, List.foldl_append]

/-- The run of a reporter with nothing seen into a bag with nothing in it: it has seen the first
reports of the run, latest first, and the bag holds as many of them as its limit allows. -/
theorem Reporter.reportAll_fresh (b : Bag) (hb : b.items = []) (ds : List Diagnostic) :
    (({ bag := b } : Reporter).reportAll ds).seen = (firstReports ds).reverse ∧
      (({ bag := b } : Reporter).reportAll ds).bag.items = (firstReports ds).take b.limit := by
  induction ds using List.reverseRecOn with
  | nil => simp [hb]
  | append_singleton ps d ih =>
    obtain ⟨hseen, hitems⟩ := ih
    have hlimit : (({ bag := b } : Reporter).reportAll ps).bag.limit = b.limit :=
      reportAll_limit _ _
    -- the reporter has seen a repeat of `d` exactly when `ps` holds one
    have hrepeat : ((({ bag := b } : Reporter).reportAll ps).seen.any (·.repeats d)) =
        decide (∃ e ∈ ps, e.reportKey = d.reportKey) := by
      rw [hseen, Bool.eq_iff_iff, List.any_eq_true, decide_eq_true_iff, ← exists_firstReports_iff]
      simp [Diagnostic.repeats_iff]
    rw [reportAll_concat, firstReports_concat, report, hrepeat]
    by_cases hnew : ∀ e ∈ ps, e.reportKey ≠ d.reportKey
    · have hnone : ¬ ∃ e ∈ ps, e.reportKey = d.reportKey := by
        rintro ⟨e, he, hk⟩
        exact hnew e he hk
      rw [if_pos hnew, decide_eq_false hnone, if_neg Bool.false_ne_true]
      refine ⟨by simp [hseen], ?_⟩
      rw [← hlimit]
      exact Bag.push_take (hitems.trans (by rw [hlimit])) d
    · have hsome : ∃ e ∈ ps, e.reportKey = d.reportKey := by simpa using hnew
      rw [if_neg hnew, decide_eq_true hsome, if_pos rfl, List.append_nil]
      exact ⟨hseen, hitems⟩

/-! ## Sorting a bag -/

namespace Bag

theorem before_iff (d e : Diagnostic) : before d e = true ↔ d.orderKey < e.orderKey := by
  simp only [before, Diagnostic.orderKey, Prod.Lex.toLex_lt_toLex, OrderDual.toDual_lt_toDual]
  split_ifs <;> simp_all

theorem sortOrder_iff (d e : Diagnostic) : (!before e d) = true ↔ d.orderKey ≤ e.orderKey := by
  rw [Bool.not_eq_true', ← Bool.not_eq_true, before_iff, not_lt]

theorem sortOrder_trans (a b c : Diagnostic) (hab : (!before b a) = true)
    (hbc : (!before c b) = true) : (!before c a) = true := by
  rw [sortOrder_iff] at *
  exact le_trans hab hbc

theorem sortOrder_total (a b : Diagnostic) : (!before b a || !before a b) = true := by
  rw [Bool.or_eq_true, sortOrder_iff, sortOrder_iff]
  exact le_total _ _

theorem sort_perm (b : Bag) : b.sort.items.Perm b.items := List.mergeSort_perm _ _

theorem sort_pairwise (b : Bag) : b.sort.items.Pairwise fun d e => d.orderKey ≤ e.orderKey :=
  (List.pairwise_mergeSort sortOrder_trans sortOrder_total b.items).imp
    fun h => (sortOrder_iff _ _).1 h

theorem sort_stable (b : Bag) (k : ℕ ×ₗ ℕ ×ₗ ℕ ×ₗ ℕᵒᵈ ×ₗ ℕ) :
    b.sort.items.filter (fun d => d.orderKey = k) = b.items.filter fun d => d.orderKey = k := by
  -- the findings of key `k` may stand in any order among themselves, so merge sort keeps theirs
  have hsame :
      (b.items.filter fun d => d.orderKey = k).Pairwise fun d e => (!before e d) = true := by
    refine List.pairwise_of_forall_mem_list fun d hd e he => (sortOrder_iff d e).2 ?_
    rw [(by simpa using (List.mem_filter.1 hd).2 : d.orderKey = k),
      (by simpa using (List.mem_filter.1 he).2 : e.orderKey = k)]
  have hsub := List.sublist_mergeSort sortOrder_trans sortOrder_total hsame List.filter_sublist
  have hsub' : (b.items.filter fun d => d.orderKey = k).Sublist
      (b.sort.items.filter fun d => d.orderKey = k) := by
    simpa [List.filter_filter, sort] using hsub.filter (fun d => decide (d.orderKey = k))
  have hlen := ((sort_perm b).filter fun d => decide (d.orderKey = k)).length_eq
  exact (hsub'.eq_of_length hlen.symm).symm

@[simp] theorem countAtLeast_sort (b : Bag) (level : Nat) :
    b.sort.countAtLeast level = b.countAtLeast level :=
  ((sort_perm b).filter _).length_eq

end Bag

/-- What a run of reports leaves in a fresh bag, through a reporter that drops repeats: the
first reports of the run that repeat no earlier one, as many as the bag's limit allows (100 when
the limit asked for is not positive), in report order, each with its notes. Sorting the bag
then permutes them into the order of their order keys, keeps the order of the findings of one
key, and keeps what the bag counts. -/
theorem Reporter.collects_first_reports (m : Int) (ds : List Diagnostic) :
    let bag := (({ bag := Bag.empty m } : Reporter).reportAll ds).bag
    bag.items = (firstReports ds).take (if 0 < m then m.toNat else 100) ∧
      bag.sort.items.Perm bag.items ∧
      bag.sort.items.Pairwise (fun d e => d.orderKey ≤ e.orderKey) ∧
      (∀ k, bag.sort.items.filter (fun d => d.orderKey = k) =
        bag.items.filter fun d => d.orderKey = k) ∧
      bag.sort.hasErrors = bag.hasErrors ∧ bag.sort.errorCount = bag.errorCount ∧
      bag.sort.hasWarnings = bag.hasWarnings := by
  intro bag
  have hlimit : (Bag.empty m).limit = if 0 < m then m.toNat else 100 := by
    simp only [Bag.empty]
    split_ifs <;> omega
  refine ⟨?_, Bag.sort_perm bag, Bag.sort_pairwise bag, Bag.sort_stable bag, ?_, ?_, ?_⟩
  · rw [← hlimit]
    exact (reportAll_fresh _ rfl ds).2
  all_goals simp [Bag.hasErrors, Bag.errorCount, Bag.hasWarnings]

end BlockGraph
