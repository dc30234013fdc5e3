import BlockGraph.Program.Build

namespace BlockGraph

/-- The composed form of the first identifier of `xs` that holds a separator once composed. -/
def firstInvalid (xs : List String) : Option String :=
  (xs.map Unicode.nfc).find? fun n => !Names.isValid n

@[simp] theorem firstInvalid_nil : firstInvalid [] = none := rfl

theorem firstInvalid_append (xs ys : List String) :
    firstInvalid (xs ++ ys) = (firstInvalid xs).or (firstInvalid ys) := by
  simp only [firstInvalid, List.map_append, List.find?_append]

theorem firstInvalid_eq_none {xs : List String} :
    firstInvalid xs = none ↔ ∀ x ∈ xs, Names.isValid (Unicode.nfc x) = true := by
  simp [firstInvalid, List.find?_eq_none]

/-- A span that runs forwards: its stop is not before its start. -/
def Span.Forward (s : Span) : Prop := s.start ≤ s.stop

namespace BuildM

/-- How a build step runs from every state: when `ok` holds, it returns a value satisfying `P`
and adds to the state, unless the state already holds one, the first faulty identifier among
`idents`; when `ok` fails, it stops with an error. -/
def Builds {α : Type} (x : BuildM α) (ok : Prop) (idents : List String) (P : α → Prop) : Prop :=
  ∀ st, (ok → ∃ a, x st = .ok (a, st.or (firstInvalid idents)) ∧ P a) ∧
    (¬ok → ∃ e, x st = .error e)

namespace Builds

variable {α β : Type} {x : BuildM α} {ok ok' : Prop} {ids ids' : List String} {P P' : α → Prop}

theorem congr (h : x.Builds ok ids P) (hok : ok ↔ ok') (hids : ids = ids')
    (hP : ∀ a, P a → P' a) : x.Builds ok' ids' P' := by
  subst hids
  intro st
  obtain ⟨hrun, hstop⟩ := h st
  refine ⟨fun h' => ?_, fun h' => hstop (fun h => h' (hok.1 h))⟩
  obtain ⟨a, hx, ha⟩ := hrun (hok.2 h')
  exact ⟨a, hx, hP a ha⟩

theorem pure {a : α} (h : P a) : (Pure.pure a : BuildM α).Builds True [] P := by
  intro st
  exact ⟨fun _ => ⟨a, by simp only [firstInvalid_nil, Option.or_none]; rfl, h⟩, fun h => absurd trivial h⟩

theorem throw {e : BuildError} : (MonadExcept.throw e : BuildM α).Builds False [] fun _ => True := by
  intro st
  exact ⟨False.elim, fun _ => ⟨e, rfl⟩⟩

theorem stops (h : x.Builds ok ids P) (hn : ¬ok) (hn' : ¬ok') : x.Builds ok' ids' P' := by
  intro st
  exact ⟨fun h' => absurd h' hn', fun _ => (h st).2 hn⟩

theorem bind_ok {f : α → BuildM β} {st st' : Option String} {a : α} (h : x st = .ok (a, st')) :
    (x >>= f) st = f a st' := by
  change (x st >>= fun r => f r.1 r.2) = _
  rw [h]
  rfl

theorem bind_error {f : α → BuildM β} {st : Option String} {e : BuildError} (h : x st = .error e) :
    (x >>= f) st = .error e := by
  change (x st >>= fun r => f r.1 r.2) = _
  rw [h]
  rfl

theorem bind {f : α → BuildM β} {ok₂ : Prop} {ids₂ : List String} {Q : β → Prop}
    (hx : x.Builds ok ids P) (hf : ∀ a, P a → (f a).Builds ok₂ ids₂ Q) :
    (x >>= f).Builds (ok ∧ ok₂) (ids ++ ids₂) Q := by
  intro st
  obtain ⟨hrun, hstop⟩ := hx st
  refine ⟨fun ⟨h₁, h₂⟩ => ?_, fun hn => ?_⟩
  · obtain ⟨a, hxa, ha⟩ := hrun h₁
    obtain ⟨b, hfb, hb⟩ := (hf a ha _).1 h₂
    refine ⟨b, ?_, hb⟩
    rw [bind_ok hxa, hfb, firstInvalid_append, Option.or_assoc]
  · by_cases h₁ : ok
    · obtain ⟨a, hxa, ha⟩ := hrun h₁
      obtain ⟨e, he⟩ := (hf a ha _).2 fun h₂ => hn ⟨h₁, h₂⟩
      exact ⟨e, by rw [bind_ok hxa, he]⟩
    · obtain ⟨e, he⟩ := hstop h₁
      exact ⟨e, bind_error he⟩

theorem map {f : α → β} {Q : β → Prop} (hx : x.Builds ok ids P) (hf : ∀ a, P a → Q (f a)) :
    (f <$> x).Builds ok ids Q := by
  intro st
  obtain ⟨hrun, hstop⟩ := hx st
  refine ⟨fun h => ?_, fun h => ?_⟩
  · obtain ⟨a, hxa, ha⟩ := hrun h
    refine ⟨f a, ?_, hf a ha⟩
    change (x st >>= fun r => Pure.pure (f r.1, r.2)) = _
    rw [hxa]
    rfl
  · obtain ⟨e, he⟩ := hstop h
    refine ⟨e, ?_⟩
    change (x st >>= fun r => Pure.pure (f r.1, r.2)) = _
    rw [he]
    rfl

theorem within {wrap : BuildError → BuildError} (hx : x.Builds ok ids P) :
    (BuildM.within wrap x).Builds ok ids P := by
  intro st
  obtain ⟨hrun, hstop⟩ := hx st
  refine ⟨fun h => ?_, fun h => ?_⟩
  · obtain ⟨a, hxa, ha⟩ := hrun h
    exact ⟨a, by simp only [BuildM.within, hxa], ha⟩
  · obtain ⟨e, he⟩ := hstop h
    exact ⟨wrap e, by simp only [BuildM.within, he]⟩

end Builds

end BuildM

open BuildM

theorem ident_builds (s : String) : (ident s).Builds True [s] (· = Unicode.nfc s) := by
  intro st
  refine ⟨fun _ => ⟨Unicode.nfc s, ?_, rfl⟩, fun h => absurd trivial h⟩
  by_cases hv : Names.isValid (Unicode.nfc s) = true
  · have hnone : firstInvalid [s] = none := firstInvalid_eq_none.2 (by simpa using hv)
    simp [ident, hv, hnone]
    rfl
  · have hsome : firstInvalid [s] = some (Unicode.nfc s) := by simp [firstInvalid, hv]
    simp [ident, hv, hsome]
    rfl

/-- Each element of `xs` meets `ok` given the elements `done` before it, and those of `xs` before
it. -/
def StepsOk {γ : Type} (ok : List γ → γ → Prop) : List γ → List γ → Prop
  | _, [] => True
  | done, x :: xs => ok done x ∧ StepsOk ok (done ++ [x]) xs

theorem stepsOk_fresh {γ κ : Type} (P : γ → Prop) (key : γ → κ) :
    ∀ (xs done : List γ), StepsOk (fun done x => P x ∧ key x ∉ done.map key) done xs ↔
      (∀ x ∈ xs, P x) ∧ (xs.map key).Nodup ∧ ∀ x ∈ xs, key x ∉ done.map key
  | [], _ => by simp [StepsOk]
  | x :: xs, done => by
    rw [StepsOk, stepsOk_fresh P key xs (done ++ [x])]
    simp only [List.map_append, List.map_cons, List.map_nil, List.mem_append, List.mem_singleton,
      not_or, List.forall_mem_cons, List.nodup_cons, List.mem_map]
    constructor
    · rintro ⟨⟨hp, hk⟩, hps, hnd, hfresh⟩
      exact ⟨⟨hp, hps⟩, ⟨fun ⟨y, hy, hxy⟩ => (hfresh y hy).2 hxy, hnd⟩, hk,
        fun y hy => (hfresh y hy).1⟩
    · rintro ⟨⟨hp, hps⟩, ⟨hnew, hnd⟩, hk, hfresh⟩
      exact ⟨⟨hp, hk⟩, hps, hnd, fun y hy => ⟨hfresh y hy, fun hxy => hnew ⟨y, hy, hxy⟩⟩⟩

theorem stepsOk_each {γ : Type} (P : γ → Prop) :
    ∀ (xs done : List γ), StepsOk (fun _ x => P x) done xs ↔ ∀ x ∈ xs, P x
  | [], _ => by simp [StepsOk]
  | x :: xs, done => by rw [StepsOk, stepsOk_each P xs]; simp

namespace BuildM.Builds

variable {α β γ : Type}

theorem foldlM {f : β → γ → BuildM β} {c : List γ → γ → Prop} {n : γ → List String}
    (I : List γ → β → Prop)
    (hf : ∀ done x b, I done b → (f b x).Builds (c done x) (n x) (I (done ++ [x]))) :
    ∀ (xs done : List γ) (b : β), I done b →
      (xs.foldlM f b).Builds (StepsOk c done xs) (xs.flatMap n) (I (done ++ xs))
  | [], done, b, h => (Builds.pure (by simpa using h)).congr (by simp [StepsOk]) rfl fun _ h => h
  | x :: xs, done, b, h => by
    rw [List.foldlM_cons]
    refine ((hf done x b h).bind fun b' hb' => foldlM I hf xs (done ++ [x]) b' hb').congr
      (by simp [StepsOk]) (by simp) fun _ h => by simpa using h

theorem mapM {δ : Type} {f : γ → BuildM α} {n : γ → List String} {g : α → δ} {h : γ → δ}
    {S : α → Prop} (hf : ∀ x, (f x).Builds True (n x) fun y => g y = h x ∧ S y) :
    ∀ xs : List γ, (xs.mapM f).Builds True (xs.flatMap n)
      fun ys => ys.map g = xs.map h ∧ ∀ y ∈ ys, S y
  | [] => (Builds.pure (by simp)).congr Iff.rfl rfl fun _ h => h
  | x :: xs => by
    rw [List.mapM_cons]
    refine ((hf x).bind fun y hy => (mapM hf xs).bind fun ys hys => Builds.pure ?_).congr
      (by simp) (by simp) fun _ h => h
    exact ⟨by simp [hy.1, hys.1], List.forall_mem_cons.2 ⟨hy.2, hys.2⟩⟩

theorem guard {c : Prop} [Decidable c] {e : BuildError} {m : BuildM α} {ok : Prop}
    {ids : List String} {P : α → Prop} (hm : m.Builds ok ids P) :
    (if c then (MonadExcept.throw e : BuildM PUnit) >>= (fun _ => m) else m).Builds (¬c ∧ ok) ids P := by
  by_cases hc : c
  · rw [if_pos hc]
    exact (Builds.throw.bind fun _ _ => hm).stops (by simp) (by simp [hc])
  · rw [if_neg hc]
    exact hm.congr (by simp [hc]) rfl fun _ h => h

end BuildM.Builds

theorem declare_builds {α : Type} (kind : String) (nameOf : α → String) (table : List α)
    (name : String) (x : α) :
    (declare kind nameOf table name x).Builds (name ∉ table.map nameOf) [] (· = table ++ [x]) := by
  unfold declare
  by_cases h : table.any (nameOf · == name) = true
  · rw [if_pos h]
    refine Builds.throw.stops not_false ?_
    obtain ⟨y, hy, hyn⟩ := List.any_eq_true.1 h
    simpa using ⟨y, hy, by simpa using hyn⟩
  · rw [if_neg h]
    refine (Builds.pure rfl).congr ?_ rfl fun _ h => h.symm
    simp only [List.any_eq_true, beq_iff_eq, not_exists, not_and] at h
    simpa using h

namespace BuildM.Builds

variable {β : Type} {ok : Prop} {ids : List String} {Q : β → Prop}

theorem ident_bind {s : String} {f : String → BuildM β} (hf : (f (Unicode.nfc s)).Builds ok ids Q) :
    (ident s >>= f).Builds ok (s :: ids) Q :=
  ((ident_builds s).bind fun n hn => hn ▸ hf).congr (by simp) (by simp) fun _ h => h

end BuildM.Builds

section Declarations

open BuildM

variable {γ δ κ : Type} (key : δ → κ) (ids : δ → List String) (spans : δ → List Span)
  (dkey : γ → κ) (dids : γ → List String)

/-- Declarations built from the dump entries `done`: they have the entries' keys in order, store
the composed forms of the entries' identifiers, and have spans that run forwards. -/
def DeclsBuilt (done : List γ) (acc : List δ) : Prop :=
  acc.map key = done.map dkey ∧ acc.flatMap ids = (done.flatMap dids).map Unicode.nfc ∧
    ∀ x ∈ acc, ∀ s ∈ spans x, s.Forward

/-- What one declaration step gives: the table with one declaration added, built from `d`. -/
def DeclAdded (d : γ) (acc acc' : List δ) : Prop :=
  ∃ x, acc' = acc ++ [x] ∧ key x = dkey d ∧ ids x = (dids d).map Unicode.nfc ∧
    ∀ s ∈ spans x, s.Forward

variable {key ids spans dkey dids}

theorem DeclsBuilt.snoc {done : List γ} {acc acc' : List δ} {d : γ}
    (h : DeclsBuilt key ids spans dkey dids done acc) (hd : DeclAdded key ids spans dkey dids d acc acc') :
    DeclsBuilt key ids spans dkey dids (done ++ [d]) acc' := by
  obtain ⟨x, rfl, hkey, hids, hspans⟩ := hd
  obtain ⟨hkeys, hidss, hspanss⟩ := h
  refine ⟨by simp [hkeys, hkey], by simp [hidss, hids], ?_⟩
  simp only [List.mem_append, List.mem_singleton]
  rintro y (hy | rfl)
  · exact hspanss y hy
  · exact hspans

theorem DeclsBuilt.forward {done : List γ} {acc : List δ}
    (h : DeclsBuilt key ids spans dkey dids done acc) : ∀ s ∈ acc.flatMap spans, s.Forward := by
  simp only [List.mem_flatMap]
  rintro s ⟨x, hx, hs⟩
  exact h.2.2 x hx s hs

variable (key ids spans dkey dids) in
/-- A fold declaring one entry at a time, each meeting `P` and refused when its key is taken:
it builds when every entry meets `P` and the keys are distinct. -/
theorem declFold_builds {P : γ → Prop} {f : List δ → γ → BuildM (List δ)}
    (hf : ∀ acc d, (f acc d).Builds (P d ∧ dkey d ∉ acc.map key) (dids d)
      (DeclAdded key ids spans dkey dids d acc)) (ds : List γ) :
    (ds.foldlM f []).Builds ((∀ d ∈ ds, P d) ∧ (ds.map dkey).Nodup) (ds.flatMap dids)
      (DeclsBuilt key ids spans dkey dids ds) := by
  refine (Builds.foldlM (c := fun done d => P d ∧ dkey d ∉ done.map dkey) (n := dids)
    (DeclsBuilt key ids spans dkey dids) (fun done d acc hacc => ?_) ds [] []
    ⟨rfl, rfl, by simp⟩).congr ?_ rfl fun _ h => by simpa using h
  · exact (hf acc d).congr (by rw [hacc.1]) rfl fun _ h => hacc.snoc h
  · rw [stepsOk_fresh]
    simp

end Declarations

namespace BuildM

/-- How a build that ends by reporting the first faulty identifier runs: from every state, when
`ok` holds and neither the state nor `idents` holds a faulty identifier, it returns a value
satisfying `P` and leaves no faulty identifier behind; otherwise it stops with an error. -/
def Checks {α : Type} (x : BuildM α) (ok : Prop) (idents : List String) (P : α → Prop) : Prop :=
  ∀ st, (ok ∧ st.or (firstInvalid idents) = none → ∃ a, x st = .ok (a, none) ∧ P a) ∧
    (¬(ok ∧ st.or (firstInvalid idents) = none) → ∃ e, x st = .error e)

namespace Checks

variable {α β : Type} {x : BuildM α} {ok ok' : Prop} {ids ids' : List String} {P P' : α → Prop}

theorem congr (h : x.Checks ok ids P) (hok : ok ↔ ok') (hids : ids = ids')
    (hP : ∀ a, P a → P' a) : x.Checks ok' ids' P' := by
  subst hids
  intro st
  obtain ⟨hrun, hstop⟩ := h st
  refine ⟨fun h' => ?_, fun h' => hstop fun h => h' ⟨hok.1 h.1, h.2⟩⟩
  obtain ⟨a, hx, ha⟩ := hrun ⟨hok.2 h'.1, h'.2⟩
  exact ⟨a, hx, hP a ha⟩

theorem get_bind {f : Option String → BuildM α} (hnone : (f none).Builds True [] P)
    (hsome : ∀ b st, ∃ e, f (some b) st = .error e) : (get >>= f).Checks True [] P := by
  intro st
  rw [firstInvalid_nil, Option.or_none]
  change (True ∧ st = none → ∃ a, f st st = .ok (a, none) ∧ P a) ∧
    (¬(True ∧ st = none) → ∃ e, f st st = .error e)
  cases st with
  | none =>
    obtain ⟨a, ha, hP⟩ := (hnone none).1 trivial
    exact ⟨fun _ => ⟨a, ha, hP⟩, fun h => absurd ⟨trivial, rfl⟩ h⟩
  | some b => exact ⟨fun h => absurd h.2 (by simp), fun _ => hsome b (some b)⟩

theorem set_none_bind (h : x.Checks ok ids P) (st : Option String) :
    (ok ∧ firstInvalid ids = none →
      ∃ a, (set (none : Option String) >>= fun _ => x) st = .ok (a, none) ∧ P a) ∧
      (¬(ok ∧ firstInvalid ids = none) →
        ∃ e, (set (none : Option String) >>= fun _ => x) st = .error e) := by
  have hrun : (set (none : Option String) >>= fun _ => x) st = x none := rfl
  rw [hrun]
  simpa using h none

end Checks

theorem Builds.bind_checks {α β : Type} {x : BuildM α} {ok ok₂ : Prop} {ids ids₂ : List String}
    {P : α → Prop} {f : α → BuildM β} {Q : β → Prop} (hx : x.Builds ok ids P)
    (hf : ∀ a, P a → (f a).Checks ok₂ ids₂ Q) : (x >>= f).Checks (ok ∧ ok₂) (ids ++ ids₂) Q := by
  intro st
  obtain ⟨hrun, hstop⟩ := hx st
  rw [firstInvalid_append, ← Option.or_assoc]
  refine ⟨fun ⟨⟨h₁, h₂⟩, hnone⟩ => ?_, fun hn => ?_⟩
  · obtain ⟨a, hxa, ha⟩ := hrun h₁
    obtain ⟨b, hfb, hb⟩ := (hf a ha _).1 ⟨h₂, hnone⟩
    exact ⟨b, by rw [Builds.bind_ok hxa, hfb], hb⟩
  · by_cases h₁ : ok
    · obtain ⟨a, hxa, ha⟩ := hrun h₁
      obtain ⟨e, he⟩ := (hf a ha _).2 fun ⟨h₂, hnone⟩ => hn ⟨⟨h₁, h₂⟩, hnone⟩
      exact ⟨e, by rw [Builds.bind_ok hxa, he]⟩
    · obtain ⟨e, he⟩ := hstop h₁
      exact ⟨e, Builds.bind_error he⟩

end BuildM

/-- A computation that may fail gives a value satisfying `P` when `ok` holds, and an error
otherwise. -/
def Gives {ε α : Type} (x : Except ε α) (ok : Prop) (P : α → Prop) : Prop :=
  (ok → ∃ a, x = .ok a ∧ P a) ∧ (¬ok → ∃ e, x = .error e)

namespace Gives

variable {ε α β γ : Type} {x : Except ε α} {ok ok' : Prop} {P P' : α → Prop}

theorem congr (h : Gives x ok P) (hok : ok ↔ ok') (hP : ∀ a, P a → P' a) : Gives x ok' P' :=
  ⟨fun h' => (h.1 (hok.2 h')).imp fun a ha => ⟨ha.1, hP a ha.2⟩, fun h' => h.2 (mt hok.1 h')⟩

theorem pure {a : α} (h : P a) : Gives (Pure.pure a : Except ε α) True P :=
  ⟨fun _ => ⟨a, rfl, h⟩, fun h => absurd trivial h⟩

theorem bind {f : α → Except ε β} {ok₂ : Prop} {Q : β → Prop} (hx : Gives x ok P)
    (hf : ∀ a, P a → Gives (f a) ok₂ Q) : Gives (x >>= f) (ok ∧ ok₂) Q := by
  obtain ⟨hrun, hstop⟩ := hx
  refine ⟨fun ⟨h₁, h₂⟩ => ?_, fun hn => ?_⟩
  · obtain ⟨a, rfl, ha⟩ := hrun h₁
    exact (hf a ha).1 h₂
  · by_cases h₁ : ok
    · obtain ⟨a, rfl, ha⟩ := hrun h₁
      exact (hf a ha).2 fun h₂ => hn ⟨h₁, h₂⟩
    · obtain ⟨e, rfl⟩ := hstop h₁
      exact ⟨e, rfl⟩

theorem foldlM {f : β → γ → Except ε β} {c : List γ → γ → Prop} (I : List γ → β → Prop)
    (hf : ∀ done y b, I done b → Gives (f b y) (c done y) (I (done ++ [y]))) :
    ∀ (ys done : List γ) (b : β), I done b →
      Gives (ys.foldlM f b) (StepsOk c done ys) (I (done ++ ys))
  | [], done, b, h => (Gives.pure (by simpa using h)).congr (by simp [StepsOk]) fun _ h => h
  | y :: ys, done, b, h => by
    rw [List.foldlM_cons]
    exact ((hf done y b h).bind fun b' hb' => foldlM I hf ys (done ++ [y]) b' hb').congr
      (by simp [StepsOk]) fun _ h => by simpa using h

theorem exists_ok_iff (h : Gives x ok P) : (∃ a, x = .ok a) ↔ ok := by
  refine ⟨fun ⟨a, ha⟩ => ?_, fun h' => (h.1 h').imp fun _ h => h.1⟩
  by_cases hok : ok
  · exact hok
  · obtain ⟨e, he⟩ := h.2 hok
    rw [ha] at he
    cases he

theorem of_ok (h : Gives x ok P) {a : α} (ha : x = .ok a) : ok ∧ P a := by
  have hok : ok := h.exists_ok_iff.1 ⟨a, ha⟩
  obtain ⟨b, hb, hP⟩ := h.1 hok
  rw [ha] at hb
  cases hb
  exact ⟨hok, hP⟩

theorem guard {c : Prop} [Decidable c] {e : ε} {m : Except ε α} (hm : Gives m ok P) :
    Gives (if c then (throw e : Except ε PUnit) >>= (fun _ => m) else m) (¬c ∧ ok) P := by
  by_cases hc : c
  · rw [if_pos hc]
    exact ⟨fun h => absurd hc h.1, fun _ => ⟨e, rfl⟩⟩
  · rw [if_neg hc]
    exact hm.congr (by simp [hc]) fun _ h => h

end Gives

end BlockGraph
