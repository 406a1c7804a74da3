import Mathlib.Tactic.Lemma

/-! Computations that may give nothing or fail, one after the other and over lists. -/

namespace BugArchive

variable {α β ε : Type}

lemma mem_of_lookup [BEq α] [LawfulBEq α] {ps : List (α × β)} {k : α} {v : β}
    (h : ps.lookup k = some v) : (k, v) ∈ ps := by
  obtain ⟨front, back, rfl, -⟩ := List.lookup_eq_some_iff.mp h
  exact List.mem_append_right front List.mem_cons_self

lemma lookup_cons_of_ne [BEq α] [LawfulBEq α] {ps : List (α × β)} {k n : α} (v : β) (h : n ≠ k) :
    ((k, v) :: ps).lookup n = ps.lookup n := by
  rw [List.lookup_cons, beq_eq_false_iff_ne.mpr h]

section Options

variable {f : α → Option β} {x : α} {xs : List α}

lemma mapM_cons_some {ys : List β} :
    (x :: xs).mapM f = some ys ↔ ∃ y zs, f x = some y ∧ xs.mapM f = some zs ∧ ys = y :: zs := by
  rw [List.mapM_cons]
  cases f x with
  | none => simp
  | some y =>
    cases xs.mapM f with
    | none => simp
    | some zs => simp [eq_comm]

lemma exists_of_mapM_some {ys : List β} (h : xs.mapM f = some ys) {y : β} (hy : y ∈ ys) :
    ∃ x ∈ xs, f x = some y := by
  induction xs generalizing ys with
  | nil =>
    obtain rfl := Option.some.inj h
    cases hy
  | cons x xs ih =>
    obtain ⟨z, zs, hx, hs, rfl⟩ := mapM_cons_some.mp h
    rcases List.mem_cons.mp hy with rfl | hy
    · exact ⟨x, List.mem_cons_self, hx⟩
    · obtain ⟨w, hw, he⟩ := ih hs hy
      exact ⟨w, List.mem_cons_of_mem x hw, he⟩

end Options

section Excepts

variable {f : α → Except ε β} {x : α} {xs : List α}

lemma bind_eq_ok {r : Except ε α} {b : β} : r >>= f = .ok b ↔ ∃ a, r = .ok a ∧ f a = .ok b := by
  cases r with
  | error e => simp [bind, Except.bind]
  | ok a => simp [bind, Except.bind]

lemma bind_eq_error {r : Except ε α} {g : α → Except ε β} {err : ε} :
    r >>= g = .error err ↔ r = .error err ∨ ∃ a, r = .ok a ∧ g a = .error err := by
  cases r with
  | error e => simp [bind, Except.bind]
  | ok a => simp [bind, Except.bind]

lemma map_bind {γ : Type} (r : Except ε α) (f : α → Except ε β) (g : β → γ) :
    (r >>= f).map g = r >>= fun a => (f a).map g := by
  cases r <;> rfl

lemma bind_congr_ok {r : Except ε α} {f g : α → Except ε β} (h : ∀ a, r = .ok a → f a = g a) :
    r >>= f = r >>= g := by
  cases r with
  | error e => rfl
  | ok a => exact h a rfl

lemma map_eq_ok {g : α → β} {r : Except ε α} {b : β} :
    r.map g = .ok b ↔ ∃ a, r = .ok a ∧ g a = b := by
  cases r with
  | error e => simp [Except.map]
  | ok a => simp [Except.map]

lemma mapM_eq_ok {g : α → β} (h : ∀ x ∈ xs, f x = .ok (g x)) : xs.mapM f = .ok (xs.map g) := by
  induction xs with
  | nil => rfl
  | cons x xs ih =>
    rw [List.mapM_cons, h x List.mem_cons_self, ih fun y hy => h y (List.mem_cons_of_mem x hy)]
    rfl

lemma mapM_cons_ok {ys : List β} :
    (x :: xs).mapM f = .ok ys ↔ ∃ y zs, f x = .ok y ∧ xs.mapM f = .ok zs ∧ ys = y :: zs := by
  rw [List.mapM_cons]
  cases hx : f x with
  | error e => simp [bind, Except.bind]
  | ok y =>
    cases hs : xs.mapM f with
    | error e => simp [bind, Except.bind]
    | ok zs => simp [bind, Except.bind, pure, Except.pure, eq_comm]

lemma exists_of_mapM_ok {ys : List β} (h : xs.mapM f = .ok ys) {y : β} (hy : y ∈ ys) :
    ∃ x ∈ xs, f x = .ok y := by
  induction xs generalizing ys with
  | nil =>
    obtain rfl := Except.ok.inj h
    cases hy
  | cons x xs ih =>
    obtain ⟨z, zs, hx, hs, rfl⟩ := mapM_cons_ok.mp h
    rcases List.mem_cons.mp hy with rfl | hy
    · exact ⟨x, List.mem_cons_self, hx⟩
    · obtain ⟨w, hw, he⟩ := ih hs hy
      exact ⟨w, List.mem_cons_of_mem x hw, he⟩

lemma mapM_ok_of_imp {g : α → Except ε β} (h : ∀ x ∈ xs, ∀ y, f x = .ok y → g x = .ok y)
    {ys : List β} (hs : xs.mapM f = .ok ys) : xs.mapM g = .ok ys := by
  induction xs generalizing ys with
  | nil => exact hs
  | cons x xs ih =>
    obtain ⟨hx, hxs⟩ := List.forall_mem_cons.mp h
    obtain ⟨y, zs, hy, hzs, rfl⟩ := mapM_cons_ok.mp hs
    exact mapM_cons_ok.mpr ⟨y, zs, hx y hy, ih hxs hzs, rfl⟩

lemma mapM_eq_ok_iff {g : β → α} (h : ∀ x y, f x = .ok y ↔ x = g y) {ys : List β} :
    xs.mapM f = .ok ys ↔ xs = ys.map g := by
  induction xs generalizing ys with
  | nil =>
    refine ⟨fun hs => ?_, fun hs => ?_⟩
    · obtain rfl := Except.ok.inj hs
      rfl
    · rw [List.map_eq_nil_iff.mp hs.symm]
      rfl
  | cons x xs ih =>
    rw [mapM_cons_ok]
    constructor
    · rintro ⟨y, zs, hx, hs, rfl⟩
      rw [List.map_cons, ← (h x y).mp hx, ← ih.mp hs]
    · intro hs
      obtain ⟨y, zs, rfl, hx, hzs⟩ := List.map_eq_cons_iff.mp hs.symm
      exact ⟨y, zs, (h x y).mpr hx.symm, ih.mpr hzs.symm, rfl⟩

lemma mapM_succeeds_iff : (∃ ys, xs.mapM f = .ok ys) ↔ ∀ x ∈ xs, ∃ y, f x = .ok y := by
  induction xs with
  | nil => exact iff_of_true ⟨[], rfl⟩ fun x hx => by cases hx
  | cons x xs ih =>
    rw [List.forall_mem_cons, ← ih]
    constructor
    · rintro ⟨ys, h⟩
      obtain ⟨y, zs, hx, hs, -⟩ := mapM_cons_ok.mp h
      exact ⟨⟨y, hx⟩, zs, hs⟩
    · rintro ⟨⟨y, hx⟩, zs, hs⟩
      exact ⟨y :: zs, mapM_cons_ok.mpr ⟨y, zs, hx, hs, rfl⟩⟩

lemma mapM_eq_error {err : ε} : xs.mapM f = .error err ↔
    ∃ front x back, xs = front ++ x :: back ∧ (∀ w ∈ front, ∃ y, f w = .ok y) ∧
      f x = .error err := by
  induction xs with
  | nil =>
    constructor
    · intro h
      cases h
    · rintro ⟨front, x, back, h, -⟩
      exact absurd h.symm (List.append_ne_nil_of_right_ne_nil front (List.cons_ne_nil x back))
  | cons x xs ih =>
    simp only [List.mapM_cons, bind_eq_error, ih]
    constructor
    · rintro (hx | ⟨y, hx, ⟨front, z, back, rfl, hf, hz⟩ | ⟨zs, -, h⟩⟩)
      · exact ⟨[], x, xs, rfl, (fun w hw => by cases hw), hx⟩
      · exact ⟨x :: front, z, back, rfl, List.forall_mem_cons.mpr ⟨⟨y, hx⟩, hf⟩, hz⟩
      · cases h
    · rintro ⟨front, z, back, h, hf, hz⟩
      cases front with
      | nil =>
        obtain ⟨rfl, rfl⟩ := List.cons.inj h
        exact .inl hz
      | cons w front =>
        obtain ⟨rfl, rfl⟩ := List.cons.inj h
        obtain ⟨⟨y, hx⟩, hf⟩ := List.forall_mem_cons.mp hf
        exact .inr ⟨y, hx, .inl ⟨front, z, back, rfl, hf, hz⟩⟩

lemma mapM_eq_error_of_mem {err : ε} (h : ∀ x ∈ xs, (∃ y, f x = .ok y) ∨ f x = .error err)
    (hx : ∃ x ∈ xs, f x = .error err) : xs.mapM f = .error err := by
  cases hm : xs.mapM f with
  | ok ys =>
    obtain ⟨x, hx, he⟩ := hx
    obtain ⟨y, hy⟩ := mapM_succeeds_iff.mp ⟨ys, hm⟩ x hx
    rw [he] at hy
    cases hy
  | error other =>
    obtain ⟨front, x, back, rfl, -, he⟩ := mapM_eq_error.mp hm
    obtain ⟨y, hy⟩ | hx := h x (List.mem_append_right front List.mem_cons_self)
    · rw [he] at hy
      cases hy
    · exact congrArg _ (Except.error.inj (he.symm.trans hx))

lemma mapM_eq_error_find? {p : α → Prop} [DecidablePred p] {g : α → ε} {err : ε}
    (hok : ∀ x ∈ xs, p x → ∃ y, f x = .ok y) (herr : ∀ x ∈ xs, ¬ p x → f x = .error (g x)) :
    xs.mapM f = .error err ↔ (xs.find? fun x => ¬ p x).map g = some err := by
  induction xs with
  | nil => simp [pure, Except.pure]
  | cons x xs ih =>
    obtain ⟨hx, hs⟩ := List.forall_mem_cons.mp hok
    obtain ⟨ex, es⟩ := List.forall_mem_cons.mp herr
    rw [List.mapM_cons]
    by_cases h : p x
    · obtain ⟨y, hy⟩ := hx h
      have hhead : (x :: xs).find? (fun x => ¬ p x) = xs.find? fun x => ¬ p x :=
        List.find?_cons_of_neg (by simpa using h)
      rw [hy, hhead, ← ih hs es]
      change (xs.mapM f >>= fun ys => .ok (y :: ys)) = .error err ↔ xs.mapM f = .error err
      refine bind_eq_error.trans (or_iff_left ?_)
      rintro ⟨zs, -, h⟩
      cases h
    · have hhead : (x :: xs).find? (fun x => ¬ p x) = some x :=
        List.find?_cons_of_pos (by simpa using h)
      rw [ex h, hhead]
      simp [bind, Except.bind]

end Excepts

section States

variable {σ : Type} {m : ExceptT ε (StateM σ) α} {s t : σ}

lemma run_bind_ok {x : α} (f : α → ExceptT ε (StateM σ) β) (h : m.run.run s = (.ok x, t)) :
    (m >>= f).run.run s = (f x).run.run t := by
  change (ExceptT.bindCont f (m.run.run s).1).run (m.run.run s).2 = _
  rw [h]
  rfl

lemma run_bind_error {err : ε} (f : α → ExceptT ε (StateM σ) β) (h : m.run.run s = (.error err, t)) :
    (m >>= f).run.run s = (.error err, t) := by
  change (ExceptT.bindCont f (m.run.run s).1).run (m.run.run s).2 = _
  rw [h]
  rfl

lemma run_tryCatch_ok {x : α} (handle : ε → ExceptT ε (StateM σ) α)
    (h : m.run.run s = (.ok x, t)) : (tryCatch m handle).run.run s = (.ok x, t) := by
  change StateT.run m s = _ at h
  simp only [tryCatch, tryCatchThe, MonadExceptOf.tryCatch, ExceptT.tryCatch, ExceptT.run_mk,
    StateT.run_bind, h]
  rfl

lemma run_tryCatch_error {err : ε} (handle : ε → ExceptT ε (StateM σ) α)
    (h : m.run.run s = (.error err, t)) :
    (tryCatch m handle).run.run s = (handle err).run.run t := by
  change StateT.run m s = _ at h
  simp only [tryCatch, tryCatchThe, MonadExceptOf.tryCatch, ExceptT.tryCatch, ExceptT.run_mk,
    StateT.run_bind, h]
  rfl

end States

end BugArchive
