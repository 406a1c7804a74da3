import BugArchive.Command.Process
import BugArchive.Proofs.Fallible

/-! Processes step by step, and what they leave behind when they fail. -/

namespace BugArchive.Process

variable {α β : Type} {m : Process α} {f : α → Process β} {w w' : World}

lemma apply_bind_ok {x : α} (f : α → Process β) (h : m.apply w = (.ok x, w')) :
    (m >>= f).apply w = (f x).apply w' :=
  run_bind_ok f h

lemma apply_bind_error {err : Failure} (f : α → Process β) (h : m.apply w = (.error err, w')) :
    (m >>= f).apply w = (.error err, w') :=
  run_bind_error f h

lemma apply_bind_cases (m : Process α) (f : α → Process β) (w : World) :
    (∃ err w', m.apply w = (.error err, w') ∧ (m >>= f).apply w = (.error err, w')) ∨
      ∃ x w', m.apply w = (.ok x, w') ∧ (m >>= f).apply w = (f x).apply w' := by
  cases h : m.apply w with
  | mk result w' =>
    cases result with
    | error err => exact .inl ⟨err, w', rfl, apply_bind_error f h⟩
    | ok x => exact .inr ⟨x, w', rfl, apply_bind_ok f h⟩

lemma apply_bind_eq_ok {y : β} (h : (m >>= f).apply w = (.ok y, w')) :
    ∃ x v, m.apply w = (.ok x, v) ∧ (f x).apply v = (.ok y, w') := by
  rcases apply_bind_cases m f w with ⟨err, v, -, hb⟩ | ⟨x, v, hm, hb⟩
  · cases hb.symm.trans h
  · exact ⟨x, v, hm, hb.symm.trans h⟩

lemma apply_bind_eq_error {err : Failure} (h : (m >>= f).apply w = (.error err, w')) :
    m.apply w = (.error err, w') ∨ ∃ x v, m.apply w = (.ok x, v) ∧ (f x).apply v = (.error err, w')
    := by
  rcases apply_bind_cases m f w with ⟨_, v, hm, hb⟩ | ⟨x, v, hm, hb⟩
  · cases hb.symm.trans h
    exact .inl hm
  · exact .inr ⟨x, v, hm, hb.symm.trans h⟩

lemma apply_get (w : World) : (get : Process World).apply w = (.ok w, w) := rfl

lemma apply_note (log : List Log.Entry) (w : World) :
    (note log).apply w = (.ok (), { w with log := w.log ++ log }) := rfl

lemma apply_ofExcept {ε : Type} (wrap : ε → Failure) (r : Except ε α) (w : World) :
    (ofExcept wrap r).apply w = (r.mapError wrap, w) := by
  cases r <;> rfl

lemma apply_ofOutcome (o : Outcome α) (w : World) : (ofOutcome o).apply w =
    (o.result.mapError .archive, { w with log := w.log ++ o.log }) := by
  rw [ofOutcome, apply_bind_ok _ (apply_note o.log w), apply_ofExcept]

lemma apply_ofExcept_ok {ε : Type} {wrap : ε → Failure} {r : Except ε α} {x : α} (h : r = .ok x)
    (w : World) : (ofExcept wrap r).apply w = (.ok x, w) := by
  rw [apply_ofExcept, h]
  rfl

lemma apply_ofExcept_error {ε : Type} {wrap : ε → Failure} {r : Except ε α} {err : ε}
    (h : r = .error err) (w : World) : (ofExcept wrap r).apply w = (.error (wrap err), w) := by
  rw [apply_ofExcept, h]
  rfl

lemma apply_ofOutcome_ok {o : Outcome α} {x : α} (h : o.result = .ok x) (w : World) :
    (ofOutcome o).apply w = (.ok x, { w with log := w.log ++ o.log }) := by
  rw [apply_ofOutcome, h]
  rfl

lemma apply_ofOutcome_error {o : Outcome α} {err : Error} (h : o.result = .error err)
    (w : World) :
    (ofOutcome o).apply w = (.error (.archive err), { w with log := w.log ++ o.log }) := by
  rw [apply_ofOutcome, h]
  rfl

lemma apply_tryCatch_ok {x : α} (handle : Failure → Process α) (h : m.apply w = (.ok x, w')) :
    (tryCatch m handle).apply w = (.ok x, w') :=
  run_tryCatch_ok handle h

lemma apply_tryCatch_error {err : Failure} (handle : Failure → Process α)
    (h : m.apply w = (.error err, w')) : (tryCatch m handle).apply w = (handle err).apply w' :=
  run_tryCatch_error handle h

lemma apply_ofWriting (m : Writing α) (w : World) : (ofWriting m).apply w =
    ((m.apply ⟨w.disk, []⟩).1.mapError .archive,
      { w with disk := (m.apply ⟨w.disk, []⟩).2.disk }) := by
  rw [ofWriting, apply_bind_ok _ (apply_get w)]
  exact apply_ofExcept _ _ _

lemma ofWriting_eq_ok {m : Writing α} {x : α} (h : (ofWriting m).apply w = (.ok x, w')) :
    ∃ o, m.apply ⟨w.disk, []⟩ = (.ok x, o) ∧ w' = { w with disk := o.disk } := by
  rw [apply_ofWriting] at h
  cases hm : m.apply ⟨w.disk, []⟩ with
  | mk r o =>
    rw [hm] at h
    cases r with
    | error err => cases h
    | ok y =>
      cases h
      exact ⟨o, rfl, rfl⟩

lemma ofWriting_eq_error {m : Writing α} {f : Failure}
    (h : (ofWriting m).apply w = (.error f, w')) : ∃ err o, f = .archive err ∧
      m.apply ⟨w.disk, []⟩ = (.error err, o) ∧ w' = { w with disk := o.disk } := by
  rw [apply_ofWriting] at h
  cases hm : m.apply ⟨w.disk, []⟩ with
  | mk r o =>
    rw [hm] at h
    cases r with
    | error err =>
      cases h
      exact ⟨err, o, rfl, rfl, rfl⟩
    | ok y => cases h

section Disk

def KeepsDisk (m : Process α) : Prop :=
  ∀ ⦃w r w'⦄, m.apply w = (r, w') → w'.disk = w.disk

def IsAtomic (m : Process α) : Prop :=
  ∀ ⦃w err w'⦄, m.apply w = (.error err, w') → w'.disk = w.disk

lemma KeepsDisk.isAtomic (h : m.KeepsDisk) : m.IsAtomic :=
  fun _ _ _ hm => h hm

lemma keepsDisk_pure (x : α) : (pure x : Process α).KeepsDisk := by
  rintro w r w' h
  cases h
  rfl

lemma keepsDisk_throw (err : Failure) : (throw err : Process α).KeepsDisk := by
  rintro w r w' h
  cases h
  rfl

lemma keepsDisk_ofExcept {ε : Type} (wrap : ε → Failure) (r : Except ε α) :
    (ofExcept wrap r).KeepsDisk := by
  intro w r w' h
  rw [apply_ofExcept] at h
  cases h
  rfl

lemma keepsDisk_ofOutcome (o : Outcome α) : (ofOutcome o).KeepsDisk := by
  intro w r w' h
  rw [apply_ofOutcome] at h
  cases h
  rfl

lemma KeepsDisk.bind (h : m.KeepsDisk) (hf : ∀ x, (f x).KeepsDisk) : (m >>= f).KeepsDisk := by
  intro w r w' hr
  rcases apply_bind_cases m f w with ⟨err, v, hm, hb⟩ | ⟨x, v, hm, hb⟩
  · obtain ⟨rfl, rfl⟩ := Prod.mk.inj (hb.symm.trans hr)
    exact h hm
  · exact (hf x (hb.symm.trans hr)).trans (h hm)

lemma keepsDisk_get {f : World → Process β} (hf : ∀ w, (f w).KeepsDisk) :
    ((get : Process World) >>= f).KeepsDisk := by
  refine KeepsDisk.bind (fun w r w' h => ?_) hf
  cases h
  rfl

lemma isAtomic_ofWriting {m : Writing α}
    (h : ∀ o err, (m.apply o).1 = .error err → (m.apply o).2 = o) : (ofWriting m).IsAtomic := by
  intro w f w' hf
  obtain ⟨err, o, rfl, hm, rfl⟩ := ofWriting_eq_error hf
  have ho := h ⟨w.disk, []⟩ err (congrArg Prod.fst hm)
  rw [hm] at ho
  exact congrArg Outlet.disk ho

lemma KeepsDisk.bind_isAtomic (h : m.KeepsDisk) (hf : ∀ x, (f x).IsAtomic) :
    (m >>= f).IsAtomic := by
  intro w err w' hr
  rcases apply_bind_eq_error hr with hm | ⟨x, v, hm, hx⟩
  · exact h hm
  · exact (hf x hx).trans (h hm)

lemma IsAtomic.bind_of_succeeds (h : m.IsAtomic) (hf : ∀ x w, ∃ y w', (f x).apply w = (.ok y, w')) :
    (m >>= f).IsAtomic := by
  intro w err w' hr
  rcases apply_bind_eq_error hr with hm | ⟨x, v, -, hx⟩
  · exact h hm
  · obtain ⟨y, v', hy⟩ := hf x v
    cases hx.symm.trans hy

end Disk

section Print

variable {console : Console}

lemma apply_print_taken {line : String} {w : World} (h : console w.lines line = none) :
    (print console line).apply w = (.ok (), { w with lines := w.lines ++ [line] }) := by
  rw [print, apply_bind_ok _ (apply_get w), h]
  rfl

lemma apply_print_refused {line : String} {w : World} {r : Refusal}
    (h : console w.lines line = some r) : (print console line).apply w = (.error (.console r), w) := by
  rw [print, apply_bind_ok _ (apply_get w), h]
  rfl

lemma apply_prints (console : Console) (lines : List String) (w : World) :
    (∃ front line back r, lines = front ++ line :: back ∧ console (w.lines ++ front) line = some r ∧
        (lines.forM (print console)).apply w =
          (.error (.console r), { w with lines := w.lines ++ front })) ∨
      (lines.forM (print console)).apply w = (.ok (), { w with lines := w.lines ++ lines }) := by
  induction lines generalizing w with
  | nil =>
    refine .inr ?_
    rw [List.append_nil]
    rfl
  | cons line lines ih =>
    cases hc : console w.lines line with
    | some r =>
      refine .inl ⟨[], line, lines, r, rfl, by rwa [List.append_nil], ?_⟩
      rw [List.append_nil]
      exact apply_bind_error _ (apply_print_refused hc)
    | none =>
      rw [List.forM, apply_bind_ok _ (apply_print_taken hc)]
      rcases ih { w with lines := w.lines ++ [line] } with
        ⟨front, next, back, r, rfl, hr, happly⟩ | happly
      · refine .inl ⟨line :: front, next, back, r, rfl, ?_, ?_⟩
        · rw [← hr, List.append_assoc]
          rfl
        · rw [happly, List.append_assoc]
          rfl
      · refine .inr ?_
        rw [happly, List.append_assoc]
        rfl

lemma apply_prints_willing (lines : List String) (w : World) :
    (lines.forM (print .willing)).apply w = (.ok (), { w with lines := w.lines ++ lines }) := by
  rcases apply_prints .willing lines w with ⟨_, _, _, _, -, hr, -⟩ | happly
  · cases hr
  · exact happly

lemma prints_eq_error {lines : List String} {w w' : World} {f : Failure}
    (h : (lines.forM (print console)).apply w = (.error f, w')) : ∃ front line back r,
      lines = front ++ line :: back ∧ console (w.lines ++ front) line = some r ∧
        f = .console r ∧ w' = { w with lines := w.lines ++ front } := by
  rcases apply_prints console lines w with ⟨front, line, back, r, hl, hr, hp⟩ | hp
  · cases hp.symm.trans h
    exact ⟨front, line, back, r, hl, hr, rfl, rfl⟩
  · cases hp.symm.trans h

lemma keepsDisk_prints (console : Console) (lines : List String) :
    (lines.forM (print console)).KeepsDisk := by
  intro w r w' h
  rcases apply_prints console lines w with ⟨_, _, _, _, -, -, hp⟩ | hp
  · cases hp.symm.trans h
    rfl
  · cases hp.symm.trans h
    rfl

end Print

end BugArchive.Process
