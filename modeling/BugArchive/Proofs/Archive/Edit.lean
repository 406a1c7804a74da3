import BugArchive.Archive.Edit
import BugArchive.Proofs.Fallible

namespace BugArchive.Edit

variable {α β : Type}

def eval (m : Edit α) (w : Work) : Except Error α × Work :=
  StateT.run (ExceptT.run m) w

lemma apply_eq (m : Edit α) (a : Archive) :
    m.apply a = (⟨(m.eval ⟨a, []⟩).2.log, (m.eval ⟨a, []⟩).1⟩, (m.eval ⟨a, []⟩).2.archive) := rfl

lemma outcome_result (m : Edit Unit) (a : Archive) :
    (m.outcome a).result = (m.eval ⟨a, []⟩).1.map fun _ => (m.eval ⟨a, []⟩).2.archive := rfl

lemma eval_bind (m : Edit α) (f : α → Edit β) (w : Work) :
    (m >>= f).eval w =
      match m.eval w with
      | (.ok x, w) => (f x).eval w
      | (.error e, w) => (.error e, w) := by
  cases h : m.eval w with
  | mk result w' =>
    cases result with
    | ok x => exact run_bind_ok f h
    | error e => exact run_bind_error f h

lemma eval_bind_ok {m : Edit α} {f : α → Edit β} {w w' : Work} {x : α} (h : m.eval w = (.ok x, w')) :
    (m >>= f).eval w = (f x).eval w' := by
  rw [eval_bind, h]

@[simp]
lemma eval_get (w : Work) : (get : Edit Work).eval w = (.ok w, w) := rfl

@[simp]
lemma eval_note (es : List Log.Entry) (a : Archive) (log : List Log.Entry) :
    (note es).eval ⟨a, log⟩ = (.ok (), ⟨a, log ++ es⟩) := rfl

@[simp]
lemma eval_collection (f : Collection → Collection) (c : Collection) (p : Project)
    (log : List Log.Entry) : (collection f).eval ⟨⟨c, p⟩, log⟩ = (.ok (), ⟨⟨f c, p⟩, log⟩) := rfl

@[simp]
lemma eval_project (f : Project → Project) (c : Collection) (p : Project) (log : List Log.Entry) :
    (project f).eval ⟨⟨c, p⟩, log⟩ = (.ok (), ⟨⟨c, f p⟩, log⟩) := rfl

@[simp]
lemma eval_ofExcept (r : Except Error α) (w : Work) : (ofExcept r).eval w = (r, w) := by
  cases r <;> rfl

lemma eval_ofOutcome (o : Outcome α) (a : Archive) (log : List Log.Entry) :
    (ofOutcome o).eval ⟨a, log⟩ = (o.result, ⟨a, log ++ o.log⟩) := by
  rw [ofOutcome, eval_bind_ok (eval_note _ a log), eval_ofExcept]

lemma eval_forM_collection (xs : List α) (f : Collection → α → Collection) (c : Collection)
    (p : Project) (log : List Log.Entry) :
    (xs.forM fun x => collection fun c => f c x).eval ⟨⟨c, p⟩, log⟩ =
      (.ok (), ⟨⟨xs.foldl f c, p⟩, log⟩) := by
  induction xs generalizing c with
  | nil => rfl
  | cons x xs ih => rw [List.forM, eval_bind_ok (eval_collection _ c p log), ih, List.foldl_cons]

lemma eval_forM_project {xs : List α} {m : α → Edit Unit} {f : Project → α → Project}
    (h : ∀ x ∈ xs, ∀ c p log, (m x).eval ⟨⟨c, p⟩, log⟩ = (.ok (), ⟨⟨c, f p x⟩, log⟩))
    (c : Collection) (p : Project) (log : List Log.Entry) :
    (xs.forM m).eval ⟨⟨c, p⟩, log⟩ = (.ok (), ⟨⟨c, xs.foldl f p⟩, log⟩) := by
  induction xs generalizing p with
  | nil => rfl
  | cons x xs ih =>
    obtain ⟨hx, hs⟩ := List.forall_mem_cons.mp h
    rw [List.forM, eval_bind_ok (hx c p log), ih hs, List.foldl_cons]

end BugArchive.Edit
