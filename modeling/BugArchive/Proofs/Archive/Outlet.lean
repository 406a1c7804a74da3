import BugArchive.Archive.File
import BugArchive.Proofs.Disk
import BugArchive.Proofs.Fallible

/-! What writing does to the place that is written to: all of it is done by the last step. -/

namespace BugArchive

namespace Writing

variable {α β : Type} {r : Except Error α} (f : α → Writing β) (o : Outlet)

lemma apply_bind_ok {x : α} (h : r = .ok x) :
    (MonadExcept.ofExcept r >>= f : Writing β).apply o = (f x).apply o := by
  subst h
  exact run_bind_ok f rfl

lemma apply_bind_error {err : Error} (h : r = .error err) :
    (MonadExcept.ofExcept r >>= f : Writing β).apply o = (.error err, o) := by
  subst h
  exact run_bind_error f rfl

end Writing

namespace Sink

def IsReady (o : Outlet) : Sink → Prop
  | path p => o.disk.LeadsToFile p
  | stream => True

/-- Whether `o'` is `o` but for a content that its sink has been given. -/
def Has (content : List UInt8) (o o' : Outlet) : Sink → Prop
  | path p => o'.disk.read p = .ok content ∧ o'.taken = o.taken ∧ o'.disk.links = o.disk.links ∧
      ∀ place, place ≠ o.disk.target p → o'.disk.nodes.lookup place = o.disk.nodes.lookup place
  | stream => o'.disk = o.disk ∧ o'.taken = o.taken ++ content

variable {content : List UInt8} {o : Outlet} {p : String} {err : Error}

lemma apply_put_path {d : Disk} (h : o.disk.write p content = .ok d) :
    ((path p).put content).apply o = (.ok (), { o with disk := d }) :=
  (run_bind_ok _ rfl).trans (Writing.apply_bind_ok _ o h)

lemma apply_put_path_error (h : o.disk.write p content = .error err) :
    ((path p).put content).apply o = (.error err, o) :=
  (run_bind_ok _ rfl).trans (Writing.apply_bind_error _ o h)

lemma apply_put_error {sink : Sink} (h : ((sink.put content).apply o).1 = .error err) :
    (sink.put content).apply o = (.error err, o) ∧ ∃ p, err ∈ Disk.pathErrors p := by
  cases sink with
  | path p =>
    cases hw : o.disk.write p content with
    | error fault =>
      rw [apply_put_path_error hw] at h ⊢
      obtain rfl := Except.error.inj h
      exact ⟨rfl, p, Disk.write_error_mem hw⟩
    | ok d =>
      rw [apply_put_path hw] at h
      cases h
  | stream => cases h

lemma write_of_put {o' : Outlet} (h : ((path p).put content).apply o = (.ok (), o')) :
    o.disk.write p content = .ok o'.disk := by
  cases hw : o.disk.write p content with
  | error fault => cases (apply_put_path_error hw).symm.trans h
  | ok d =>
    cases (apply_put_path hw).symm.trans h
    rfl

lemma IsReady.apply_put {sink : Sink} (h : sink.IsReady o) (content : List UInt8) :
    ∃ o', (sink.put content).apply o = (.ok (), o') ∧ sink.Has content o o' := by
  cases sink with
  | path p =>
    refine ⟨_, apply_put_path (Disk.LeadsToFile.write_eq h content), ?_⟩
    exact ⟨h.read_put content, rfl, rfl, fun place hne => Disk.lookup_put_of_ne _ _ content hne⟩
  | stream => exact ⟨_, rfl, rfl, rfl⟩

end Sink

namespace Archive

variable {σ : Type} [Text.Spelled σ] [Machine] {a : Archive σ} {width : Nat} {sink : Sink} {o : Outlet}

lemma apply_writeTo_error {err : Error} (h : a.write width = .error err) :
    (a.writeTo width sink).apply o = (.error err, o) :=
  Writing.apply_bind_error _ o h

lemma apply_writeTo_ok {content : List UInt8} {note : Log.Entry}
    (h : a.write width = .ok (content, note)) :
    (a.writeTo width sink).apply o =
      (((sink.put content).apply o).1.map fun _ => note, ((sink.put content).apply o).2) := by
  refine (Writing.apply_bind_ok _ o h).trans ?_
  cases hput : (sink.put content).apply o with
  | mk result o' =>
    cases result with
    | ok u => exact run_bind_ok _ hput
    | error err => exact run_bind_error _ hput

lemma writeTo_error {err : Error} (h : ((a.writeTo width sink).apply o).1 = .error err) :
    ((a.writeTo width sink).apply o).2 = o ∧
      (a.write width = .error err ∨ ∃ p, err ∈ Disk.pathErrors p) := by
  cases hw : a.write width with
  | error fault =>
    rw [apply_writeTo_error hw] at h ⊢
    exact ⟨rfl, .inl (congrArg _ (Except.error.inj h))⟩
  | ok written =>
    rw [apply_writeTo_ok hw] at h ⊢
    cases hput : ((sink.put written.1).apply o).1 with
    | ok u =>
      rw [hput] at h
      cases h
    | error fault =>
      obtain ⟨happly, hp⟩ := Sink.apply_put_error hput
      rw [hput] at h
      obtain rfl := Except.error.inj h
      exact ⟨congrArg Prod.snd happly, .inr hp⟩

end Archive

end BugArchive
