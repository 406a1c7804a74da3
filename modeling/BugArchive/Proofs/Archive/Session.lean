import BugArchive.Proofs.Archive.Fault
import Mathlib.Data.List.Infix
import Mathlib.Data.List.Induction

namespace BugArchive

structure Session where
  archive : Archive
  outlet : Outlet

namespace Session

inductive Step where
  | add (k : PathKind) (path : String)
  | setModified (modified : Bool)
  | read (r : Registry) (source : Archive.Source)
  | write (width : Nat) (sink : Sink)
  | apart (collection : Collection) (outlet : Outlet)

inductive Mark where
  | set (modified : Bool)
  | added
  | none
deriving DecidableEq

def project (s : Session) : Project :=
  s.archive.project

def Step.run [Machine] (s : Session) : Step → Session
  | add k path => { s with archive.project := (s.project.add k path).2 }
  | setModified modified => { s with archive.project := s.project.setModified modified }
  | read r source => { s with archive := ((Archive.readFrom r s.outlet.disk source).apply s.archive).2 }
  | write width sink => { s with outlet := ((s.archive.writeTo width sink).apply s.outlet).2 }
  | apart collection outlet => ⟨⟨collection, s.project⟩, outlet⟩

def Step.mark [Machine] (s : Session) : Step → Mark
  | add k path => if (s.project.add k path).1 then .added else .none
  | setModified modified => .set modified
  | read r source =>
    match ((Archive.readFrom r s.outlet.disk source).apply s.archive).1.result with
    | .ok () => .set false
    | .error _ => .none
  | write .. | apart .. => .none

def run [Machine] (s : Session) (steps : List Step) : Session :=
  steps.foldl Step.run s

def marks [Machine] (s : Session) : List Step → List Mark
  | [] => []
  | step :: steps => step.mark s :: marks (step.run s) steps

namespace Mark

def Sets (m : Mark) : Prop :=
  ∃ modified, m = .set modified

def Raises (m : Mark) : Prop :=
  m = .set true ∨ m = .added

def IsUp (ms : List Mark) : Prop :=
  ∃ front m back, ms = front ++ m :: back ∧ m.Raises ∧ ∀ x ∈ back, ¬ x.Sets

def apply (modified : Bool) : Mark → Bool
  | set modified => modified
  | added => true
  | none => modified

lemma isUp_append (ms : List Mark) (n : Mark) :
    IsUp (ms ++ [n]) ↔ n.Raises ∨ ¬ n.Sets ∧ IsUp ms := by
  constructor
  · rintro ⟨front, m, back, h, hr, hback⟩
    rcases List.eq_nil_or_concat back with rfl | ⟨rest, x, rfl⟩
    · obtain rfl := List.singleton_inj.mp (List.append_inj' h rfl).2
      exact .inl hr
    · rw [List.concat_eq_append] at h hback
      rw [← List.cons_append, ← List.append_assoc] at h
      obtain ⟨rfl, hn⟩ := List.append_inj' h rfl
      obtain rfl := List.singleton_inj.mp hn
      exact .inr ⟨hback n (by simp), front, m, rest, rfl, hr,
        fun x hx => hback x (List.mem_append_left _ hx)⟩
  · rintro (hr | ⟨hn, front, m, back, rfl, hr, hback⟩)
    · exact ⟨ms, n, [], rfl, hr, fun x hx => by cases hx⟩
    · refine ⟨front, m, back ++ [n], by simp, hr, fun x hx => ?_⟩
      rcases List.mem_append.mp hx with hx | hx
      · exact hback x hx
      · rwa [List.mem_singleton.mp hx]

lemma foldl_apply_iff (b : Bool) (ms : List Mark) :
    ms.foldl apply b = true ↔ IsUp (.set b :: ms) := by
  induction ms using List.reverseRecOn with
  | nil =>
    have hnil : ¬ IsUp [] := by
      rintro ⟨front, m, back, h, -⟩
      exact absurd h.symm (by simp)
    rw [← List.nil_append [Mark.set b], isUp_append]
    simp [hnil, Raises]
  | append_singleton ms n ih =>
    rw [List.foldl_append, ← List.cons_append, isUp_append, ← ih]
    cases n <;> simp [apply, Raises, Sets]

end Mark

lemma modified_step [Machine] (s : Session) (step : Step) :
    (step.run s).project.modified = (step.mark s).apply s.project.modified := by
  cases step with
  | add k path =>
    change (s.project.add k path).2.modified = _
    rw [Project.modified_add, Step.mark]
    cases (s.project.add k path).1 <;> rfl
  | read r source =>
    rw [Step.mark, Archive.result_readFrom]
    change ((Archive.readFrom r s.outlet.disk source).apply s.archive).2.project.modified = _
    rw [Archive.archive_readFrom]
    cases Archive.decodeFrom r s.outlet.disk source <;> rfl
  | _ => rfl

lemma project_step [Machine] {s : Session} {step : Step} (h : step.mark s = .none) :
    (step.run s).project = s.project := by
  cases step with
  | add k path =>
    refine Project.add_rejected _ _ _ (Bool.eq_false_iff.mpr fun hadd => ?_)
    rw [Step.mark, if_pos hadd] at h
    cases h
  | setModified modified => cases h
  | read r source =>
    rw [Step.mark, Archive.result_readFrom] at h
    change ((Archive.readFrom r s.outlet.disk source).apply s.archive).2.project = _
    rw [Archive.archive_readFrom]
    cases hd : Archive.decodeFrom r s.outlet.disk source with
    | error err => rfl
    | ok sections =>
      rw [hd] at h
      cases h
  | _ => rfl

lemma paths_step [Machine] (s : Session) (step : Step) (k : PathKind) :
    ∃ ps, (step.run s).project.paths k = Project.extend (s.project.paths k) ps := by
  cases step with
  | add j path =>
    change ∃ ps, (s.project.add j path).2.paths k = _
    rw [Project.paths_add]
    split
    · rename_i h
      exact ⟨[path], by rw [h]⟩
    · exact ⟨[], rfl⟩
  | setModified modified => exact ⟨[], Project.paths_setModified _ _ _⟩
  | read r source =>
    change ∃ ps, ((Archive.readFrom r s.outlet.disk source).apply s.archive).2.project.paths k = _
    rw [Archive.archive_readFrom]
    cases Archive.decodeFrom r s.outlet.disk source with
    | error err => exact ⟨[], rfl⟩
    | ok sections =>
      refine ⟨Project.pathsOf k ((sections.filterMap Section.project?).flatMap (·.children)), ?_⟩
      change (Project.setModified _ false).paths k = _
      rw [Project.paths_setModified]
      exact Project.paths_foldl_absorb _ _ _
  | _ => exact ⟨[], rfl⟩

lemma modified_run [Machine] (s : Session) (steps : List Step) :
    (run s steps).project.modified = (marks s steps).foldl Mark.apply s.project.modified := by
  induction steps generalizing s with
  | nil => rfl
  | cons step steps ih =>
    rw [marks, List.foldl_cons, ← modified_step]
    exact ih (step.run s)

lemma prefix_run [Machine] (s : Session) (steps : List Step) (k : PathKind) :
    s.project.paths k <+: (run s steps).project.paths k := by
  induction steps generalizing s with
  | nil => exact List.prefix_refl _
  | cons step steps ih =>
    obtain ⟨ps, hps⟩ := paths_step s step k
    exact (hps ▸ Project.prefix_extend _ ps).trans (ih (step.run s))

lemma nodup_run [Machine] {s : Session} {k : PathKind} (h : (s.project.paths k).Nodup) (steps : List Step) :
    ((run s steps).project.paths k).Nodup := by
  induction steps generalizing s with
  | nil => exact h
  | cons step steps ih =>
    obtain ⟨ps, hps⟩ := paths_step s step k
    exact ih (hps ▸ Project.nodup_extend ps h)

lemma run_append [Machine] (s : Session) (front back : List Step) :
    run s (front ++ back) = run (run s front) back :=
  List.foldl_append

/-- At every point of a session no path is listed twice, and lists that were there before go on at
their ends only. A path is added to its own list if that lacks it, which is then told. The flag is up
when, since it was set last, it was set or a path was added; nothing else changes the project. -/
theorem run_keeps_lists [Machine] {s : Session} (h : ∀ k, (s.project.paths k).Nodup) (steps : List Step) :
    (∀ k, ((run s steps).project.paths k).Nodup) ∧
      (∀ k more, (run s steps).project.paths k <+: (run s (steps ++ more)).project.paths k) ∧
      (∀ (p : Project) k path, ((p.add k path).1 = true ↔ path ∉ p.paths k) ∧
        (p.add k path).2.paths k = p.paths k ++ (if path ∈ p.paths k then [] else [path]) ∧
        (∀ j, j ≠ k → (p.add k path).2.paths j = p.paths j) ∧
        (p.add k path).2.filename = p.filename) ∧
      ((run s steps).project.modified = true ↔
        Mark.IsUp (.set s.project.modified :: marks s steps)) ∧
      ∀ step : Step, step.mark (run s steps) = .none →
        (step.run (run s steps)).project = (run s steps).project := by
  refine ⟨fun k => nodup_run (h k) steps, fun k more => ?_, fun p k path => ?_, ?_,
    fun step hstep => project_step hstep⟩
  · rw [run_append]
    exact prefix_run _ more k
  · refine ⟨p.add_fst k path, ?_, fun j hj => ?_, p.filename_add k path⟩
    · rw [p.paths_add, if_pos rfl, Project.extend_eq]
      by_cases hp : path ∈ p.paths k <;> simp [hp, List.eraseDups_cons]
    · rw [p.paths_add, if_neg hj]
  · rw [modified_run, Mark.foldl_apply_iff]

def listing : Session :=
  ⟨⟨.empty, ⟨none, ["a.jar"], [], ["src"], false⟩⟩, ⟨.empty, []⟩⟩

def additions : List Step :=
  [.add .jar "a.jar", .add .jar "b.jar", .read .builtin (.stream (.ofContent [])), .write 2 .stream]

section Usual

attribute [local instance] Machine.usual

lemma mark_read_nil (s : Session) :
    Step.mark s (.read .builtin (.stream (.ofContent []))) = .none := by
  have hd (d : Disk) : Archive.decodeFrom .builtin d (.stream (.ofContent [])) =
      .error (.truncated 0 60) := Archive.decode_nil .builtin
  rw [Step.mark, Archive.result_readFrom, hd]
  rfl

lemma marks_additions : marks listing additions = [.none, .added, .none, .none] := by
  rw [additions, marks, marks, marks, mark_read_nil]
  rfl

theorem run_keeps_lists_listing :
    (∀ k, (listing.project.paths k).Nodup) ∧
      (∀ k, ((run listing additions).project.paths k).Nodup) ∧
      (run listing additions).project.modified = true := by
  have h : ∀ k, (listing.project.paths k).Nodup := fun k => by cases k <;> decide
  have hrun := run_keeps_lists h additions
  refine ⟨h, hrun.1, hrun.2.2.2.1.mpr ?_⟩
  rw [marks_additions]
  exact ⟨[.set false, .none], .added, [.none, .none], rfl, .inr rfl, by simp [Mark.Sets]⟩

end Usual

end Session

end BugArchive
