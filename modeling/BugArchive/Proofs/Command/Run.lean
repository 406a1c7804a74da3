import BugArchive.Command.Run
import BugArchive.Proofs.Archive.Fault
import BugArchive.Proofs.Command.Process

namespace BugArchive

namespace Command

open Process

def start (d : Disk) : World := ⟨d, [], []⟩

section Load

variable [Machine]

def Action.file : Action → String
  | .check file => file
  | .summary file => file
  | .upgrade input _ => input
  | .exportJson file _ => file

def Action.intake (d : Disk) : Action → Except Error Unit
  | .check file => do
    let content ← d.read file
    (Signature.check Signature.window (.ofContent content)).result
  | action => (load d action.file).result.map fun _ => ()

lemma result_load (d : Disk) (path : String) :
    (load d path).result = Archive.Source.toStream d (.path path) >>= fun s =>
      (Archive.read .builtin s .empty).result := by
  rw [load, Archive.load, Edit.outcome_result, Archive.readFrom, Edit.eval_bind, Edit.eval_ofExcept]
  cases Archive.Source.toStream d (.path path) <;> rfl

variable {d : Disk} {path : String} {α : Type}

lemma apply_loaded_ok {a : Archive} (h : (load d path).result = .ok a) :
    (loaded path).apply (start d) = (.ok a, ⟨d, (load d path).log, []⟩) := by
  rw [loaded, apply_bind_ok _ (apply_get _)]
  exact apply_ofOutcome_ok h _

lemma apply_loaded_error {err : Error} (h : (load d path).result = .error err) :
    (loaded path).apply (start d) = (.error (.archive err), ⟨d, (load d path).log, []⟩) := by
  rw [loaded, apply_bind_ok _ (apply_get _)]
  exact apply_ofOutcome_error h _

lemma apply_work_error {action : Action} {err : Error} (h : action.intake d = .error err)
    (width : Nat) :
    ∃ log, (work width action).apply (start d) = (.error (.archive err), ⟨d, log, []⟩) := by
  have hload {path : String} (h : (load d path).result.map (fun _ => ()) = .error err) :
      (loaded path).apply (start d) = (.error (.archive err), ⟨d, (load d path).log, []⟩) := by
    refine apply_loaded_error ?_
    cases hl : (load d path).result with
    | error e =>
      rw [hl] at h
      exact congrArg Except.error (Except.error.inj h)
    | ok a =>
      rw [hl] at h
      cases h
  cases action with
  | check file =>
    rw [work, check, apply_bind_ok _ (apply_get _)]
    rcases bind_eq_error.mp h with hr | ⟨content, hr, hc⟩
    · exact ⟨[], apply_bind_error _ (apply_ofExcept_error hr _)⟩
    · have hread : (ofExcept .archive ((start d).disk.read file)).apply (start d) = (.ok content, start d) :=
        apply_ofExcept_ok hr _
      rw [apply_bind_ok _ hread]
      exact ⟨_, apply_bind_error _ (apply_ofOutcome_error hc _)⟩
  | summary file => exact ⟨_, apply_bind_error _ (hload h)⟩
  | upgrade input output => exact ⟨_, apply_bind_error _ (hload h)⟩
  | exportJson file output => exact ⟨_, apply_bind_error _ (hload h)⟩

variable {console : Console} {width : Nat} {action : Action} {w w' : World}

lemma loaded_eq_ok {a : Archive} (h : (loaded path).apply w = (.ok a, w')) :
    (load w.disk path).result = .ok a := by
  rw [loaded, apply_bind_ok _ (apply_get _), apply_ofOutcome] at h
  cases hl : (load w.disk path).result with
  | error err =>
    rw [hl] at h
    cases h
  | ok b =>
    rw [hl] at h
    cases h
    rfl

lemma apply_perform_error {f : Failure} (h : (work width action).apply w = (.error f, w')) :
    (perform console width action).apply w = (.error f, w') :=
  apply_bind_error _ h

lemma apply_perform_ok {lines : List String}
    (h : (work width action).apply w = (.ok lines, w')) :
    (perform console width action).apply w = (lines.forM (print console)).apply w' :=
  apply_bind_ok _ h

end Load

section Conclude

variable {console : Console} {level : Int} {m : Process Unit} {d : Disk} {w : World}

lemma conclude_eq_ok {code : Nat} (h : (status console m).apply (start d) = (.ok code, w)) :
    conclude console level m d = ⟨.status code, w.lines, shown level w.log, w.disk⟩ := by
  rw [conclude, show (⟨d, [], []⟩ : World) = start d from rfl, h]

lemma conclude_eq_error {f : Failure} (h : (status console m).apply (start d) = (.error f, w)) :
    conclude console level m d = ⟨.failure f, w.lines, shown level w.log, w.disk⟩ := by
  rw [conclude, show (⟨d, [], []⟩ : World) = start d from rfl, h]

lemma conclude_ok (h : m.apply (start d) = (.ok (), w)) :
    conclude console level m d = ⟨.status 0, w.lines, shown level w.log, w.disk⟩ :=
  conclude_eq_ok (apply_tryCatch_ok _ (apply_bind_ok _ h))

section Failures

variable {f : Failure} (h : m.apply (start d) = (.error f, w))

include h

lemma conclude_untold (hf : f.isTold = false) :
    conclude console level m d = ⟨.failure f, w.lines, shown level w.log, w.disk⟩ := by
  refine conclude_eq_error ((apply_tryCatch_error _ (apply_bind_error _ h)).trans ?_)
  rw [hf]
  rfl

lemma conclude_told (hf : f.isTold = true)
    (hc : console w.lines ("Error: " ++ f.message) = none) : conclude console level m d =
      ⟨.status 1, w.lines ++ ["Error: " ++ f.message], shown level w.log, w.disk⟩ := by
  refine conclude_eq_ok (w := { w with lines := w.lines ++ ["Error: " ++ f.message] })
    ((apply_tryCatch_error _ (apply_bind_error _ h)).trans ?_)
  rw [hf]
  exact apply_bind_ok _ (apply_print_taken hc)

lemma conclude_refused (hf : f.isTold = true) {r : Refusal}
    (hc : console w.lines ("Error: " ++ f.message) = some r) : conclude console level m d =
      ⟨.failure (.console r), w.lines, shown level w.log, w.disk⟩ := by
  refine conclude_eq_error ((apply_tryCatch_error _ (apply_bind_error _ h)).trans ?_)
  rw [hf]
  exact apply_bind_error _ (apply_print_refused hc)

lemma conclude_error : (conclude console level m d).ending ≠ .status 0 ∧
    (conclude console level m d).disk = w.disk := by
  cases hf : f.isTold with
  | false =>
    rw [conclude_untold h hf]
    exact ⟨nofun, rfl⟩
  | true =>
    cases hc : console w.lines ("Error: " ++ f.message) with
    | none =>
      rw [conclude_told h hf hc]
      exact ⟨nofun, rfl⟩
    | some r =>
      rw [conclude_refused h hf hc]
      exact ⟨nofun, rfl⟩

end Failures

lemma disk_conclude : (conclude console level m d).disk = (m.apply (start d)).2.disk := by
  cases h : m.apply (start d) with
  | mk result w =>
    cases result with
    | ok u => rw [conclude_ok h]
    | error f => exact (conclude_error h).2

lemma ending_eq_zero : (conclude console level m d).ending = .status 0 ↔
    ∃ w, m.apply (start d) = (.ok (), w) := by
  cases h : m.apply (start d) with
  | mk result w =>
    cases result with
    | ok u => exact iff_of_true (by rw [conclude_ok h]) ⟨w, rfl⟩
    | error f => exact iff_of_false (conclude_error h).1 (by simp)

lemma conclude_archive {err : Error} (h : m.apply (start d) = (.error (.archive err), w))
    (hl : w.lines = []) : (conclude .willing level m d).ending = .status 1 ∧
      (conclude .willing level m d).output = ["Error: " ++ err.message] ↔ err.isReported = true := by
  cases hr : err.isReported with
  | false =>
    rw [conclude_untold h hr]
    exact iff_of_false (fun hc => by cases hc.1) Bool.false_ne_true
  | true =>
    rw [conclude_told h hr rfl, hl]
    exact iff_of_true ⟨rfl, rfl⟩ rfl

end Conclude

lemma runOn_eq [Machine] {env : Environment} {arguments : List String} {verbose : Bool}
    {action : Action} {level : Int} (ha : Request.ofArguments arguments = .run ⟨verbose, action⟩)
    (hl : levelFor env verbose = .ok level) (console : Console) (d : Disk) :
    runOn console env arguments d =
      conclude console level (perform console (Settings.indent env.indent) action) d := by
  rw [runOn, ha]
  dsimp only
  rw [hl]

def diskOf (content : List UInt8) : Disk := ⟨[(["a.xml"], .file content)], []⟩

lemma toStream_diskOf (content : List UInt8) :
    Archive.Source.toStream (diskOf content) (.path "a.xml") = .ok (.ofContent content) := rfl

end Command

end BugArchive
