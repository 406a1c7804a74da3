import BugArchive.Archive.File
import BugArchive.Proofs.Archive.Edit
import BugArchive.Proofs.Archive.Section
import BugArchive.Proofs.Archive.Serialize
import BugArchive.Proofs.Archive.Signature
import BugArchive.Proofs.Collection.Basic
import BugArchive.Proofs.Project

/-! Reading in stages: everything is decoded first, and taking over what was decoded cannot fail. -/

namespace BugArchive

open Xml (Element)

namespace Archive

open Edit

def staged (sections : List Section) : List Finding :=
  (sections.filterMap Section.finding?).map (sourceMap sections).fill

def collect (sections : List Section) (c : Collection) : Collection where
  findings := ((staged sections).foldl Collection.insert c.findings).map (sourceMap sections).fill
  errors := c.errors ++ sections.flatMap Section.messages
  missing := Collection.insertNames c.missing (sections.flatMap Section.missing)
  classes := Collection.setFlags c.classes (sections.filterMap Section.appClass?)

def absorb (sections : List Section) (a : Archive) : Archive where
  collection := collect sections a.collection
  project := { (sections.filterMap Section.project?).foldl Project.absorb a.project with
    modified := false }

lemma eval_readPath {e : Element} (h : (PathKind.ofTag? e.tag).isSome) (c : Collection)
    (p : Project) (log : List Log.Entry) :
    (readPath e).eval ⟨⟨c, p⟩, log⟩ = (.ok (), ⟨⟨c, p.absorbPath e⟩, log⟩) := by
  obtain ⟨k, hk⟩ := Option.isSome_iff_exists.mp h
  simp only [readPath, hk, eval_project, Project.absorbPath]

lemma eval_readProject {e : Element} (h : Project.validate e.children = .ok ()) (c : Collection)
    (p : Project) (log : List Log.Entry) :
    (readProject e).eval ⟨⟨c, p⟩, log⟩ = (.ok (), ⟨⟨c, p.absorb e⟩, log⟩) := by
  rw [readProject, h, eval_bind_ok (eval_ofExcept _ _), eval_bind_ok (eval_project _ c p log),
    eval_forM_project fun d hd => eval_readPath (Project.validate_eq_ok.mp h d hd)]
  rfl

lemma eval_commit {sections : List Section} (h : ∀ s ∈ sections, s.IsValid) (w : Work) :
    ∃ log, (commit sections).eval w = (.ok (), ⟨absorb sections w.archive, log⟩) := by
  have hp : ∀ e ∈ sections.filterMap Section.project?, Project.validate e.children = .ok () :=
    fun e he => h _ (Section.mem_projects.mp he)
  obtain ⟨⟨c, p⟩, log⟩ := w
  rw [commit]
  dsimp only [SourceMap.reconcile]
  rw [eval_bind_ok (eval_forM_project (fun e he => eval_readProject (hp e he)) c p log),
    eval_bind_ok (eval_forM_collection _ Collection.add _ _ _), Collection.foldl_add,
    eval_bind_ok (eval_forM_collection _ Collection.addError _ _ _), Collection.foldl_addError,
    eval_bind_ok (eval_forM_collection _ Collection.addMissing _ _ _), Collection.foldl_addMissing,
    eval_bind_ok (eval_forM_collection (sections.filterMap Section.appClass?)
      (fun c k => c.addClass k.1 k.2) _ _ _), Collection.foldl_addClass,
    eval_bind_ok (eval_get _), eval_bind_ok (eval_collection _ _ _ _),
    eval_bind_ok (eval_note _ _ _), eval_bind_ok (eval_project _ _ _ _), eval_note]
  exact ⟨_, rfl⟩

lemma eval_stage [Machine] (r : Registry) (es : List Element) (w : Work) :
    ∃ log, (stage r es).eval w = (es.mapM (Section.ofElement r), ⟨w.archive, log⟩) := by
  rw [stage, eval_bind_ok (eval_note _ w.archive w.log)]
  cases h : es.mapM (Section.ofElement r) with
  | error err =>
    rw [Section.decodeAll_eq_error h]
    exact ⟨_, rfl⟩
  | ok sections =>
    rw [Section.decodeAll_eq_ok h]
    exact ⟨_, rfl⟩

def after (decoded : Except Error (List Section)) (a : Archive) : Archive :=
  match decoded with
  | .ok sections => absorb sections a
  | .error _ => a

lemma eval_readElements [Machine] (r : Registry) (es : List Element) (w : Work) :
    ∃ log, (readElements r es).eval w = ((es.mapM (Section.ofElement r)).map fun _ => (),
      ⟨after (es.mapM (Section.ofElement r)) w.archive, log⟩) := by
  obtain ⟨log, hs⟩ := eval_stage r es w
  rw [readElements, eval_bind, hs]
  cases h : es.mapM (Section.ofElement r) with
  | error err => exact ⟨log, rfl⟩
  | ok sections => exact eval_commit (Section.isValid_of_mapM h) ⟨w.archive, log⟩

def decode [Machine] (r : Registry) (s : Stream) : Except Error (List Section) := do
  (Signature.check Signature.window s).result
  let root ← parse (Signature.check Signature.window s).stream
  root.children.mapM (Section.ofElement r)

def decodeFrom [Machine] (r : Registry) (d : Disk) (source : Source) : Except Error (List Section) := do
  decode r (← source.toStream d)

lemma eval_readInto [Machine] (r : Registry) (s : Stream) (w : Work) :
    ∃ log, (readInto r s).eval w =
      ((decode r s).map fun _ => (), ⟨after (decode r s) w.archive, log⟩) := by
  rw [readInto, eval_bind, eval_ofOutcome _ w.archive w.log, decode]
  cases (Signature.check Signature.window s).result with
  | error err => exact ⟨_, rfl⟩
  | ok _ =>
    dsimp only
    rw [eval_bind, eval_ofExcept]
    cases parse (Signature.check Signature.window s).stream with
    | error err => exact ⟨_, rfl⟩
    | ok root => exact eval_readElements r root.children _

lemma eval_readFrom [Machine] (r : Registry) (d : Disk) (source : Source) (w : Work) :
    ∃ log, (readFrom r d source).eval w =
      ((decodeFrom r d source).map fun _ => (), ⟨after (decodeFrom r d source) w.archive, log⟩) := by
  rw [readFrom, eval_bind, eval_ofExcept, decodeFrom]
  cases source.toStream d with
  | error err => exact ⟨_, rfl⟩
  | ok s => exact eval_readInto r s w

lemma result_readFrom [Machine] (r : Registry) (d : Disk) (source : Source) (a : Archive) :
    ((readFrom r d source).apply a).1.result = (decodeFrom r d source).map fun _ => () := by
  obtain ⟨log, h⟩ := eval_readFrom r d source ⟨a, []⟩
  rw [apply_eq, h]

lemma archive_readFrom [Machine] (r : Registry) (d : Disk) (source : Source) (a : Archive) :
    ((readFrom r d source).apply a).2 = after (decodeFrom r d source) a := by
  obtain ⟨log, h⟩ := eval_readFrom r d source ⟨a, []⟩
  rw [apply_eq, h]

lemma result_read [Machine] (r : Registry) (s : Stream) (a : Archive) :
    (read r s a).result = (decode r s).map fun sections => absorb sections a := by
  obtain ⟨log, h⟩ := eval_readInto r s ⟨a, []⟩
  rw [read, outcome_result, h]
  cases decode r s with
  | error err => rfl
  | ok sections => rfl

section Serialized

variable {s : Stream} {width : Nat} {e : Element} {es : List Element}
  (hw : Element.IsWritable ⟨"BugCollection", [], "", e :: es⟩)
  (hc : s.remaining = serialize width ⟨"BugCollection", [], "", e :: es⟩)

include hw hc

lemma check_serialize (hs : s.access = .seekable) (hl : s.limit ≠ some 0) :
    Signature.check Signature.window s = ⟨[], .ok (), s⟩ := by
  rw [Signature.check_seekable hl hs (by decide), hc, judge_serialize width hw]

lemma parse_serialize (hs : s.access ≠ .closed)
    (hlegal : Element.IsLegal ⟨"BugCollection", [], "", e :: es⟩) :
    parse s = .ok (Element.spaced (.indented width) 0 ⟨"BugCollection", [], "", e :: es⟩) := by
  rw [parse, if_neg hs, hc, read_serialize _ width hw hlegal]

end Serialized

lemma decode_serialize [Machine] (r : Registry) {s : Stream} {width : Nat} {e : Element} {es : List Element}
    (hs : s.access = .seekable) (hl : s.limit ≠ some 0)
    (hw : Element.IsWritable ⟨"BugCollection", [], "", e :: es⟩)
    (hlegal : Element.IsLegal ⟨"BugCollection", [], "", e :: es⟩)
    (hc : s.remaining = serialize width ⟨"BugCollection", [], "", e :: es⟩) :
    decode r s =
      ((e :: es).map (·.spaced (.indented width) 1)).mapM (Section.ofElement r) := by
  have hparse := parse_serialize hw hc (by rw [hs]; decide) hlegal
  rw [decode, check_serialize hw hc hs hl, hparse]
  exact congrArg (List.mapM _) (Element.spaced_children _ 0 _)

/-- A read that fails leaves the archive as it was, and taking over what was staged never
fails. -/
theorem readFrom_atomic [Machine] (r : Registry) (d : Disk) (source : Source) (a : Archive) :
    (∀ err, ((readFrom r d source).apply a).1.result = .error err →
      ((readFrom r d source).apply a).2 = a) ∧
    ∀ es sections, ((stage r es).apply a).1.result = .ok sections →
      ∀ b, ((commit sections).apply b).1.result = .ok () := by
  refine ⟨fun err h => ?_, fun es sections h b => ?_⟩
  · rw [result_readFrom] at h
    rw [archive_readFrom]
    cases hd : decodeFrom r d source with
    | error err => rfl
    | ok sections =>
      rw [hd] at h
      cases h
  · obtain ⟨log, hs⟩ := eval_stage r es ⟨a, []⟩
    rw [apply_eq, hs] at h
    obtain ⟨log, hc⟩ := eval_commit (Section.isValid_of_mapM h) ⟨b, []⟩
    rw [apply_eq, hc]

def unreadable : Element :=
  ⟨"BugCollection", [], "", [⟨"Project", [], "", [.ofText "Jar" "a.jar"]⟩, .leaf "Unknown" []]⟩

def unreadableSource : Source :=
  .stream (.ofContent (serialize 2 unreadable))

def occupied : Archive :=
  ⟨⟨[⟨"NP", 2, [.inClass "A"]⟩], ["broken"], ["B"], []⟩, .empty⟩

section Usual

attribute [local instance] Machine.usual

theorem readFrom_atomic_unreadable :
    ((readFrom .builtin .empty unreadableSource).apply occupied).1.result =
        .error (.unknownElement "Unknown") ∧
      ((readFrom .builtin .empty unreadableSource).apply occupied).2 = occupied := by
  have hw : unreadable.IsWritable := Element.isWritable_of_all (by decide)
  have hl : unreadable.IsLegal := Element.isLegal_of_all (by decide)
  have hd : decodeFrom .builtin .empty unreadableSource = .error (.unknownElement "Unknown") :=
    decode_serialize (s := .ofContent (serialize 2 unreadable)) .builtin rfl (by decide) hw hl rfl
  have h := result_readFrom .builtin .empty unreadableSource occupied
  rw [hd] at h
  exact ⟨h, (readFrom_atomic .builtin .empty unreadableSource occupied).1 _ h⟩

end Usual

end Archive

end BugArchive
