import BugArchive.Proofs.Archive.Grammar
import BugArchive.Proofs.Archive.Reader

namespace BugArchive

open Xml (Element)

def Reports {α : Type} (r : Except Error α) : Prop :=
  ∀ err, r = .error err → err.isReported = true

section Reports

variable {α β : Type}

lemma reports_ok (a : α) : Reports (.ok a : Except Error α) := fun err h => by cases h

lemma reports_error {err : Error} : Reports (.error err : Except Error α) ↔ err.isReported = true :=
  ⟨fun h => h err rfl, fun h _ he => Except.error.inj he ▸ h⟩

lemma reports_bind {r : Except Error α} {f : α → Except Error β} :
    Reports (r >>= f) ↔ Reports r ∧ ∀ a, r = .ok a → Reports (f a) := by
  cases r with
  | error err => simp [Reports, bind, Except.bind]
  | ok a => simp [Reports, bind, Except.bind]

lemma reports_map {r : Except Error α} {f : α → β} : Reports (r.map f) ↔ Reports r := by
  cases r with
  | error err => simp [Reports, Except.map]
  | ok a => simp [Reports, Except.map]

lemma TellsFirst.reports {m : Except Error α} {errs : List Error} (h : TellsFirst m errs)
    (he : errs.all Error.isReported) : Reports m := by
  rintro err rfl
  exact List.all_eq_true.mp he err (List.mem_of_mem_head? h)

end Reports

namespace Section

lemma reports_mapM_ofElement [Machine] {r : Registry} (es : List Element) :
    Reports (es.mapM (ofElement r)) ↔ ¬ AnyTooDeep r es := by
  constructor
  · intro h hd
    have hf := h _ (mapM_of_anyTooDeep hd)
    cases hf
  · exact fun h => (tellsFirst_mapM_ofElement h).reports (faults_isReported es)

end Section

namespace Signature

lemma reports_judge (window : Int) (data : List UInt8) : Reports (judge window data) := by
  unfold judge
  split
  · exact reports_error.mpr rfl
  split
  · exact reports_ok ()
  · exact reports_error.mpr rfl

lemma reports_check (s : Stream) : Reports (check window s).result := by
  unfold check
  split
  · rw [if_neg fun h => absurd h.2 (by decide)]
    exact reports_judge window _
  · exact reports_ok ()

end Signature

namespace Archive

variable {r : Registry} {s : Stream}

lemma reports_parse (h : s.access ≠ .closed) : Reports (parse s) ↔
    ∀ fault, parse s = .error (.document fault) → fault = .malformed := by
  unfold parse
  rw [if_neg h]
  cases Xml.Document.read (s.reading pieceSize) s.remaining with
  | ok root => simp [reports_ok]
  | error fault => cases fault <;> simp [reports_error, Error.isReported]

/-- Whether what can be wrong with a stream that looks like an archive is that its document is
malformed or has something unknown in it. -/
def IsTold [Machine] (r : Registry) (s : Stream) : Prop :=
  (Signature.check Signature.window s).result = .ok () →
    (∀ fault, parse s = .error (.document fault) → fault = .malformed) ∧
      ∀ root, parse s = .ok root → ¬ Section.AnyTooDeep r root.children

lemma reports_decode [Machine] (h : s.access ≠ .closed) : Reports (decode r s) ↔ IsTold r s := by
  simp only [decode, Signature.check_stream, reports_bind, Signature.reports_check, true_and,
    reports_parse h, Section.reports_mapM_ofElement, IsTold]
  exact ⟨fun h => h (), fun h _ => h⟩

lemma decode_nil [Machine] (r : Registry) : decode r (.ofContent []) = .error (.truncated 0 60) := by
  have hc : (Signature.check Signature.window (.ofContent [])).result =
      .error (.truncated 0 60) := by
    rw [Signature.check_seekable (by decide) rfl (by decide)]
    rfl
  rw [decode, hc]
  rfl

end Archive

end BugArchive
