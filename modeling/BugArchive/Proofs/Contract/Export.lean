import BugArchive.Contract.Export
import BugArchive.Proofs.Fallible
import BugArchive.Proofs.Finding.Encode

namespace BugArchive

open Contract (Issue Fault)

namespace Finding

def IsExportable (f : Finding) : Prop :=
  f.type ≠ "" ∧ 1 ≤ f.priority

instance : DecidablePred IsExportable := fun f =>
  inferInstanceAs (Decidable (f.type ≠ "" ∧ 1 ≤ f.priority))

def exportIssues (f : Finding) : List Issue :=
  (if f.type = "" then [⟨.textTooShort, [.key "type"]⟩] else []) ++
    if f.priority < 1 then [⟨.tooSmall, [.key "priority"]⟩] else []

end Finding

namespace Contract

lemma Detail.ofModel_of_shown {a : BugArchive.Detail} (h : a.isBare = false) :
    ∃ c, ofModel a = .ok c := by
  cases a with
  | bare id => cases h
  | _ => exact ⟨_, rfl⟩

namespace Finding

variable {f : BugArchive.Finding} (hd : ∀ a ∈ f.details, a.isBare = false)

include hd

lemma ofModel_eq_ok (h : f.IsExportable) : ∃ c, ofModel f = .ok c := by
  obtain ⟨ht, hp⟩ := h
  obtain ⟨ds, hds⟩ := mapM_succeeds_iff.mpr fun a ha => Detail.ofModel_of_shown (hd a ha)
  refine ⟨⟨f.type, f.priority, ds, ht, hp⟩, bind_eq_ok.mpr ⟨ds, hds, ?_⟩⟩
  rw [ofParts, dif_pos ⟨ht, hp⟩]
  rfl

lemma ofModel_eq_error (h : ¬ f.IsExportable) :
    ofModel f = .error (.invalid .finding f.exportIssues) := by
  obtain ⟨ds, hds⟩ := mapM_succeeds_iff.mpr fun a ha => Detail.ofModel_of_shown (hd a ha)
  refine bind_eq_error.mpr (.inr ⟨ds, hds, ?_⟩)
  rw [ofParts, dif_neg (show ¬ (f.type ≠ "" ∧ 1 ≤ f.priority) from h)]
  rfl

lemma ofModel_succeeds_iff : (∃ c, ofModel f = .ok c) ↔ f.IsExportable := by
  refine ⟨?_, ofModel_eq_ok hd⟩
  rintro ⟨c, hc⟩
  by_cases h : f.IsExportable
  · exact h
  · rw [ofModel_eq_error hd h] at hc
    cases hc

end Finding

def refusal? (fs : List BugArchive.Finding) : Option Fault :=
  (fs.find? fun f => ¬ f.IsExportable).map fun f => .invalid .finding f.exportIssues

namespace Collection

variable {a : Archive} (hd : ∀ f ∈ a.collection.findings, ∀ b ∈ f.details, b.isBare = false)

include hd

lemma ofArchive_succeeds_iff :
    (∃ c, ofArchive a = .ok c) ↔ ∀ f ∈ a.collection.findings, f.IsExportable := by
  have hfindings : (∃ cs, a.collection.findings.mapM Finding.ofModel = .ok cs) ↔
      ∀ f ∈ a.collection.findings, f.IsExportable :=
    mapM_succeeds_iff.trans
      (forall_congr' fun f => forall_congr' fun hf => Finding.ofModel_succeeds_iff (hd f hf))
  rw [← hfindings]
  constructor
  · rintro ⟨c, hc⟩
    obtain ⟨cs, hcs, -⟩ := bind_eq_ok.mp hc
    exact ⟨cs, hcs⟩
  · rintro ⟨cs, hcs⟩
    exact ⟨_, bind_eq_ok.mpr ⟨cs, hcs, rfl⟩⟩

lemma ofArchive_eq_error {fault : Fault} :
    ofArchive a = .error fault ↔ refusal? a.collection.findings = some fault := by
  have hfindings : ofArchive a = .error fault ↔
      a.collection.findings.mapM Finding.ofModel = .error fault :=
    bind_eq_error.trans (or_iff_left (by
      rintro ⟨cs, -, h⟩
      cases h))
  rw [hfindings]
  exact mapM_eq_error_find? (fun f hf => Finding.ofModel_eq_ok (hd f hf))
    fun f hf => Finding.ofModel_eq_error (hd f hf)

end Collection

end Contract

end BugArchive
