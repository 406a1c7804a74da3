import BugArchive.Proofs.Contract.Export
import BugArchive.Proofs.Project

namespace BugArchive.Contract

lemma Detail.ofModel_eq_ok_iff {a : BugArchive.Detail} {c : Detail} :
    ofModel a = .ok c ↔ a = c.toModel := by
  constructor
  · intro h
    cases a with
    | bare id => cases h
    | inMethod className name signature lines =>
      obtain rfl := Except.ok.inj h
      cases lines <;> rfl
    | _ =>
      obtain rfl := Except.ok.inj h
      rfl
  · rintro rfl
    cases c with
    | inMethod className name signature lines => cases lines <;> rfl
    | _ => rfl

namespace Finding

variable {f : BugArchive.Finding}

lemma ofModel_eq_ok_iff {c : Finding} : ofModel f = .ok c ↔ f = c.toModel := by
  rw [ofModel, bind_eq_ok]
  constructor
  · rintro ⟨ds, hds, h⟩
    have hdetails := (mapM_eq_ok_iff fun a d => Detail.ofModel_eq_ok_iff).mp hds
    rw [ofParts] at h
    split at h
    · rename_i c' hc
      split at hc
      · obtain rfl := Checked.ok.inj hc
        obtain rfl := Except.ok.inj h
        rw [toModel, ← hdetails]
      · cases hc
    · cases h
  · rintro rfl
    refine ⟨c.details, (mapM_eq_ok_iff fun a d => Detail.ofModel_eq_ok_iff).mpr rfl, ?_⟩
    rw [ofParts, dif_pos (show c.toModel.type ≠ "" ∧ 1 ≤ c.toModel.priority from
      ⟨c.type_ne, c.one_le⟩)]
    rfl

lemma ofModel_of_isBare (h : ∃ a ∈ f.details, a.isBare = true) : ofModel f = .error .noRecord := by
  have hd : f.details.mapM Detail.ofModel = .error .noRecord := by
    obtain ⟨a, ha, hbare⟩ := h
    refine mapM_eq_error_of_mem (fun b _ => ?_) ⟨a, ha, ?_⟩
    · cases b with
      | bare id => exact .inr rfl
      | _ => exact .inl ⟨_, rfl⟩
    · cases a with
      | bare id => rfl
      | _ => cases hbare
  rw [ofModel, hd]
  rfl

end Finding

namespace Collection

def toModel (c : Collection) : Archive where
  collection := {
    findings := c.findings.map Finding.toModel
    errors := c.errors
    missing := c.missing
    classes := c.classes.map fun k => (k.name, k.isInterface) }
  project := ⟨c.project.filename, c.project.jars, c.project.auxClasspath, c.project.sourceDirs, false⟩

lemma toModel_of_ofArchive {a : Archive} {c : Collection} (h : ofArchive a = .ok c) :
    c.toModel = ⟨a.collection, a.project.setModified false⟩ := by
  obtain ⟨fs, hfs, h⟩ := bind_eq_ok.mp h
  obtain rfl := Except.ok.inj h
  have hfindings := (mapM_eq_ok_iff fun f d => Finding.ofModel_eq_ok_iff).mp hfs
  have hclasses : (a.collection.classes.map fun c => AppClass.mk c.1 c.2).map
      (fun k => (k.name, k.isInterface)) = a.collection.classes := by
    rw [List.map_map]
    exact List.map_id _
  simp only [toModel, hclasses, ← hfindings]
  rfl

/-- A finding has no record for a bare detail in it, or else for its own faults; any other comes back
from its record as it was, and every record is that of the finding it tells. Archives with one record
differ in nothing but the flag of the project. -/
theorem ofModel_exact :
    (∀ f : BugArchive.Finding,
      if ∃ a ∈ f.details, a.isBare = true then Finding.ofModel f = .error .noRecord
      else if f.type = "" ∨ f.priority < 1 then
        Finding.ofModel f = .error (.invalid .finding f.exportIssues)
      else ∃ c, Finding.ofModel f = .ok c ∧ c.toModel = f) ∧
    (∀ c : Finding, Finding.ofModel c.toModel = .ok c) ∧
    ∀ (a b : Archive) (c : Collection), ofArchive a = .ok c → ofArchive b = .ok c →
      a.collection = b.collection ∧ a.project.filename = b.project.filename ∧
      ∀ k, a.project.paths k = b.project.paths k := by
  refine ⟨fun f => ?_, fun c => Finding.ofModel_eq_ok_iff.mpr rfl, fun a b c ha hb => ?_⟩
  · split
    · rename_i hbare
      exact Finding.ofModel_of_isBare hbare
    rename_i hbare
    have hd : ∀ a ∈ f.details, a.isBare = false := fun a ha =>
      Bool.eq_false_iff.mpr fun h => hbare ⟨a, ha, h⟩
    have hfaulty : (f.type = "" ∨ f.priority < 1) ↔ ¬ f.IsExportable := by
      rw [BugArchive.Finding.IsExportable, Classical.not_and_iff_not_or_not, Classical.not_not,
        Int.not_le]
    split
    · rename_i h
      exact Finding.ofModel_eq_error hd (hfaulty.mp h)
    · rename_i h
      obtain ⟨c, hc⟩ := Finding.ofModel_eq_ok hd
        (Classical.not_not.mp fun hn => h (hfaulty.mpr hn))
      exact ⟨c, hc, (Finding.ofModel_eq_ok_iff.mp hc).symm⟩
  · have heq := (toModel_of_ofArchive ha).symm.trans (toModel_of_ofArchive hb)
    obtain ⟨hcollection, hproject⟩ := Archive.mk.inj heq
    have hfile : (a.project.setModified false).filename = (b.project.setModified false).filename :=
      congrArg _ hproject
    refine ⟨hcollection, hfile, fun k => ?_⟩
    rw [← a.project.paths_setModified k false, hproject, b.project.paths_setModified]

def editedArchive : Archive where
  collection := {
    findings := [⟨"NP", 1, [.inClass "A", .inMethod "A" "run" "()V" (some (.ofClass "A")),
      .onField "A" "count" "I" true, .atLine ⟨"A", 3, 4, 10, 12, some "A.java"⟩, .number 7]⟩]
    errors := ["cannot resolve B"]
    missing := ["B"]
    classes := [("A", true)] }
  project := ⟨some "app.prj", ["app.jar"], ["lib.jar"], ["src"], true⟩

def savedArchive : Archive :=
  ⟨editedArchive.collection, editedArchive.project.setModified false⟩

theorem ofModel_exact_edited : ∃ c,
    ofArchive editedArchive = .ok c ∧ ofArchive savedArchive = .ok c ∧ editedArchive ≠ savedArchive ∧
    editedArchive.collection = savedArchive.collection ∧
    editedArchive.project.filename = savedArchive.project.filename ∧
    ∀ k, editedArchive.project.paths k = savedArchive.project.paths k :=
  ⟨_, rfl, rfl, by decide, ofModel_exact.2.2 editedArchive savedArchive _ rfl rfl⟩

end Collection

end BugArchive.Contract
