import BugArchive.Proofs.Archive.Upgrade
import BugArchive.Proofs.Command.Run
import BugArchive.Proofs.Contract.Export

namespace BugArchive.Command

open Archive (Source)
open Contract (refusal?)
open Process

variable {d : Disk} {path : String} {output : Option String} {a : Archive}

lemma exported_eq_error {c : Contract.Collection} {f : Failure} {w w' : World}
    (h : (exported output a c).apply w = (.error f, w')) : ∃ err, f = .archive err := by
  rw [exported] at h
  split at h
  · cases h
  · rcases apply_bind_eq_error h with hw | ⟨u, v, -, hw⟩
    · obtain ⟨err, -, rfl, -⟩ := ofWriting_eq_error hw
      exact ⟨err, rfl⟩
    · cases hw

section Loaded

variable [Machine] (h : (load d path).result = .ok a) (width : ℕ) (output : Option String)

include h

lemma work_exportJson_error {fault : Contract.Fault}
    (hc : Contract.Collection.ofArchive a = .error fault) :
    (work width (.exportJson path output)).apply (start d) =
      (.error (.contract fault), ⟨d, (load d path).log, []⟩) :=
  (apply_bind_ok _ (apply_loaded_ok h)).trans (apply_bind_error _ (apply_ofExcept_error hc _))

lemma work_exportJson_ok {c : Contract.Collection} (hc : Contract.Collection.ofArchive a = .ok c) :
    (work width (.exportJson path output)).apply (start d) =
      (exported output a c).apply ⟨d, (load d path).log, []⟩ :=
  (apply_bind_ok _ (apply_loaded_ok h)).trans (apply_bind_ok _ (apply_ofExcept_ok hc _))

lemma perform_exportJson_refuses_iff (console : Console) {fault : Contract.Fault} :
    ((perform console width (.exportJson path output)).apply (start d)).1 =
      .error (.contract fault) ↔ Contract.Collection.ofArchive a = .error fault := by
  cases hc : Contract.Collection.ofArchive a with
  | error fault' =>
    rw [apply_perform_error (work_exportJson_error h width output hc)]
    simp
  | ok c =>
    refine iff_of_false (fun hf => ?_) nofun
    rcases apply_bind_eq_error (Prod.ext hf rfl) with hw | ⟨lines, w, -, hp⟩
    · obtain ⟨err, he⟩ := exported_eq_error ((work_exportJson_ok h width output hc).symm.trans hw)
      cases he
    · obtain ⟨_, _, _, _, -, -, hr, -⟩ := prints_eq_error hp
      cases hr

lemma perform_exportJson_succeeds_iff (level : Int) :
    (conclude .willing level (perform .willing width (.exportJson path none)) d).ending =
      .status 0 ↔ ∃ c, Contract.Collection.ofArchive a = .ok c := by
  rw [ending_eq_zero]
  cases hc : Contract.Collection.ofArchive a with
  | error fault =>
    rw [apply_perform_error (work_exportJson_error h width none hc)]
    exact iff_of_false nofun nofun
  | ok c =>
    exact iff_of_true ⟨_, (apply_perform_ok (work_exportJson_ok h width none hc)).trans
      (apply_prints_willing _ _)⟩ ⟨c, rfl⟩

end Loaded

/-- Of all that can be read, what the contract takes is exported, and of what it refuses the first
finding is named that has no type or no priority of at least one. -/
theorem export_iff [Machine] {s : Stream} {a : Archive} (h : (Archive.read .builtin s .empty).result = .ok a) :
    (∀ f ∈ a.collection.findings, ∀ b ∈ f.details, ∃ c, Contract.Detail.ofModel b = .ok c) ∧
      ((∃ c, Contract.Collection.ofArchive a = .ok c) ↔
        ∀ f ∈ a.collection.findings, f.IsExportable) ∧
      (∀ fault, Contract.Collection.ofArchive a = .error fault ↔
        refusal? a.collection.findings = some fault) ∧
      ∀ d path, Source.toStream d (.path path) = .ok s → ∀ width level,
        (conclude .willing level (perform .willing width (.summary path)) d).ending = .status 0 ∧
          ((conclude .willing level (perform .willing width (.exportJson path none)) d).ending =
              .status 0 ↔
            ∀ f ∈ a.collection.findings, f.IsExportable) ∧
          ∀ console output fault,
            ((perform console width (.exportJson path output)).apply (start d)).1 =
                .error (.contract fault) ↔
              refusal? a.collection.findings = some fault := by
  have hshown : ∀ f ∈ a.collection.findings, ∀ b ∈ f.details, b.isBare = false :=
    fun f hf => ((Archive.isSavable_read h).collection.findings f hf).details
  have hok := Contract.Collection.ofArchive_succeeds_iff hshown
  have herror (fault : Contract.Fault) : Contract.Collection.ofArchive a = .error fault ↔
      refusal? a.collection.findings = some fault := Contract.Collection.ofArchive_eq_error hshown
  refine ⟨fun f hf b hb => Contract.Detail.ofModel_of_shown (hshown f hf b hb), hok, herror,
    fun d path hs width level => ?_⟩
  have hload : (load d path).result = .ok a := by
    rw [result_load, hs]
    exact h
  have hsummary : (perform .willing width (.summary path)).apply (start d) =
      (.ok (), ⟨d, (load d path).log, summaryLines a⟩) :=
    (apply_perform_ok (apply_bind_ok _ (apply_loaded_ok hload))).trans (apply_prints_willing _ _)
  exact ⟨ending_eq_zero.mpr ⟨_, hsummary⟩,
    (perform_exportJson_succeeds_iff hload width level).trans hok, fun console output fault =>
      (perform_exportJson_refuses_iff hload width output console).trans (herror fault)⟩

section Files

attribute [local instance] Machine.usual

open Archive (serialize read_shown small)

lemma read_small :
    (Archive.read .builtin (.ofContent (serialize 2 small.shown)) .empty).result = .ok small :=
  read_shown Archive.isSavable_small rfl (by decide) rfl

theorem export_iff_small :
    (Archive.read .builtin (.ofContent (serialize 2 small.shown)) .empty).result = .ok small ∧
      Source.toStream (diskOf (serialize 2 small.shown)) (.path "a.xml") =
        .ok (.ofContent (serialize 2 small.shown)) ∧
      (conclude .willing 30 (perform .willing 2 (.exportJson "a.xml" none))
        (diskOf (serialize 2 small.shown))).ending = .status 0 :=
  ⟨read_small, toStream_diskOf _,
    ((export_iff read_small).2.2.2 _ _ (toStream_diskOf _) 2 30).2.1.mpr (by decide)⟩

def unranked : Archive :=
  ⟨⟨[⟨"NP", 0, []⟩], [], [], []⟩, .empty⟩

lemma isSavable_unranked : unranked.IsSavable := by
  have he := Archive.isSavable_empty
  refine ⟨⟨fun f hf => ?_, he.collection.errors, he.collection.missing, he.collection.classes⟩,
    he.project, ⟨List.pairwise_singleton _ _, by decide, .nil, .nil⟩⟩
  obtain rfl := List.mem_singleton.mp hf
  exact Finding.isSavable_iff.mpr ⟨Text.Numeral.isShort_of_lt_ten (by decide),
    Xml.isLegalText_of_all (by decide), fun b hb => by cases hb⟩

theorem export_unranked :
    (Archive.read .builtin (.ofContent (serialize 2 unranked.shown)) .empty).result =
        .ok unranked ∧
      Contract.Collection.ofArchive unranked =
        .error (.invalid .finding [⟨.tooSmall, [.key "priority"]⟩]) :=
  ⟨read_shown isSavable_unranked rfl (by decide) rfl, rfl⟩

end Files

end BugArchive.Command
