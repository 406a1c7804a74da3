import BugArchive.Proofs.Archive.Addition

namespace BugArchive

namespace Contents

variable (c : Contents) (a : Archive)

lemma addTo_addTo : c.addTo (c.addTo a) = { c.addTo a with
    collection.errors := (c.addTo a).collection.errors ++ c.errors } := by
  have hfindings : (c.addTo (c.addTo a)).collection.findings = (c.addTo a).collection.findings := by
    -- A staged finding is filled, so filling the others does not take it away.
    have hstaged : c.staged.foldl Collection.insert (c.addTo a).collection.findings =
        (c.addTo a).collection.findings :=
      Collection.foldl_insert_of_subset fun f hf => c.mem_addTo_of_staged a hf
    have hfilled : (c.addTo a).collection.findings.map c.sourceMap.fill =
        (c.addTo a).collection.findings := by
      rw [addTo, List.map_map]
      exact List.map_congr_left fun f _ => c.sourceMap.fill_fill f
    exact (congrArg _ hstaged).trans hfilled
  have hmissing : (c.addTo (c.addTo a)).collection.missing = (c.addTo a).collection.missing :=
    Collection.insertNames_insertNames a.collection.missing c.missing
  have hclasses : (c.addTo (c.addTo a)).collection.classes = (c.addTo a).collection.classes :=
    Collection.setFlags_setFlags a.collection.classes c.classes
  have hproject : (c.addTo (c.addTo a)).project = (c.addTo a).project := by
    refine Project.ext_paths ?_ (fun k => ?_) rfl
    · rw [addTo, addTo, ← Option.or_assoc, Option.or_self]
    · rw [paths_addTo, paths_addTo]
      exact Project.extend_extend (a.project.paths k) (c.paths k)
  refine congrArg₂ Archive.mk ?_ hproject
  exact (Collection.mk.injEq ..).mpr ⟨hfindings, rfl, hmissing, hclasses⟩

end Contents

namespace Archive

variable {r : Registry} {d : Disk} {source : Source} {a : Archive}

/-- A document that was read can be read again, and then only its errors are added once more. -/
theorem readFrom_again [Machine] (h : ((readFrom r d source).apply a).1.result = .ok ()) :
    let once := ((readFrom r d source).apply a).2
    ∃ root, rootFrom d source = .ok root ∧
      let errors := (Contents.ofElements r root.children).errors
      once.collection.errors = a.collection.errors ++ errors ∧
      ((readFrom r d source).apply once).1.result = .ok () ∧
      ((readFrom r d source).apply once).2 =
        { once with collection.errors := once.collection.errors ++ errors } := by
  obtain ⟨root, hr, hs⟩ := readFrom_eq_ok.mp h
  refine ⟨root, hr, ?_, readFrom_eq_ok.mpr ⟨root, hr, hs⟩, ?_⟩
  · rw [readFrom_eq_addTo hr hs]
    rfl
  · rw [readFrom_eq_addTo hr hs, readFrom_eq_addTo hr hs]
    exact Contents.addTo_addTo _ a

section Usual

attribute [local instance] Machine.usual

theorem readFrom_again_report :
    ((readFrom .builtin .empty reportSource).apply disordered).1.result = .ok () ∧
      let once := ((readFrom .builtin .empty reportSource).apply disordered).2
      ∃ root, rootFrom .empty reportSource = .ok root ∧
        let errors := (Contents.ofElements .builtin root.children).errors
        once.collection.errors = disordered.collection.errors ++ errors ∧
        ((readFrom .builtin .empty reportSource).apply once).1.result = .ok () ∧
        ((readFrom .builtin .empty reportSource).apply once).2 =
          { once with collection.errors := once.collection.errors ++ errors } :=
  ⟨result_report disordered, readFrom_again (result_report disordered)⟩

end Usual

end Archive

end BugArchive
