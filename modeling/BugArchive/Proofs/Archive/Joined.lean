import BugArchive.Proofs.Archive.Addition

namespace BugArchive

open Xml (Element)
open Section (Group)

namespace Contents

def append (c d : Contents) : Contents where
  sourceMap := ⟨d.sourceMap.entries ++ c.sourceMap.entries⟩
  filenames := c.filenames ++ d.filenames
  paths k := c.paths k ++ d.paths k
  findings := c.findings ++ d.findings
  errors := c.errors ++ d.errors
  missing := c.missing ++ d.missing
  classes := c.classes ++ d.classes

lemma ofElements_append [Machine] (r : Registry) (es fs : List Element) :
    ofElements r (es ++ fs) = (ofElements r es).append (ofElements r fs) := by
  simp [append, ofElements, legacyMap, SourceMap.ofPairs, Group.members_append, Element.texts]

lemma sourceMap_ofElements [Machine] (r : Registry) {es : List Element} (h : ∀ e ∈ es, e.tag ≠ "SrcMap") :
    (ofElements r es).sourceMap = ⟨[]⟩ := by
  have hnone : es.filter (·.tag = "SrcMap") = [] := by simpa [List.filter_eq_nil_iff] using h
  simp [ofElements, legacyMap, SourceMap.ofPairs, hnone]

variable {c d : Contents}

lemma findings_addTo (hc : c.sourceMap = ⟨[]⟩) (a : Archive) :
    (c.addTo a).collection.findings = c.findings.foldl Collection.insert a.collection.findings := by
  have hfill : SourceMap.fill ⟨[]⟩ = id := funext SourceMap.fill_empty
  simp [addTo, staged, hc, hfill]

lemma addTo_append (hc : c.sourceMap = ⟨[]⟩) (hd : d.sourceMap = ⟨[]⟩) (a : Archive) :
    (c.append d).addTo a = d.addTo (c.addTo a) := by
  have hcd : (c.append d).sourceMap = ⟨[]⟩ := by simp [append, hc, hd]
  have hfindings : ((c.append d).addTo a).collection.findings =
      (d.addTo (c.addTo a)).collection.findings := by
    -- No line is filled, so what the first adds stays as it is when the second comes.
    rw [findings_addTo hcd, findings_addTo hd, findings_addTo hc]
    exact List.foldl_append
  have hproject : ((c.append d).addTo a).project = (d.addTo (c.addTo a)).project := by
    apply Project.ext_paths
    · change (c.filenames ++ d.filenames).getLast?.or a.project.filename =
        d.filenames.getLast?.or (c.filenames.getLast?.or a.project.filename)
      rw [List.getLast?_append, Option.or_assoc]
    · intro k
      simp only [paths_addTo]
      exact Project.extend_append (a.project.paths k) (c.paths k) (d.paths k)
    · rfl
  refine congrArg₂ Archive.mk ?_ hproject
  refine (Collection.mk.injEq ..).mpr ⟨hfindings, ?_, ?_, ?_⟩
  · exact (List.append_assoc a.collection.errors c.errors d.errors).symm
  · exact List.foldl_append
  · exact List.foldl_append

end Contents

namespace Archive

variable {d d₁ d₂ : Disk} {source source₁ source₂ : Source} {root root₁ root₂ : Element}

lemma result_of_rootFrom [Machine] (h : rootFrom d source = .ok root) (r : Registry) (a : Archive) :
    ((readFrom r d source).apply a).1.result =
      (root.children.mapM (Section.ofElement r)).map fun _ => () := by
  rw [result_readFrom, decodeFrom_eq, h]
  rfl

/-- Where no source files are named apart from the lines, documents can be joined: what fails is
what fails first, and what is read is what is read of the one and then of the other. -/
theorem readFrom_joined [Machine] (h : rootFrom d source = .ok root) (h₁ : rootFrom d₁ source₁ = .ok root₁)
    (h₂ : rootFrom d₂ source₂ = .ok root₂) (hc : root.children = root₁.children ++ root₂.children)
    (hm : ∀ e ∈ root.children, e.tag ≠ "SrcMap") (r : Registry) (a : Archive) :
    let first := (readFrom r d₁ source₁).apply a
    let second := (readFrom r d₂ source₂).apply first.2
    let whole := (readFrom r d source).apply a
    (whole.1.result = first.1.result >>= fun _ => second.1.result) ∧
      (first.1.result = .ok () → second.1.result = .ok () →
        whole.1.result = .ok () ∧ whole.2 = second.2) := by
  intro first second whole
  have hresult : whole.1.result = first.1.result >>= fun _ => second.1.result := by
    simp only [whole, first, second, result_of_rootFrom h, result_of_rootFrom h₁,
      result_of_rootFrom h₂, hc, List.mapM_append]
    cases root₁.children.mapM (Section.ofElement r) with
    | error err => rfl
    | ok sections => cases root₂.children.mapM (Section.ofElement r) <;> rfl
  refine ⟨hresult, fun hfirst hsecond => ?_⟩
  have hwhole : whole.1.result = .ok () := by
    rw [hresult, hfirst]
    exact hsecond
  refine ⟨hwhole, ?_⟩
  have hall {d : Disk} {source : Source} {root : Element} {a : Archive}
      (h : rootFrom d source = .ok root) (hok : ((readFrom r d source).apply a).1.result = .ok ()) :
      ∀ e ∈ root.children, ∃ s, Section.ofElement r e = .ok s := by
    obtain ⟨_, hr, hs⟩ := readFrom_eq_ok.mp hok
    rw [h] at hr
    obtain rfl := Except.ok.inj hr
    exact hs
  have hmaps := List.forall_mem_append.mp (hc ▸ hm)
  have hone : first.2 = (Contents.ofElements r root₁.children).addTo a :=
    readFrom_eq_addTo h₁ (hall h₁ hfirst) a
  have htwo : second.2 = (Contents.ofElements r root₂.children).addTo first.2 :=
    readFrom_eq_addTo h₂ (hall h₂ hsecond) first.2
  calc whole.2
    _ = (Contents.ofElements r root.children).addTo a := readFrom_eq_addTo h (hall h hwhole) a
    _ = (Contents.ofElements r root₂.children).addTo
          ((Contents.ofElements r root₁.children).addTo a) := by
      rw [hc, Contents.ofElements_append]
      exact Contents.addTo_append (Contents.sourceMap_ofElements r hmaps.1)
        (Contents.sourceMap_ofElements r hmaps.2) a
    _ = second.2 := by rw [htwo, hone]

def documentOf (parts : List Element) : Element := ⟨"BugCollection", [], "", parts⟩

def sourceOf (parts : List Element) : Source :=
  .stream (.ofContent (serialize 2 (documentOf parts)))

lemma rootFrom_sourceOf {e : Element} {es : List Element} (hw : (documentOf (e :: es)).IsWritable)
    (hl : (documentOf (e :: es)).IsLegal) :
    rootFrom .empty (sourceOf (e :: es)) = .ok ((documentOf (e :: es)).spaced (.indented 2) 0) :=
  rootOf_serialize (s := .ofContent (serialize 2 (documentOf (e :: es)))) rfl
    (Option.some_ne_none _).symm hw hl rfl

def earlier : List Element := [
  ⟨"BugInstance", [("type", "NP")], "", [.leaf "SourceLine" [("classname", "A")]]⟩,
  ⟨"Project", [("filename", "app.fbp")], "", [.ofText "Jar" "b.jar"]⟩,
  ⟨"Errors", [], "", [.ofText "AnalysisError" "timeout", .ofText "MissingClass" "M"]⟩,
  ⟨"AppClass", [("interface", "true")], "A", []⟩]

def later : List Element := [
  ⟨"AppClass", [], "A", []⟩,
  ⟨"Errors", [], "", [.ofText "MissingClass" "M", .ofText "MissingClass" "L"]⟩,
  ⟨"Project", [("filename", "lib.fbp")], "", [.ofText "Jar" "c.jar", .ofText "Jar" "b.jar"]⟩,
  ⟨"BugInstance", [("type", "NP")], "", [.leaf "SourceLine" [("classname", "A")]]⟩]

lemma rootFrom_earlier :
    rootFrom .empty (sourceOf earlier) = .ok ((documentOf earlier).spaced (.indented 2) 0) :=
  rootFrom_sourceOf (Element.isWritable_of_all (by decide)) (Element.isLegal_of_all (by decide))

lemma rootFrom_later :
    rootFrom .empty (sourceOf later) = .ok ((documentOf later).spaced (.indented 2) 0) :=
  rootFrom_sourceOf (Element.isWritable_of_all (by decide)) (Element.isLegal_of_all (by decide))

section Usual

attribute [local instance] Machine.usual

lemma result_earlier (a : Archive) :
    ((readFrom .builtin .empty (sourceOf earlier)).apply a).1.result = .ok () := by
  rw [result_of_rootFrom rootFrom_earlier, Element.spaced_children]
  simp only [documentOf, earlier, List.map_cons, List.mapM_cons, Section.ofElement,
    Decode.topLevel_spaced, Element.spaced_tag, topLevel_unplaced]
  rfl

lemma result_later (a : Archive) :
    ((readFrom .builtin .empty (sourceOf later)).apply a).1.result = .ok () := by
  rw [result_of_rootFrom rootFrom_later, Element.spaced_children]
  simp only [documentOf, later, List.map_cons, List.mapM_cons, Section.ofElement,
    Decode.topLevel_spaced, Element.spaced_tag, topLevel_unplaced]
  rfl

theorem readFrom_joined_overlapping :
    let first := (readFrom .builtin .empty (sourceOf earlier)).apply disordered
    let second := (readFrom .builtin .empty (sourceOf later)).apply first.2
    let whole := (readFrom .builtin .empty (sourceOf (earlier ++ later))).apply disordered
    first.1.result = .ok () ∧ second.1.result = .ok () ∧ whole.1.result = .ok () ∧
      whole.2 = second.2 := by
  have h : rootFrom .empty (sourceOf (earlier ++ later)) =
      .ok ((documentOf (earlier ++ later)).spaced (.indented 2) 0) :=
    rootFrom_sourceOf (Element.isWritable_of_all (by decide)) (Element.isLegal_of_all (by decide))
  have hc : ((documentOf (earlier ++ later)).spaced (.indented 2) 0).children =
      ((documentOf earlier).spaced (.indented 2) 0).children ++
        ((documentOf later).spaced (.indented 2) 0).children := by
    simp only [Element.spaced_children, documentOf, List.map_append]
  have hm : ∀ e ∈ ((documentOf (earlier ++ later)).spaced (.indented 2) 0).children,
      e.tag ≠ "SrcMap" := by
    decide
  exact ⟨result_earlier _, result_later _, (readFrom_joined h rootFrom_earlier rootFrom_later hc hm
    .builtin disordered).2 (result_earlier _) (result_later _)⟩

end Usual

end Archive

end BugArchive
