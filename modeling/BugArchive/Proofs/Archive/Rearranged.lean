import BugArchive.Proofs.Archive.Addition

namespace BugArchive

open Xml (Element)
open Section (Group)

variable {es fs : List Element}

section LegacyMap

lemma get?_legacyMap_append (es fs : List Element) (n : String) :
    (legacyMap (es ++ fs)).get? n = ((legacyMap fs).get? n).or ((legacyMap es).get? n) := by
  simp only [legacyMap, SourceMap.get?, SourceMap.ofPairs, List.filter_append, List.filterMap_append,
    List.reverse_append, List.lookup_append]

lemma get?_legacyMap_of_none {n : String}
    (h : ∀ e ∈ es, e.tag = "SrcMap" → e.get? "classname" ≠ some n) : (legacyMap es).get? n = none := by
  apply List.lookup_eq_none_iff.mpr
  rintro ⟨c, file⟩ hp
  obtain ⟨e, he, hentry⟩ := List.mem_filterMap.mp (List.mem_reverse.mp hp)
  obtain ⟨hmem, htag⟩ := List.mem_filter.mp he
  have hc : e.get? "classname" = some c := by
    rw [Section.sourceMapEntry] at hentry
    cases hc : e.get? "classname" <;> cases hf : e.get? "srcfile" <;> simp_all
  apply bne_iff_ne.mpr
  rintro rfl
  exact h e hmem (of_decide_eq_true htag) hc

end LegacyMap

/-- Two lists of the same elements: those of a group may pass those of others, and two that name
source files for classes may change places unless others for one of the classes are between. -/
inductive Rearranged : List Element → List Element → Prop where
  | groups {es fs : List Element} (h : ∀ g : Group, g.members es = g.members fs) : Rearranged es fs
  | maps {x y : Element} {c k : String} (front mid back : List Element)
    (hx : x.tag = "SrcMap") (hy : y.tag = "SrcMap")
    (hc : x.get? "classname" = some c) (hk : y.get? "classname" = some k) (hne : c ≠ k)
    (hmid : ∀ e ∈ mid, e.tag = "SrcMap" → e.get? "classname" ≠ some c ∧ e.get? "classname" ≠ some k) :
    Rearranged (front ++ x :: (mid ++ y :: back)) (front ++ y :: (mid ++ x :: back))
  | trans {es fs gs : List Element} (h : Rearranged es fs) (h' : Rearranged fs gs) : Rearranged es gs

namespace Rearranged

lemma members_eq (h : Rearranged es fs) {g : Group} (hg : g ≠ .sourceMap) :
    g.members es = g.members fs := by
  induction h with
  | groups h => exact h g
  | maps front mid back hx hy =>
    have hne {e : Element} (he : e.tag = "SrcMap") : Group.ofTag e.tag ≠ g :=
      fun h => hg (h.symm.trans (Group.ofTag_eq_sourceMap.mpr he))
    simp only [Group.members_append, Group.members_cons, if_neg (hne hx), if_neg (hne hy)]
  | trans _ _ ih ih' => exact ih.trans ih'

lemma get?_eq (h : Rearranged es fs) (n : String) :
    (legacyMap es).get? n = (legacyMap fs).get? n := by
  induction h with
  | @groups es fs h =>
    have hmaps (es : List Element) : es.filter (·.tag = "SrcMap") = Group.sourceMap.members es :=
      List.filter_congr fun e _ => decide_eq_decide.mpr Group.ofTag_eq_sourceMap.symm
    rw [legacyMap, legacyMap, hmaps, hmaps, h]
  | @maps x y c k front mid back hx hy hc hk hne hmid =>
    have hpieces (x y : Element) :
        (legacyMap (front ++ x :: (mid ++ y :: back))).get? n =
          (((((legacyMap back).get? n).or ((legacyMap [y]).get? n)).or ((legacyMap mid).get? n)).or
            ((legacyMap [x]).get? n)).or ((legacyMap front).get? n) := by
      change (legacyMap (front ++ ([x] ++ (mid ++ ([y] ++ back))))).get? n = _
      simp only [get?_legacyMap_append]
    have hother {e : Element} {c : String} (hc : e.get? "classname" = some c) (hn : n ≠ c) :
        (legacyMap [e]).get? n = none := by
      apply get?_legacyMap_of_none
      intro f hf _
      obtain rfl := List.mem_singleton.mp hf
      rw [hc]
      exact fun h => hn (Option.some.inj h).symm
    have hbetween (hn : n = c ∨ n = k) : (legacyMap mid).get? n = none := by
      apply get?_legacyMap_of_none
      intro e he ht
      obtain rfl | rfl := hn
      · exact (hmid e he ht).1
      · exact (hmid e he ht).2
    rw [hpieces, hpieces]
    -- At most one of the two elements names a file for `n`, and then none between them does.
    by_cases hnc : n = c
    · simp [hother hk (hnc.trans_ne hne), hbetween (.inl hnc)]
    by_cases hnk : n = k
    · simp [hother hc hnc, hbetween (.inr hnk)]
    · simp [hother hc hnc, hother hk hnk]
  | trans _ _ ih ih' => exact ih.trans ih'

variable {r : Registry}

lemma symm (h : Rearranged es fs) : Rearranged fs es := by
  induction h with
  | groups h => exact .groups fun g => (h g).symm
  | maps front mid back hx hy hc hk hne hmid =>
    exact .maps front mid back hy hx hk hc hne.symm fun e he ht => (hmid e he ht).symm
  | trans _ _ ih ih' => exact ih'.trans ih

lemma decoded [Machine] (h : Rearranged es fs) (hs : ∀ e ∈ es, ∃ s, Section.ofElement r e = .ok s) :
    ∀ e ∈ fs, ∃ s, Section.ofElement r e = .ok s := by
  intro e he
  by_cases ht : e.tag = "SrcMap"
  · exact ⟨.sourceMap (Section.sourceMapEntry e), by rw [Section.ofElement, if_pos ht]⟩
  · have hg : Group.ofTag e.tag ≠ .sourceMap := fun h => ht (Group.ofTag_eq_sourceMap.mp h)
    have hmem : e ∈ (Group.ofTag e.tag).members fs :=
      List.mem_filter.mpr ⟨he, decide_eq_true rfl⟩
    rw [← h.members_eq hg] at hmem
    exact hs e (List.mem_of_mem_filter hmem)

lemma addTo_eq [Machine] (h : Rearranged es fs) (a : Archive) :
    (Contents.ofElements r es).addTo a = (Contents.ofElements r fs).addTo a := by
  have hfill : (legacyMap es).fill = (legacyMap fs).fill :=
    SourceMap.fill_congr (legacyMap es) h.get?_eq
  simp only [Contents.addTo, Contents.staged, Contents.ofElements, hfill,
    h.members_eq (g := .project) (by decide), h.members_eq (g := .finding) (by decide),
    h.members_eq (g := .errors) (by decide), h.members_eq (g := .appClass) (by decide)]

end Rearranged

namespace Archive

variable {d d' : Disk} {source source' : Source} {root root' : Element}

/-- Of two documents with rearranged elements one is read when the other is, and with the same
archive after it. -/
theorem readFrom_rearranged [Machine] (h : rootFrom d source = .ok root) (h' : rootFrom d' source' = .ok root')
    (hr : Rearranged root.children root'.children) (r : Registry) (a : Archive) :
    (((readFrom r d source).apply a).1.result = .ok () ↔
      ((readFrom r d' source').apply a).1.result = .ok ()) ∧
    (((readFrom r d source).apply a).1.result = .ok () →
      ((readFrom r d source).apply a).2 = ((readFrom r d' source').apply a).2) := by
  have hok {d : Disk} {source : Source} {root : Element} (h : rootFrom d source = .ok root) :
      ((readFrom r d source).apply a).1.result = .ok () ↔
        ∀ e ∈ root.children, ∃ s, Section.ofElement r e = .ok s := by
    rw [readFrom_eq_ok, h]
    simp only [Except.ok.injEq, exists_eq_left']
  rw [hok h, hok h']
  refine ⟨⟨hr.decoded, hr.symm.decoded⟩, fun hs => ?_⟩
  rw [readFrom_eq_addTo h hs, readFrom_eq_addTo h' (hr.decoded hs)]
  exact hr.addTo_eq a

def withMaps (maps : List (String × String)) : Element :=
  ⟨"BugCollection", [], "", ⟨"BugInstance", [("type", "NP")], "",
    [.leaf "SourceLine" [("classname", "A")]]⟩ ::
      maps.map fun m => .leaf "SrcMap" [("classname", m.1), ("srcfile", m.2)]⟩

def mapsSource (maps : List (String × String)) : Source :=
  .stream (.ofContent (serialize 2 (withMaps maps)))

section WithMaps

variable {maps : List (String × String)} (hw : (withMaps maps).IsWritable)
  (hl : (withMaps maps).IsLegal)

include hw hl

lemma rootFrom_withMaps :
    rootFrom .empty (mapsSource maps) = .ok ((withMaps maps).spaced (.indented 2) 0) :=
  rootOf_serialize (s := .ofContent (serialize 2 (withMaps maps))) rfl (Option.some_ne_none _).symm hw hl rfl

lemma findings_withMaps [Machine] :
    ((readFrom .builtin .empty (mapsSource maps)).apply .empty).2.collection.findings =
      [(SourceMap.ofPairs maps).fill unplaced] := by
  have hd : decodeFrom .builtin .empty (mapsSource maps) =
      .ok (.finding unplaced :: maps.map fun m => .sourceMap (some m)) := by
    have hmaps : (maps.map fun m => Element.spaced (.indented 2) 1
        (.leaf "SrcMap" [("classname", m.1), ("srcfile", m.2)])).mapM (Section.ofElement .builtin) =
          .ok (maps.map fun m => .sourceMap (some m)) := by
      rw [List.mapM_map]
      exact mapM_eq_ok fun m _ => rfl
    have hfinding : Section.ofElement .builtin (Element.spaced (.indented 2) 1 ⟨"BugInstance",
        [("type", "NP")], "", [.leaf "SourceLine" [("classname", "A")]]⟩) =
          .ok (.finding unplaced) := by
      simp only [Section.ofElement, Decode.topLevel_spaced, Element.spaced_tag, topLevel_unplaced]
      rfl
    rw [decodeFrom_eq, rootFrom_withMaps hw hl]
    refine (congrArg (List.mapM _) (Element.spaced_children ..)).trans ?_
    rw [withMaps, List.map_cons, List.map_map, mapM_cons_ok]
    exact ⟨_, _, hfinding, hmaps, rfl⟩
  have hmap : sourceMap (.finding unplaced :: maps.map fun m => .sourceMap (some m)) =
      .ofPairs maps := by
    rw [sourceMap, List.filterMap_cons_none rfl, List.filterMap_map]
    exact congrArg _ List.filterMap_some
  have hfindings : (Section.finding unplaced :: maps.map fun m => .sourceMap (some m)).filterMap
      Section.finding? = [unplaced] := by
    rw [List.filterMap_cons_some (f := Section.finding?) (b := unplaced) rfl, List.filterMap_map]
    exact congrArg _ (List.filterMap_eq_nil_iff.mpr fun _ _ => rfl)
  have hinsert (f : Finding) : Collection.insert [] f = [f] :=
    Collection.insert_last List.not_mem_nil (List.forall_mem_nil _)
  rw [archive_readFrom, hd]
  change ((staged _).foldl Collection.insert []).map (sourceMap _).fill = _
  rw [staged, hmap, hfindings, List.map_singleton, List.foldl_cons, List.foldl_nil, hinsert,
    List.map_singleton, SourceMap.fill_fill]

end WithMaps

section Usual

attribute [local instance] Machine.usual

theorem findings_swapped :
    ((readFrom .builtin .empty (mapsSource
      [("A", "A.java"), ("A", "New.java"), ("B", "B.java")])).apply .empty).2.collection.findings =
        [⟨"NP", 2, [.atLine { SourceLine.ofClass "A" with sourceFile := some "New.java" }]⟩] ∧
    ((readFrom .builtin .empty (mapsSource
      [("B", "B.java"), ("A", "New.java"), ("A", "A.java")])).apply .empty).2.collection.findings =
        [placed] :=
  ⟨(findings_withMaps (Element.isWritable_of_all (by decide))
      (Element.isLegal_of_all (by decide))).trans (by decide),
    (findings_withMaps (Element.isWritable_of_all (by decide))
      (Element.isLegal_of_all (by decide))).trans (by decide)⟩

theorem readFrom_rearranged_maps :
    let source := mapsSource [("A", "A.java"), ("B", "B.java")]
    let source' := mapsSource [("B", "B.java"), ("A", "A.java")]
    ∃ root root', rootFrom .empty source = .ok root ∧ rootFrom .empty source' = .ok root' ∧
      Rearranged root.children root'.children ∧
      (((readFrom .builtin .empty source).apply disordered).1.result = .ok () ↔
        ((readFrom .builtin .empty source').apply disordered).1.result = .ok ()) ∧
      (((readFrom .builtin .empty source).apply disordered).1.result = .ok () →
        ((readFrom .builtin .empty source).apply disordered).2 =
          ((readFrom .builtin .empty source').apply disordered).2) := by
  have h : rootFrom .empty (mapsSource [("A", "A.java"), ("B", "B.java")]) = .ok _ :=
    rootFrom_withMaps (Element.isWritable_of_all (by decide)) (Element.isLegal_of_all (by decide))
  have h' : rootFrom .empty (mapsSource [("B", "B.java"), ("A", "A.java")]) = .ok _ :=
    rootFrom_withMaps (Element.isWritable_of_all (by decide)) (Element.isLegal_of_all (by decide))
  have hr : Rearranged ((withMaps [("A", "A.java"), ("B", "B.java")]).spaced (.indented 2) 0).children
      ((withMaps [("B", "B.java"), ("A", "A.java")]).spaced (.indented 2) 0).children :=
    .maps [_] [] [] rfl rfl rfl rfl (show "A" ≠ "B" by decide) (List.forall_mem_nil _)
  exact ⟨_, _, h, h', hr, readFrom_rearranged h h' hr .builtin disordered⟩

end Usual

end Archive

end BugArchive
