import BugArchive.Proofs.Archive.Legacy

/-! What a document says, group by group. Reading adds this to an archive, wherever in the document
it stands. -/

namespace BugArchive

open Xml (Element)

namespace Section

/-- The groups of elements under a root. Whatever has no tag of another group is a finding. -/
inductive Group where
  | sourceMap
  | project
  | errors
  | appClass
  | finding
deriving DecidableEq

namespace Group

def ofTag (tag : String) : Group :=
  if tag = "SrcMap" then sourceMap
  else if tag = "Project" then project
  else if tag = "Errors" then errors
  else if tag = "AppClass" then appClass
  else finding

variable {tag : String}

lemma ofTag_eq_sourceMap : ofTag tag = sourceMap ↔ tag = "SrcMap" := by
  rw [ofTag]
  split_ifs <;> simp_all

lemma ofTag_eq_project : ofTag tag = project ↔ tag = "Project" := by
  rw [ofTag]
  split_ifs <;> simp_all

lemma ofTag_eq_errors : ofTag tag = errors ↔ tag = "Errors" := by
  rw [ofTag]
  split_ifs <;> simp_all

lemma ofTag_eq_appClass : ofTag tag = appClass ↔ tag = "AppClass" := by
  rw [ofTag]
  split_ifs <;> simp_all

lemma ofTag_eq_finding : ofTag tag = finding ↔ tag ∉ ownTags := by
  rw [ofTag]
  split_ifs <;> simp_all [ownTags]

def members (g : Group) (es : List Element) : List Element :=
  es.filter (ofTag ·.tag = g)

lemma members_cons (g : Group) (e : Element) (es : List Element) :
    g.members (e :: es) = if ofTag e.tag = g then e :: g.members es else g.members es := by
  by_cases h : ofTag e.tag = g <;> simp [members, h]

lemma members_append (g : Group) (es fs : List Element) :
    g.members (es ++ fs) = g.members es ++ g.members fs := by
  rw [members, List.filter_append]
  rfl

end Group

variable {r : Registry}

lemma ofElement_cases_group [Machine] {e : Element} {s : Section} (h : ofElement r e = .ok s) :
    (Group.ofTag e.tag = .sourceMap ∧ s = .sourceMap (sourceMapEntry e)) ∨
    (Group.ofTag e.tag = .project ∧ s = .project e) ∨
    (Group.ofTag e.tag = .errors ∧ ∃ l, errorLists e.children = .ok l ∧ s = .errors l.1 l.2) ∨
    (Group.ofTag e.tag = .appClass ∧ s = .appClass e.text (Decode.isTrue e "interface")) ∨
    (Group.ofTag e.tag = .finding ∧ ∃ f, Decode.topLevel r e = .ok f ∧ s = .finding f) := by
  rw [Group.ofTag_eq_sourceMap, Group.ofTag_eq_project, Group.ofTag_eq_errors,
    Group.ofTag_eq_appClass, Group.ofTag_eq_finding]
  obtain h | ⟨ht, -, h⟩ | h | h | h := ofElement_cases h
  · exact .inl h
  · exact .inr (.inl ⟨ht, h⟩)
  · exact .inr (.inr (.inl h))
  · exact .inr (.inr (.inr (.inl h)))
  · exact .inr (.inr (.inr (.inr h)))

end Section

open Section (Group)

def Xml.Element.texts (tag : String) (es : List Element) : List String :=
  (es.filter (·.tag = tag)).map (·.text)

structure Contents where
  sourceMap : SourceMap
  filenames : List String
  paths : PathKind → List String
  findings : List Finding
  errors : List String
  missing : List String
  classes : List (String × Bool)

namespace Contents

def ofElements [Machine] (r : Registry) (es : List Element) : Contents where
  sourceMap := legacyMap es
  filenames := (Group.project.members es).filterMap (·.get? "filename")
  paths k := Element.texts k.tag ((Group.project.members es).flatMap (·.children))
  findings := (Group.finding.members es).filterMap fun e => (Decode.topLevel r e).toOption
  errors := Element.texts "AnalysisError" ((Group.errors.members es).flatMap (·.children))
  missing := Element.texts "MissingClass" ((Group.errors.members es).flatMap (·.children))
  classes := (Group.appClass.members es).map fun e => (e.text, Decode.isTrue e "interface")

variable (c : Contents)

def staged : List Finding :=
  c.findings.map c.sourceMap.fill

def addTo (a : Archive) : Archive where
  collection := {
    findings := (c.staged.foldl Collection.insert a.collection.findings).map c.sourceMap.fill
    errors := a.collection.errors ++ c.errors
    missing := Collection.insertNames a.collection.missing c.missing
    classes := Collection.setFlags a.collection.classes c.classes }
  project := {
    filename := c.filenames.getLast?.or a.project.filename
    jars := Project.extend a.project.jars (c.paths .jar)
    auxClasspath := Project.extend a.project.auxClasspath (c.paths .auxClasspath)
    sourceDirs := Project.extend a.project.sourceDirs (c.paths .sourceDir)
    modified := false }

lemma paths_addTo (a : Archive) (k : PathKind) :
    (c.addTo a).project.paths k = Project.extend (a.project.paths k) (c.paths k) := by
  cases k <;> rfl

end Contents

lemma Xml.Element.texts_cons (tag : String) (e : Element) (es : List Element) :
    texts tag (e :: es) = if e.tag = tag then e.text :: texts tag es else texts tag es := by
  by_cases h : e.tag = tag <;> simp [texts, h]

lemma Project.pathsOf_eq_texts (k : PathKind) (es : List Element) :
    pathsOf k es = Element.texts k.tag es := by
  have hk (tag : String) : PathKind.ofTag? tag = some k ↔ tag = k.tag := by
    refine ⟨fun h => ?_, fun h => h ▸ k.ofTag?_tag⟩
    have htag : (k.tag == tag) = true := List.find?_some (p := fun k => PathKind.tag k == tag) h
    exact (beq_iff_eq.mp htag).symm
  induction es with
  | nil => rfl
  | cons e es ih =>
    rw [Element.texts_cons, ← ih]
    by_cases he : e.tag = k.tag <;> simp [pathsOf, hk, he]

namespace Section

lemma errorLists_eq {es : List Element} {l : List String × List String}
    (h : errorLists es = .ok l) :
    l = (Element.texts "AnalysisError" es, Element.texts "MissingClass" es) := by
  induction es generalizing l with
  | nil => exact (Except.ok.inj h).symm
  | cons e es ih =>
    rw [Element.texts_cons, Element.texts_cons]
    rw [errorLists] at h
    split at h
    · rename_i he
      obtain ⟨l, hl, rfl⟩ := map_eq_ok.mp h
      simp [ih hl, he]
    split at h
    · rename_i hn he
      obtain ⟨l, hl, rfl⟩ := map_eq_ok.mp h
      simp [ih hl, he]
    · cases h

variable [Machine] {es : List Element} {sections : List Section}

lemma flatMap_group {α : Type} {f : Section → List α} {k : Element → List α} (g : Group)
    (hf : ∀ e s, ofElement r e = .ok s → f s = if Group.ofTag e.tag = g then k e else [])
    (h : es.mapM (ofElement r) = .ok sections) :
    sections.flatMap f = (g.members es).flatMap k := by
  induction es generalizing sections with
  | nil =>
    obtain rfl := Except.ok.inj h
    rfl
  | cons e es ih =>
    obtain ⟨s, ss, hs, hss, rfl⟩ := mapM_cons_ok.mp h
    rw [List.flatMap_cons, ih hss, hf e s hs, Group.members_cons]
    split
    · rw [List.flatMap_cons]
    · rw [List.nil_append]

variable (h : es.mapM (ofElement r) = .ok sections)

include h

lemma projects_eq : sections.filterMap project? = Group.project.members es := by
  rw [List.filterMap_eq_flatMap_toList, flatMap_group .project (k := fun e => [e]) ?_ h,
    List.flatMap_singleton']
  intro e s hs
  obtain ⟨ht, rfl⟩ | ⟨ht, rfl⟩ | ⟨ht, l, -, rfl⟩ | ⟨ht, rfl⟩ | ⟨ht, f, -, rfl⟩ :=
    ofElement_cases_group hs <;> simp [ht, project?]

lemma classes_eq : sections.filterMap appClass? =
    (Group.appClass.members es).map fun e => (e.text, Decode.isTrue e "interface") := by
  rw [List.filterMap_eq_flatMap_toList, flatMap_group .appClass
    (k := fun e => [(e.text, Decode.isTrue e "interface")]) ?_ h, List.map_eq_flatMap]
  intro e s hs
  obtain ⟨ht, rfl⟩ | ⟨ht, rfl⟩ | ⟨ht, l, -, rfl⟩ | ⟨ht, rfl⟩ | ⟨ht, f, -, rfl⟩ :=
    ofElement_cases_group hs <;> simp [ht, appClass?]

lemma findings_eq : sections.filterMap finding? =
    (Group.finding.members es).filterMap fun e => (Decode.topLevel r e).toOption := by
  rw [List.filterMap_eq_flatMap_toList, flatMap_group .finding
    (k := fun e => (Decode.topLevel r e).toOption.toList) ?_ h, List.filterMap_eq_flatMap_toList]
  intro e s hs
  obtain ⟨ht, rfl⟩ | ⟨ht, rfl⟩ | ⟨ht, l, -, rfl⟩ | ⟨ht, rfl⟩ | ⟨ht, f, hf, rfl⟩ :=
    ofElement_cases_group hs
  all_goals simp [ht, finding?]
  simp [hf, Except.toOption]

lemma flatMap_errors {f : Section → List String} {tag : String}
    (hf : ∀ e s, ofElement r e = .ok s → Group.ofTag e.tag ≠ .errors → f s = [])
    (he : ∀ es l, errorLists es = .ok l → f (.errors l.1 l.2) = Element.texts tag es) :
    sections.flatMap f = Element.texts tag ((Group.errors.members es).flatMap (·.children)) := by
  have htexts (es : List Element) : Element.texts tag (es.flatMap (·.children)) =
      es.flatMap fun e => Element.texts tag e.children := by
    simp only [Element.texts, List.filter_flatMap, List.map_flatMap]
  rw [htexts]
  refine flatMap_group .errors (fun e s hs => ?_) h
  split
  · rename_i ht
    have hcases := ofElement_cases_group hs
    simp only [ht, reduceCtorEq, false_and, false_or, or_false, true_and] at hcases
    obtain ⟨l, hl, rfl⟩ := hcases
    exact he e.children l hl
  · rename_i ht
    exact hf e s hs ht

lemma messages_eq : sections.flatMap messages =
    Element.texts "AnalysisError" ((Group.errors.members es).flatMap (·.children)) := by
  refine flatMap_errors h (fun e s hs ht => ?_) fun es l hl => by rw [errorLists_eq hl]; rfl
  obtain ⟨-, rfl⟩ | ⟨-, rfl⟩ | ⟨hg, -⟩ | ⟨-, rfl⟩ | ⟨-, f, -, rfl⟩ := ofElement_cases_group hs
  all_goals first | rfl | exact absurd hg ht

lemma missing_eq : sections.flatMap missing =
    Element.texts "MissingClass" ((Group.errors.members es).flatMap (·.children)) := by
  refine flatMap_errors h (fun e s hs ht => ?_) fun es l hl => by rw [errorLists_eq hl]; rfl
  obtain ⟨-, rfl⟩ | ⟨-, rfl⟩ | ⟨hg, -⟩ | ⟨-, rfl⟩ | ⟨-, f, -, rfl⟩ := ofElement_cases_group hs
  all_goals first | rfl | exact absurd hg ht

end Section

namespace Archive

variable {r : Registry} {es : List Element}

lemma sourceMap_eq [Machine] {sections : List Section} (h : es.mapM (Section.ofElement r) = .ok sections) :
    sourceMap sections = legacyMap es := by
  rw [sourceMap, legacyMap, Section.filterMap_entry? h]

lemma absorb_eq [Machine] {sections : List Section} (h : es.mapM (Section.ofElement r) = .ok sections)
    (a : Archive) : absorb sections a = (Contents.ofElements r es).addTo a := by
  have hstaged : staged sections = (Contents.ofElements r es).staged := by
    rw [staged, sourceMap_eq h, Section.findings_eq h]
    rfl
  have hcollection : collect sections a.collection =
      ((Contents.ofElements r es).addTo a).collection := by
    rw [collect, hstaged, sourceMap_eq h, Section.messages_eq h, Section.missing_eq h,
      Section.classes_eq h]
    rfl
  have hproject : { (Group.project.members es).foldl Project.absorb a.project with
      modified := false } = ((Contents.ofElements r es).addTo a).project := by
    refine Project.ext_paths (Project.filename_foldl_absorb a.project _) (fun k => ?_) rfl
    have hpaths := Project.paths_foldl_absorb a.project k (Group.project.members es)
    rw [Project.pathsOf_eq_texts] at hpaths
    rw [Contents.paths_addTo]
    refine .trans ?_ hpaths
    cases k <;> rfl
  rw [absorb, hcollection, Section.projects_eq h, hproject]

def rootOf (s : Stream) : Except Error Element := do
  (Signature.check Signature.window s).result
  parse (Signature.check Signature.window s).stream

def rootFrom (d : Disk) (source : Source) : Except Error Element := do
  rootOf (← source.toStream d)

lemma rootOf_serialize {s : Stream} {width : Nat} {e : Element} {es : List Element}
    (hs : s.access = .seekable) (hl : s.limit ≠ some 0)
    (hw : Element.IsWritable ⟨"BugCollection", [], "", e :: es⟩)
    (hlegal : Element.IsLegal ⟨"BugCollection", [], "", e :: es⟩)
    (hc : s.remaining = serialize width ⟨"BugCollection", [], "", e :: es⟩) :
    rootOf s = .ok (Element.spaced (.indented width) 0 ⟨"BugCollection", [], "", e :: es⟩) := by
  have hparse := parse_serialize hw hc (by rw [hs]; decide) hlegal
  rw [rootOf, check_serialize hw hc hs hl, hparse]
  rfl

lemma decodeFrom_eq [Machine] (r : Registry) (d : Disk) (source : Source) : decodeFrom r d source =
    rootFrom d source >>= fun root => root.children.mapM (Section.ofElement r) := by
  simp only [decodeFrom, decode, rootFrom, rootOf, bind_assoc]

lemma readFrom_eq_ok [Machine] {d : Disk} {source : Source} {a : Archive} :
    ((readFrom r d source).apply a).1.result = .ok () ↔ ∃ root, rootFrom d source = .ok root ∧
      ∀ e ∈ root.children, ∃ s, Section.ofElement r e = .ok s := by
  simp only [result_readFrom, map_eq_ok, and_true, decodeFrom_eq, bind_eq_ok,
    ← mapM_succeeds_iff]
  constructor
  · rintro ⟨sections, root, hr, h⟩
    exact ⟨root, hr, sections, h⟩
  · rintro ⟨root, hr, sections, h⟩
    exact ⟨sections, root, hr, h⟩

lemma readFrom_eq_addTo [Machine] {d : Disk} {source : Source} {root : Element}
    (hr : rootFrom d source = .ok root) (h : ∀ e ∈ root.children, ∃ s, Section.ofElement r e = .ok s)
    (a : Archive) :
    ((readFrom r d source).apply a).2 = (Contents.ofElements r root.children).addTo a := by
  obtain ⟨sections, hs⟩ := mapM_succeeds_iff.mpr h
  have hd : decodeFrom r d source = .ok sections := by
    rw [decodeFrom_eq, hr]
    exact hs
  rw [archive_readFrom, hd]
  exact absorb_eq hs a

end Archive

end BugArchive
