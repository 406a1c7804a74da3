import BugArchive.Proofs.Fallible
import BugArchive.Proofs.Path

namespace BugArchive.Disk

variable {d : Disk} {path : String} {place : List String}

structure LeadsToFile (d : Disk) (path : String) : Prop where
  way : d.wayFault path = none
  name : wantsDirectory path = false
  short : endsTooLong (d.target path) = false
  node : ∀ n, d.node? (d.target path) = some n → ∃ content, n = .file content

def pathErrors (path : String) : List Error :=
  [.nullInPath, .noSuchFile path, .notDirectory path, .isDirectory path, .pathTooLong path]

lemma wayFault_mem {err : Error} (h : d.wayFault path = some err) : err ∈ pathErrors path := by
  rw [wayFault] at h
  split at h
  · cases h
    simp [pathErrors]
  split at h
  · cases h
    simp [pathErrors]
  split at h
  · cases h
    simp [pathErrors]
  obtain ⟨p, -, hp⟩ := List.exists_of_findSome?_eq_some h
  split at hp
  · cases hp
    simp [pathErrors]
  split at hp
  · cases hp
  · cases hp
    simp [pathErrors]
  · cases hp
    simp [pathErrors]

lemma wayFault_eq_none : d.wayFault path = none ↔
    '\x00' ∉ path.toList ∧ path ≠ "" ∧ path.utf8ByteSize ≤ maxPathSize ∧
      ∀ p ∈ d.parents path ++ above (d.target path), endsTooLong p = false ∧ d.node? p = some .directory := by
  simp only [wayFault, List.contains_iff_mem]
  split
  · rename_i h
    exact iff_of_false nofun fun hp => hp.1 h
  split
  · rename_i h
    exact iff_of_false nofun fun hp => hp.2.1 h
  split
  · rename_i h
    exact iff_of_false nofun fun hp => Nat.not_le_of_lt h hp.2.2.1
  rename_i hnull hempty hlong
  rw [List.findSome?_eq_none_iff, and_iff_right hnull, and_iff_right hempty,
    and_iff_right (Nat.le_of_not_lt hlong)]
  refine forall₂_congr fun p _ => ?_
  split
  · rename_i hname
    exact iff_of_false nofun fun hp => Bool.eq_false_iff.mp hp.1 hname
  · rename_i hname
    rw [Bool.not_eq_true] at hname
    rw [and_iff_right hname]
    cases hn : d.node? p with
    | none => exact iff_of_false nofun nofun
    | some n => cases n <;> simp

lemma write_error_mem {content : List UInt8} {err : Error} (h : d.write path content = .error err) :
    err ∈ pathErrors path := by
  rw [write] at h
  split at h
  · rename_i hway
    exact Except.error.inj h ▸ wayFault_mem hway
  split at h
  · cases h
    simp [pathErrors]
  split at h
  · cases h
    simp [pathErrors]
  split at h
  · cases h
    simp [pathErrors]
  · cases h
  · cases h

section Put

variable (d) (place) (content : List UInt8)

@[simp]
lemma target_put : (d.put place content).target path = d.target path := rfl

@[simp]
lemma parents_put : (d.put place content).parents path = d.parents path := by
  have hway (start : List String) (ns : List String) :
      (d.put place content).way start ns = d.way start ns := by
    induction ns generalizing start with
    | nil => rfl
    | cons n ns ih => exact congrArg (start :: ·) (ih _)
  exact hway (origin path) (names path)

lemma lookup_put_self : (d.put place content).nodes.lookup place = some (.file content) := by
  have hreplaced {ns : List (List String × Node)} (h : ns.any (·.1 == place) = true) :
      (ns.map fun n => if n.1 == place then (place, .file content) else n).lookup place =
        some (.file content) := by
    induction ns with
    | nil => cases h
    | cons n ns ih =>
      rw [List.map_cons]
      by_cases hn : n.1 = place
      · rw [if_pos (beq_iff_eq.mpr hn), List.lookup_cons_self]
      · rw [List.any_cons, beq_eq_false_iff_ne.mpr hn, Bool.false_or] at h
        rw [if_neg (by simpa using hn), lookup_cons_of_ne _ (Ne.symm hn), ih h]
  rw [put]
  split
  · rename_i hany
    exact hreplaced hany
  · rename_i hany
    have hnone : d.nodes.lookup place = none := by
      rw [List.lookup_eq_none_iff]
      intro n hn
      rw [bne_iff_ne]
      rintro rfl
      exact hany (List.any_eq_true.mpr ⟨n, hn, BEq.rfl⟩)
    rw [List.lookup_append, hnone, Option.none_or, List.lookup_cons_self]

lemma lookup_put_of_ne {other : List String} (h : other ≠ place) :
    (d.put place content).nodes.lookup other = d.nodes.lookup other := by
  have hreplaced (ns : List (List String × Node)) :
      (ns.map fun n => if n.1 == place then (place, .file content) else n).lookup other =
        ns.lookup other := by
    induction ns with
    | nil => rfl
    | cons n ns ih =>
      rw [List.map_cons]
      by_cases hn : n.1 = place
      · obtain ⟨name, node⟩ := n
        obtain rfl := hn
        rw [if_pos BEq.rfl, lookup_cons_of_ne _ h, lookup_cons_of_ne _ h, ih]
      · rw [if_neg (by simpa using hn), List.lookup_cons, List.lookup_cons, ih]
  rw [put]
  split
  · exact hreplaced d.nodes
  · rw [List.lookup_append, lookup_cons_of_ne _ h, List.lookup_nil, Option.or_none]

lemma any_put {p : List String → Bool} (h : d.nodes.any (p ·.1) = true) :
    (d.put place content).nodes.any (p ·.1) = true := by
  obtain ⟨n, hn, hp⟩ := List.any_eq_true.mp h
  rw [put, List.any_eq_true]
  split
  · by_cases hname : n.1 = place
    · exact ⟨_, List.mem_map_of_mem hn, by rwa [if_pos (beq_iff_eq.mpr hname), ← hname]⟩
    · exact ⟨_, List.mem_map_of_mem hn, by rwa [if_neg (by simpa using hname)]⟩
  · exact ⟨n, List.mem_append_left _ hn, hp⟩

lemma node?_put_directory {other : List String} (h : other ≠ place)
    (hd : d.node? other = some .directory) : (d.put place content).node? other = some .directory := by
  rw [node?] at hd ⊢
  split at hd
  · rename_i habove
    rw [if_pos habove]
  · rename_i habove
    rw [if_neg habove, lookup_put_of_ne d place content h]
    split at hd
    · exact hd
    · split at hd
      · rename_i hany
        exact if_pos (any_put d place content hany)
      · cases hd

lemma put_put (other : List UInt8) : (d.put place content).put place other = d.put place other := by
  have hany : (d.put place content).nodes.any (·.1 == place) = true := by
    have hsome := Option.isSome_of_eq_some (lookup_put_self d place content)
    simpa only [List.lookup_isSome_iff, List.any_eq_true, BEq.comm] using hsome
  rw [put, if_pos hany, put, put]
  split
  · rw [List.map_map]
    refine congrArg (Disk.mk · d.links) (List.map_congr_left fun n _ => ?_)
    by_cases hn : n.1 = place <;> simp [hn]
  · rename_i hnew
    have hold : d.nodes.map (fun n => if n.1 == place then (place, .file other) else n) = d.nodes := by
      refine (List.map_congr_left fun n hn => if_neg fun h => ?_).trans (List.map_id _)
      exact hnew (List.any_eq_true.mpr ⟨n, hn, h⟩)
    rw [List.map_append, hold]
    simp

lemma any_of_any_put {p : List String → Bool} (h : (d.put place content).nodes.any (p ·.1) = true) :
    d.nodes.any (p ·.1) = true ∨ p place = true := by
  obtain ⟨n, hn, hp⟩ := List.any_eq_true.mp h
  rw [put] at hn
  split at hn
  · obtain ⟨m, hm, rfl⟩ := List.mem_map.mp hn
    split at hp
    · exact .inr hp
    · exact .inl (List.any_eq_true.mpr ⟨m, hm, hp⟩)
  · rcases List.mem_append.mp hn with hn | hn
    · exact .inl (List.any_eq_true.mpr ⟨n, hn, hp⟩)
    · obtain rfl := List.mem_singleton.mp hn
      exact .inr hp

end Put

lemma LeadsToFile.not_directory (h : d.LeadsToFile path) : d.node? (d.target path) ≠ some .directory := by
  intro hn
  obtain ⟨content, hf⟩ := h.node _ hn
  cases hf

lemma LeadsToFile.write_eq (h : d.LeadsToFile path) (content : List UInt8) :
    d.write path content = .ok (d.put (d.target path) content) := by
  rw [write, h.way, h.name, h.short]
  cases hn : d.node? (d.target path) with
  | none => rfl
  | some n =>
    obtain ⟨old, rfl⟩ := h.node n hn
    rfl

lemma LeadsToFile.wayFault_put (h : d.LeadsToFile path) (content : List UInt8) :
    (d.put (d.target path) content).wayFault path = none := by
  obtain ⟨hnull, hempty, hlong, hparents⟩ := wayFault_eq_none.mp h.way
  refine wayFault_eq_none.mpr ⟨hnull, hempty, hlong, fun p hp => ?_⟩
  rw [parents_put, target_put] at hp
  obtain ⟨hname, hdirectory⟩ := hparents p hp
  -- The way to a file is through directories, so the file is not on it.
  have hne : p ≠ d.target path := fun hp => h.not_directory (hp ▸ hdirectory)
  exact ⟨hname, d.node?_put_directory _ content hne hdirectory⟩

lemma LeadsToFile.node?_put_self (h : d.LeadsToFile path) (content : List UInt8) :
    (d.put (d.target path) content).node? (d.target path) = some (.file content) := by
  rw [node?, if_neg, lookup_put_self]
  intro habove
  exact h.not_directory (by rw [node?, if_pos habove])

lemma LeadsToFile.read_put (h : d.LeadsToFile path) (content : List UInt8) :
    (d.put (d.target path) content).read path = .ok content := by
  rw [read, h.wayFault_put, target_put, h.short, h.node?_put_self, h.name]
  rfl

lemma LeadsToFile.put (h : d.LeadsToFile path) (content : List UInt8) :
    (d.put (d.target path) content).LeadsToFile path :=
  ⟨h.wayFault_put content, h.name, h.short, fun _ hn =>
    ⟨content, Option.some.inj (hn.symm.trans (h.node?_put_self content))⟩⟩

lemma LeadsToFile.node?_put_of_ne (h : d.LeadsToFile path) (content : List UInt8)
    (hne : place ≠ d.target path) : (d.put (d.target path) content).node? place = d.node? place := by
  rw [node?, node?, lookup_put_of_ne d _ content hne]
  split
  · rfl
  rename_i habove
  cases hlookup : d.nodes.lookup place with
  | some n => rfl
  | none =>
    dsimp only
    refine if_congr ⟨fun hany => ?_, any_put d _ content⟩ rfl rfl
    rcases any_of_any_put d _ content hany with hany | hprefix
    · exact hany
    · -- Nothing above the file is new: it was looked at before.
      have hp := (mem_above (List.isPrefixOf_iff_prefix.mp hprefix)).resolve_left hne
      have hdirectory := ((wayFault_eq_none.mp h.way).2.2.2 place (List.mem_append_right _ hp)).2
      rw [node?, if_neg habove, hlookup] at hdirectory
      by_contra hnone
      rw [if_neg hnone] at hdirectory
      cases hdirectory

section Write

variable {d' : Disk} {content : List UInt8}

lemma write_eq_ok (h : d.write path content = .ok d') :
    d.node? (d.target path) = some .sink ∧ d' = d ∨
      d.LeadsToFile path ∧ d' = d.put (d.target path) content := by
  rw [write] at h
  split at h
  · cases h
  rename_i hway
  split at h
  · cases h
  rename_i hname
  split at h
  · cases h
  rename_i hshort
  rw [Bool.not_eq_true] at hname hshort
  split at h
  · cases h
  · rename_i hnode
    exact .inl ⟨hnode, (Except.ok.inj h).symm⟩
  · rename_i hdirectory hsink
    refine .inr ⟨⟨hway, hname, hshort, fun n hn => ?_⟩, (Except.ok.inj h).symm⟩
    cases n with
    | file content => exact ⟨content, rfl⟩
    | directory => exact absurd hn hdirectory
    | sink => exact absurd hn hsink

lemma node?_of_write (h : d.write path content = .ok d')
    (hne : place ≠ d.target path) : d'.node? place = d.node? place := by
  rcases write_eq_ok h with ⟨-, rfl⟩ | ⟨hleads, rfl⟩
  · rfl
  · exact hleads.node?_put_of_ne content hne

lemma links_of_write (h : d.write path content = .ok d') : d'.links = d.links := by
  rcases write_eq_ok h with ⟨-, rfl⟩ | ⟨-, rfl⟩ <;> rfl

lemma read_of_write (h : d.write path content = .ok d') (hs : d.node? (d.target path) ≠ some .sink) :
    d'.read path = .ok content := by
  rcases write_eq_ok h with ⟨hsink, -⟩ | ⟨hleads, rfl⟩
  · exact absurd hsink hs
  · exact hleads.read_put content

lemma write_again (h : d.write path content = .ok d') : d'.write path content = .ok d' := by
  rcases write_eq_ok h with ⟨-, rfl⟩ | ⟨hleads, rfl⟩
  · exact h
  · rw [(hleads.put content).write_eq, target_put, put_put]

end Write

end BugArchive.Disk
