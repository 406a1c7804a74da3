import BugArchive.Proofs.Archive.RoundTrip

namespace BugArchive

open Text (CodePoint Spelled)
open Xml (Element)

namespace Archive

section Machine

variable {σ : Type} [Spelled σ]

lemma parse_serialize_malformed {s : Stream} {width : Nat} {root : Element σ}
    (hw : root.IsWritable) (hs : s.access ≠ .closed) (hc : s.remaining = serialize width root) :
    parse s = .error (.document .malformed) ↔ root.HasIllegal := by
  have hread := read_serialize_malformed (s.reading pieceSize) width hw
  rw [Element.hasIllegal_iff_characters, ← hread, parse, if_neg hs, hc]
  cases Xml.Document.read (s.reading pieceSize) (serialize width root) with
  | ok e => exact iff_of_false (fun h => by cases h) fun h => by cases h
  | error err => simp

variable [Machine] {a : Archive σ} {width : Nat} {sink : Sink} {o : Outlet}

section Outcomes

variable (hn : a.HasShortNumbers)

include hn

lemma write_bare (hb : a.HasBare) : a.write width = .error .bareDetail := by
  have hf : a.collection.findings.mapM Finding.toElement = .error .bareDetail := by
    have hbare {f : Finding σ} (hf : f ∈ a.collection.findings) :
        (∃ d ∈ f.details, d.isBare = true) → f.toElement = .error .bareDetail :=
      Finding.toElement_bare (hn f hf)
    refine mapM_eq_error_of_mem (fun f hf => ?_) ?_
    · by_cases hd : ∃ d ∈ f.details, d.isBare = true
      · exact .inr (hbare hf hd)
      · simp only [not_exists, not_and, Bool.not_eq_true] at hd
        exact .inl ⟨_, Finding.toElement_eq hd (hn f hf)⟩
    · obtain ⟨f, hf, hd⟩ := hb
      exact ⟨f, hf, hbare hf hd⟩
  rw [write, document, toElement, hf]
  rfl

variable (hb : ¬ a.HasBare)

include hb

lemma write_illegal {tag : String} {place : Place} {p : CodePoint} :
    a.write width = .error (.illegalCharacter tag place p) ↔ a.shown.FirstIllegal tag place p := by
  rw [write_eq_check hb hn, ← checkDocument_illegal]
  cases checkDocument a.shown with
  | error err =>
    change Except.error err = _ ↔ Except.error err = _
    rw [Except.error.injEq, Except.error.injEq]
  | ok u =>
    -- Behind the check only the width can fail, and not for a code point.
    refine iff_of_false (fun h => ?_) fun h => by cases h
    change (checkWidth width a.shown >>= _) = _ at h
    rw [checkWidth] at h
    split at h
    · cases h
    split at h
    · cases h
    · cases h

lemma writeTo_illegal {tag : String} {place : Place} {p : CodePoint} :
    ((a.writeTo width sink).apply o).1 = .error (.illegalCharacter tag place p) ↔
      a.shown.FirstIllegal tag place p := by
  rw [← write_illegal hn hb]
  constructor
  · intro h
    obtain ⟨-, hw | ⟨p, hp⟩⟩ := writeTo_error h
    · exact hw
    · simp [Disk.pathErrors] at hp
  · intro h
    rw [apply_writeTo_error h]

end Outcomes

/-- Writing is all or nothing. It refuses bare details and, by its name and place, the first code
point that readers would not take. -/
theorem writeTo_all_or_nothing (hn : a.HasShortNumbers) (raw : Option String) (sink : Sink)
    (o : Outlet) :
    let width := Settings.indent raw
    let done := (a.writeTo width sink).apply o
    (∀ err, done.1 = .error err → done.2 = o) ∧
    (a.HasBare → done.1 = .error .bareDetail) ∧
    (¬ a.HasBare → ∃ root, a.toElement = .ok root ∧
      (∀ tag place p, done.1 = .error (.illegalCharacter tag place p) ↔
        root.FirstIllegal tag place p) ∧
      ((∃ tag place p, done.1 = .error (.illegalCharacter tag place p)) ↔ root.HasIllegal) ∧
      (∀ (n : Nat) (s : Stream), s.access ≠ .closed → s.remaining = serialize n root →
        (parse s = .error (.document .malformed) ↔ root.HasIllegal)) ∧
      (¬ root.HasIllegal → ¬ HasRoom width root →
        done.1 = .error (if Error.indexLimit ≤ width then .indexOverflow else .outOfMemory)) ∧
      (¬ root.HasIllegal → HasRoom width root → sink.IsReady o →
        done.1 = .ok (.archiveWritten root.children.length) ∧
          sink.Has (serialize width root) o done.2)) := by
  intro width done
  refine ⟨fun err h => (writeTo_error h).1, fun hb => ?_, fun hb => ?_⟩
  · exact congrArg Prod.fst (apply_writeTo_error (write_bare hn hb))
  refine ⟨a.shown, toElement_eq hb hn, fun tag place p => writeTo_illegal hn hb, ?_, ?_, ?_, ?_⟩
  · rw [hasIllegal_iff]
    simp only [done, writeTo_illegal hn hb]
  · intro n s hs hc
    exact parse_serialize_malformed (isWritable_shown hb) hs hc
  · intro hl hw
    exact congrArg Prod.fst (apply_writeTo_error (write_too_wide hb hn hl hw))
  · intro hl hw hready
    obtain ⟨o', hput, hhas⟩ := hready.apply_put (serialize width a.shown)
    have hdone : done = (.ok (.archiveWritten a.shown.children.length), o') := by
      refine (apply_writeTo_ok (write_legal hb hn hl hw)).trans ?_
      rw [hput]
      rfl
    rw [hdone]
    exact ⟨rfl, hhas⟩

end Machine

def surrogate : CodePoint := ⟨0xDCE9, by decide⟩

def unwritable : Archive Text.Raw where
  collection := ⟨[⟨Spelled.ofString "NP", 2, []⟩], [], [], []⟩
  project := ⟨none, [⟨"lib/caf".toList.map .ofChar ++ surrogate :: ".jar".toList.map .ofChar⟩], [],
    [], false⟩

section Usual

attribute [local instance] Machine.usual

theorem writeTo_all_or_nothing_unwritable : unwritable.HasShortNumbers ∧
    (unwritable.writeTo (Settings.indent none) (.path "out.xml")).apply ⟨.empty, []⟩ =
      (.error (.illegalCharacter "Jar" .text surrogate), ⟨.empty, []⟩) := by
  have hn : unwritable.HasShortNumbers := by
    intro f hf n hm
    obtain rfl := List.mem_singleton.mp hf
    obtain rfl := List.mem_singleton.mp hm
    exact Text.Numeral.isShort_of_lt_ten (by decide)
  have hb : ¬ unwritable.HasBare := not_hasBare.mpr (by decide)
  have hc : checkDocument unwritable.shown =
      .error (.illegalCharacter "Jar" .text surrogate) := rfl
  obtain ⟨hkept, -, h⟩ := writeTo_all_or_nothing hn none (.path "out.xml") ⟨.empty, []⟩
  obtain ⟨root, hroot, hfirst, -⟩ := h hb
  obtain rfl : unwritable.shown = root := Except.ok.inj ((toElement_eq hb hn).symm.trans hroot)
  have hdone := (hfirst _ _ _).mpr (checkDocument_illegal.mp hc)
  exact ⟨hn, Prod.ext hdone (hkept _ hdone)⟩

theorem writeTo_small_wide : small.IsSavable ∧ (Sink.path "out.xml").IsReady ⟨.empty, []⟩ ∧
    (small.writeTo (Settings.indent (some "9223372036854775808")) (.path "out.xml")).apply
      ⟨.empty, []⟩ = (.error .indexOverflow, ⟨.empty, []⟩) := by
  refine ⟨isSavable_small, ⟨rfl, rfl, rfl, fun n h => by cases h⟩, ?_⟩
  exact apply_writeTo_error (write_wide isSavable_small (by decide))

end Usual

end Archive

end BugArchive
