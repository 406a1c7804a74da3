import BugArchive.Proofs.SourceMap

namespace BugArchive

def Detail.withLine (k : SourceLine) : Detail → Detail
  | atLine _ => atLine k
  | inMethod className name signature (some _) => inMethod className name signature (some k)
  | a => a

namespace SourceMap

variable (m n : SourceMap)

def overlay : SourceMap :=
  ⟨m.entries ++ n.entries⟩

def Supplies (a : Detail) (l : SourceLine) (file : String) : Prop :=
  a.line? = some l ∧ l.sourceFile = none ∧ m.get? l.className = some file

/-- Whether `b` is what becomes of `a`: the same but for the file that the map supplies. -/
structure Settles (a b : Detail) : Prop where
  supplied : ∀ l file, m.Supplies a l file → b = a.withLine { l with sourceFile := some file }
  kept : (∀ l file, ¬ m.Supplies a l file) → b = a

structure SettlesAll (f g : Finding) : Prop where
  type : g.type = f.type
  priority : g.priority = f.priority
  details : List.Forall₂ m.Settles f.details g.details

def differences (fs gs : List Finding) : Nat :=
  ((fs.flatMap (·.details)).zip (gs.flatMap (·.details))).countP fun p => p.1 ≠ p.2

variable {m n}

lemma get?_overlay (className : String) :
    (m.overlay n).get? className = (m.get? className).or (n.get? className) :=
  List.lookup_append

lemma fillLine_known {l : SourceLine} {file : String} (h : l.sourceFile = some file) :
    m.fillLine l = l := by
  rw [fillLine, h]

lemma fillLine_unknown {l : SourceLine} (h : l.sourceFile = none) :
    m.fillLine l = { l with sourceFile := m.get? l.className } := by
  rw [fillLine, h]

lemma line?_fillDetail (a : Detail) : (m.fillDetail a).line? = a.line?.map m.fillLine := by
  cases a <;> rfl

lemma fillDetail_eq {a : Detail} {l : SourceLine} (h : a.line? = some l) :
    m.fillDetail a = a.withLine (m.fillLine l) := by
  cases a with
  | atLine k =>
    obtain rfl := Option.some.inj h
    rfl
  | inMethod className name signature lines =>
    obtain rfl : lines = some l := h
    rfl
  | _ => cases h

lemma fillDetail_of_line?_none {a : Detail} (h : a.line? = none) : m.fillDetail a = a := by
  cases a with
  | atLine k => cases h
  | inMethod className name signature lines =>
    obtain rfl : lines = none := h
    rfl
  | _ => rfl

lemma withLine_self {a : Detail} {l : SourceLine} (h : a.line? = some l) : a.withLine l = a := by
  cases a with
  | atLine k =>
    obtain rfl := Option.some.inj h
    rfl
  | inMethod className name signature lines =>
    obtain rfl : lines = some l := h
    rfl
  | _ => rfl

lemma line?_withLine {a : Detail} {l : SourceLine} (h : a.line? = some l) (k : SourceLine) :
    (a.withLine k).line? = some k := by
  cases a with
  | atLine k => rfl
  | inMethod className name signature lines =>
    obtain rfl : lines = some l := h
    rfl
  | _ => cases h

lemma any_fills_iff (a : Detail) :
    a.line?.any m.fills = true ↔ ∃ l file, m.Supplies a l file := by
  unfold Supplies
  cases a.line? with
  | none => simp
  | some l => simp [fills, Option.isSome_iff_exists]

lemma settles_fillDetail (a : Detail) : m.Settles a (m.fillDetail a) where
  supplied := by
    rintro l file ⟨hl, hnone, hfile⟩
    rw [fillDetail_eq hl, fillLine_unknown hnone, hfile]
  kept := by
    intro h
    cases hl : a.line? with
    | none => exact fillDetail_of_line?_none hl
    | some l =>
      have hline : m.fillLine l = l := by
        cases hfile : l.sourceFile with
        | some file => exact fillLine_known hfile
        | none =>
          have hget : m.get? l.className = none :=
            Option.eq_none_iff_forall_not_mem.mpr fun file hmem => h l file ⟨hl, hfile, hmem⟩
          rw [fillLine_unknown hfile, hget, ← hfile]
      rw [fillDetail_eq hl, hline, withLine_self hl]

lemma settlesAll_fill (f : Finding) : m.SettlesAll f (m.fill f) where
  type := rfl
  priority := rfl
  details := by
    rw [fill, List.forall₂_map_right_iff]
    exact List.forall₂_same.mpr fun a _ => settles_fillDetail a

lemma fillDetail_ne_iff (a : Detail) :
    m.fillDetail a ≠ a ↔ ∃ l file, m.Supplies a l file := by
  constructor
  · intro h
    by_contra hnone
    push Not at hnone
    exact h ((settles_fillDetail a).kept hnone)
  · rintro ⟨l, file, hs⟩ h
    have ⟨hl, hnone, _⟩ := hs
    have hb := (settles_fillDetail a).supplied l file hs
    have hline := line?_withLine hl { l with sourceFile := some file }
    rw [← hb, h, hl] at hline
    rw [Option.some.inj hline] at hnone
    cases hnone

lemma details_map_fill (fs : List Finding) :
    (fs.map m.fill).flatMap (·.details) = (fs.flatMap (·.details)).map m.fillDetail := by
  rw [List.flatMap_map, List.map_flatMap]
  rfl

lemma count_eq_differences (fs : List Finding) :
    m.count fs = differences fs (fs.map m.fill) := by
  rw [count, differences, details_map_fill]
  induction fs.flatMap (·.details) with
  | nil => rfl
  | cons a as ih =>
    have ha : a.line?.any m.fills = decide (a ≠ m.fillDetail a) := by
      rw [Bool.eq_iff_iff, decide_eq_true_iff, any_fills_iff, ne_comm, fillDetail_ne_iff]
    rw [List.countP_cons, ih, ha, List.map_cons, List.zip_cons_cons, List.countP_cons]

lemma fillLine_overlay (l : SourceLine) : (m.overlay n).fillLine l = n.fillLine (m.fillLine l) := by
  cases hl : l.sourceFile with
  | some file => rw [fillLine_known hl, fillLine_known hl, fillLine_known hl]
  | none =>
    rw [fillLine_unknown hl, get?_overlay, fillLine_unknown (m := m) hl]
    cases hm : m.get? l.className with
    | some file => rw [fillLine_known rfl, Option.some_or]
    | none => rw [fillLine_unknown rfl, Option.none_or]

lemma fillDetail_overlay (a : Detail) :
    (m.overlay n).fillDetail a = n.fillDetail (m.fillDetail a) := by
  cases a with
  | atLine l => simp only [fillDetail, fillLine_overlay]
  | inMethod className name signature lines =>
    cases lines <;> simp [fillDetail, fillLine_overlay]
  | _ => rfl

lemma fill_overlay (f : Finding) : (m.overlay n).fill f = n.fill (m.fill f) := by
  simp only [fill, List.map_map]
  congr 1
  exact List.map_congr_left fun a _ => fillDetail_overlay a

lemma fills_overlay (l : SourceLine) :
    (m.overlay n).fills l = (m.fills l || n.fills (m.fillLine l)) ∧
      ¬ (m.fills l = true ∧ n.fills (m.fillLine l) = true) := by
  cases hl : l.sourceFile with
  | some file => simp [fills, fillLine_known hl, hl]
  | none =>
    rw [fillLine_unknown hl]
    cases hm : m.get? l.className <;> simp [fills, hl, get?_overlay, hm]

lemma count_overlay (fs : List Finding) :
    (m.overlay n).count fs = m.count fs + n.count (fs.map m.fill) := by
  rw [count, count, count, details_map_fill, List.countP_map]
  induction fs.flatMap (·.details) with
  | nil => rfl
  | cons a as ih =>
    have ha : (if a.line?.any (m.overlay n).fills then 1 else 0) =
        (if a.line?.any m.fills then 1 else 0) +
          if (m.fillDetail a).line?.any n.fills then 1 else 0 := by
      rw [line?_fillDetail]
      cases a.line? with
      | none => rfl
      | some l =>
        obtain ⟨hor, hand⟩ := fills_overlay (m := m) (n := n) l
        simp only [Option.map_some, Option.any_some, hor]
        by_cases hm : m.fills l = true
        · have hn : ¬ n.fills (m.fillLine l) = true := fun hn => hand ⟨hm, hn⟩
          simp [hm, hn]
        · simp [hm]
    rw [List.countP_cons, List.countP_cons, List.countP_cons, ih, ha]
    simp only [Function.comp_apply]
    omega

lemma count_map_fill (fs : List Finding) : m.count (fs.map m.fill) = 0 := by
  rw [count, details_map_fill, List.countP_map, List.countP_eq_zero]
  intro a _ h
  obtain ⟨l, file, hs⟩ := (any_fills_iff _).mp h
  exact (fillDetail_ne_iff _).mpr ⟨l, file, hs⟩ (m.fillDetail_fillDetail a)

/-- Filling gives a source file to the lines that lack one that the map names, changes nothing else
and counts what it changes. A second time it changes nothing, and what it does from one map and then
from another it does from both at once, the first counting before the second. -/
theorem reconcile_exact (m n : SourceMap) (fs : List Finding) :
    List.Forall₂ m.SettlesAll fs (m.reconcile fs).1 ∧
      (m.reconcile fs).2 = differences fs (m.reconcile fs).1 ∧
      m.reconcile (m.reconcile fs).1 = ((m.reconcile fs).1, 0) ∧
      (m.overlay n).reconcile fs = ((n.reconcile (m.reconcile fs).1).1,
        (m.reconcile fs).2 + (n.reconcile (m.reconcile fs).1).2) := by
  have hagain : (fs.map m.fill).map m.fill = fs.map m.fill := by
    rw [List.map_map]
    exact List.map_congr_left fun f _ => m.fill_fill f
  have hboth : fs.map (m.overlay n).fill = (fs.map m.fill).map n.fill := by
    rw [List.map_map]
    exact List.map_congr_left fun f _ => fill_overlay f
  refine ⟨?_, count_eq_differences fs, ?_, ?_⟩
  · exact List.forall₂_map_right_iff.mpr (List.forall₂_same.mpr fun f _ => settlesAll_fill f)
  · simp only [reconcile, hagain, count_map_fill]
  · simp only [reconcile, hboth, count_overlay]

end SourceMap

end BugArchive
