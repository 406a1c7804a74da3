import BugArchive.SourceMap
import Mathlib.Data.List.Forall2

/-! Filling findings from a source map leaves their order alone, and doing it twice is as good as
once. -/

namespace BugArchive.SourceMap

variable (m : SourceMap)

lemma fillLine_empty (l : SourceLine) : fillLine ⟨[]⟩ l = l := by
  cases l with
  | mk className first last firstBytecode lastBytecode sourceFile => cases sourceFile <;> rfl

lemma fillDetail_empty (a : Detail) : fillDetail ⟨[]⟩ a = a := by
  cases a with
  | atLine l => rw [fillDetail, fillLine_empty]
  | inMethod className name signature lines => cases lines <;> simp [fillDetail, fillLine_empty]
  | _ => rfl

lemma fill_empty (f : Finding) : fill ⟨[]⟩ f = f := by
  rw [fill, (List.map_congr_left fun a _ => fillDetail_empty a).trans (List.map_id _)]

lemma fillLine_fillLine (l : SourceLine) : m.fillLine (m.fillLine l) = m.fillLine l := by
  cases l with
  | mk className first last firstBytecode lastBytecode sourceFile =>
    cases sourceFile with
    | some file => rfl
    | none =>
      unfold fillLine
      cases m.get? className <;> rfl

lemma fillDetail_fillDetail (a : Detail) : m.fillDetail (m.fillDetail a) = m.fillDetail a := by
  cases a with
  | atLine l => simp only [fillDetail, fillLine_fillLine]
  | inMethod className name signature lines =>
    cases lines <;> simp [fillDetail, fillLine_fillLine]
  | _ => rfl

lemma fill_fill (f : Finding) : m.fill (m.fill f) = m.fill f := by
  simp only [fill, List.map_map]
  congr 1
  exact List.map_congr_left fun a _ => m.fillDetail_fillDetail a

lemma className?_fillDetail (a : Detail) :
    Finding.className? (m.fillDetail a) = Finding.className? a := by
  cases a <;> rfl

@[simp]
lemma key_fill (f : Finding) : (m.fill f).key = f.key := by
  have h : (m.fill f).primaryClass = f.primaryClass := by
    simp only [Finding.primaryClass, fill, List.findSome?_map, Function.comp_def,
      className?_fillDetail]
  simp only [Finding.key, h]
  rfl

lemma fill_congr {n : SourceMap} (h : ∀ className, m.get? className = n.get? className) :
    m.fill = n.fill := by
  have hline : m.fillLine = n.fillLine := by
    funext l
    simp only [fillLine, h]
  have hdetail : m.fillDetail = n.fillDetail := by
    funext a
    cases a <;> simp only [fillDetail, hline]
  funext f
  rw [fill, fill, hdetail]

section Change

def FillsLine (l k : SourceLine) : Prop :=
  k = l ∨ l.sourceFile = none ∧
    ∃ file, m.get? l.className = some file ∧ k = { l with sourceFile := some file }

inductive FillsDetail : Detail → Detail → Prop where
  | same (a : Detail) : FillsDetail a a
  | atLine {l k : SourceLine} (h : m.FillsLine l k) : FillsDetail (.atLine l) (.atLine k)
  | inMethod {className name signature : String} {l k : SourceLine} (h : m.FillsLine l k) :
    FillsDetail (.inMethod className name signature (some l))
      (.inMethod className name signature (some k))

structure Fills (f g : Finding) : Prop where
  type : g.type = f.type
  priority : g.priority = f.priority
  details : List.Forall₂ m.FillsDetail f.details g.details

lemma fillsLine_fillLine (l : SourceLine) : m.FillsLine l (m.fillLine l) := by
  unfold fillLine
  split
  · exact .inl rfl
  · rename_i hnone
    cases h : m.get? l.className with
    | none => exact .inl (by rw [← hnone])
    | some file => exact .inr ⟨hnone, file, h, rfl⟩

lemma fillsDetail_fillDetail (a : Detail) : m.FillsDetail a (m.fillDetail a) := by
  cases a with
  | atLine l => exact .atLine (m.fillsLine_fillLine l)
  | inMethod className name signature lines =>
    cases lines with
    | none => exact .same _
    | some l => exact .inMethod (m.fillsLine_fillLine l)
  | _ => exact .same _

lemma fills_fill (f : Finding) : m.Fills f (m.fill f) where
  type := rfl
  priority := rfl
  details := by
    rw [fill, List.forall₂_map_right_iff]
    exact List.forall₂_same.mpr fun a _ => m.fillsDetail_fillDetail a

end Change

end BugArchive.SourceMap
