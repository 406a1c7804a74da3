import BugArchive.Proofs.Xml.LegalDtd
import BugArchive.Proofs.Xml.LegalTree
import BugArchive.Xml.Document

/-! Whatever is read from a document is legal: the text of the document is checked, and nothing that
is declared in it stands for other characters. -/

namespace BugArchive.Xml.Document

lemma isLegal_ofContent {d : Document} {definition : Dtd} {content : List Char} {root : Element}
    (h : d.ofContent? definition content = some root) (hd : definition.IsLegal)
    (hc : IsLegalRun content) : root.IsLegal := by
  obtain ⟨ts, hts, h⟩ := Option.bind_eq_some_iff.mp h
  obtain ⟨es, hes, h⟩ := Option.bind_eq_some_iff.mp h
  have htokens := isLegal_scan (hc.normalizeLines .nil) hts fun t ht => by cases ht
  have hevents := isLegal_ofTokens hd hes htokens hd.entities fun e he => by cases he
  exact isLegal_ofEvents h fun e he => hevents e (List.mem_reverse.mp he)

lemma isLegal_root {reading : Option Nat} {d : Document} {root : Element}
    (h : d.root reading = .ok root) : root.IsLegal := by
  unfold Document.root at h
  split at h
  · rename_i ht
    have hc : IsLegalRun d.text := fun c hm => List.all_eq_true.mp ht c hm
    split at h
    · cases h
    · rename_i hs
      split at h
      · cases h
      · rename_i he
        obtain rfl := Except.ok.inj h
        exact isLegal_ofContent he Dtd.isLegal_empty (hc.suffix (Dtd.isLegal_scanProlog hs hc).2)
    · rename_i hs
      obtain ⟨hdraft, hcontent⟩ := Dtd.isLegal_scanProlog hs hc
      split at h
      · cases h
      split at h
      · cases h
      · rename_i he
        obtain rfl := Except.ok.inj h
        obtain ⟨definition, hsettle, he⟩ := Option.bind_eq_some_iff.mp he
        exact isLegal_ofContent he ((hdraft _ rfl).settle hsettle) (hc.suffix hcontent)
  · cases h

theorem isLegal_read {reading : Nat} {bs : List UInt8} {root : Element}
    (h : read reading bs = .ok root) : root.IsLegal := by
  unfold read at h
  cases ho : ofOctets (some reading) false bs with
  | error f =>
    rw [ho] at h
    cases h
  | ok d =>
    rw [ho] at h
    exact isLegal_root h

end BugArchive.Xml.Document
