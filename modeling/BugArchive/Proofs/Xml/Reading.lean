import BugArchive.Proofs.Xml.Tag
import BugArchive.Xml.Tree

/-! Reading a text step by step, from a text with a tree to a rest of it with a later tree. -/

namespace BugArchive.Xml

def eventsOf (acc : List Event) (ts : List Token) : Option (List Event) :=
  Event.ofTokens Dtd.empty .general [] false acc ts

/-- Whether the text between `front` and its end `rest` turns the tree `t` into `u`. -/
def Reads (front : List Char) (t : Tree) (rest : List Char) (u : Tree) : Prop :=
  ∃ (ts : List Token) (es : List Event),
    (∀ acc, Token.scan .general acc front = Token.scan .general (ts.reverse ++ acc) rest) ∧
    (∀ acc more, eventsOf acc (ts ++ more) = eventsOf (es.reverse ++ acc) more) ∧
    es.foldlM Tree.step t = some u

lemma Reads.refl (front : List Char) (t : Tree) : Reads front t front t :=
  ⟨[], [], fun _ => rfl, fun _ _ => rfl, rfl⟩

lemma Reads.trans {a b c : List Char} {t u v : Tree} (h : Reads a t b u) (k : Reads b u c v) :
    Reads a t c v := by
  obtain ⟨ts, es, hs, he, ht⟩ := h
  obtain ⟨ts', es', hs', he', ht'⟩ := k
  refine ⟨ts ++ ts', es ++ es', fun acc => ?_, fun acc more => ?_, ?_⟩
  · rw [hs, hs', List.reverse_append, List.append_assoc]
  · rw [List.append_assoc, he, he', List.reverse_append, List.append_assoc]
  · rw [List.foldlM_append, ht]
    exact ht'

lemma Reads.next {c : Char} {cs rest : List Char} {ts : List Token} {es : List Event} {t u : Tree}
    (hn : Token.next .general c cs = some (ts, rest))
    (he : ∀ acc more, eventsOf acc (ts ++ more) = eventsOf (es.reverse ++ acc) more)
    (ht : es.foldlM Tree.step t = some u) : Reads (c :: cs) t rest u := by
  refine ⟨ts, es, fun acc => ?_, he, ht⟩
  rw [Token.scan]
  split
  · rename_i heq
    rw [hn] at heq
    cases heq
  · rename_i heq
    rw [hn] at heq
    obtain ⟨rfl, rfl⟩ := Prod.mk.inj (Option.some.inj heq)
    rfl

lemma eventsOf_plain (cs : List Char) (acc : List Event) (more : List Token) :
    eventsOf acc (.plain cs :: more) = eventsOf (.text cs true :: acc) more := by
  rw [eventsOf, Event.ofTokens]
  rfl

lemma eventsOf_given (cs : List Char) (acc : List Event) (more : List Token) :
    eventsOf acc (.given cs :: more) = eventsOf (.text cs false :: acc) more := by
  rw [eventsOf, Event.ofTokens]
  rfl

lemma eventsOf_stop (name : List Char) (acc : List Event) (more : List Token) :
    eventsOf acc (.stop name :: more) = eventsOf (.stop name :: acc) more := by
  rw [eventsOf, Event.ofTokens]
  rfl

def spelled (a : String × String) : List Char × List Char :=
  (a.1.toList, a.2.toList)

lemma attributes_spelled (element : List Char) (as : List (String × String)) :
    Dtd.empty.attributes .general element (as.map written) = some (as.map spelled) := by
  have hv (g : String × String) : Dtd.empty.entitySet.value .general [] (written g).2 =
      some g.2.toList := by
    rw [written, spellAll_string]
    exact value_escaped Dtd.empty.entitySet [] g.2.toList
  have hm : (as.map written).mapM (fun g => do
      let v ← Dtd.empty.entitySet.value .general Dtd.empty.entitySet.entities g.2
      return (g.1, Dtd.shape (Dtd.empty.rule? element g.1) v)) = some (as.map spelled) := by
    induction as with
    | nil => rfl
    | cons a as ih =>
      rw [List.map_cons, List.mapM_cons, ih]
      change (Option.bind (Option.bind (Dtd.empty.entitySet.value .general [] (written a).2) _) _) = _
      rw [hv]
      rfl
  rw [Dtd.attributes, hm]
  exact congrArg some (List.append_nil _)

lemma eventsOf_start (name : List Char) (as : List (String × String)) (acc : List Event)
    (more : List Token) :
    eventsOf acc (.start name (as.map written) :: more) =
      eventsOf (.start name (as.map spelled) :: acc) more := by
  rw [eventsOf, Event.ofTokens, attributes_spelled]
  rfl

lemma upTo_eq_none {mark : List Char} {c : Char} (hc : c ∈ mark) {cs : List Char} (h : c ∉ cs)
    (acc : List Char) : upTo mark acc cs = none := by
  induction cs generalizing acc with
  | nil => rfl
  | cons d cs ih =>
    have hp : mark.isPrefixOf (d :: cs) = false := by
      rw [← Bool.not_eq_true]
      exact fun hp => h ((List.isPrefixOf_iff_prefix.mp hp).subset hc)
    rw [upTo, hp]
    exact ih (fun hm => h (List.mem_cons_of_mem d hm)) _

def isPlainText (c : Char) : Bool := Token.isText c && c != '>'

def Frame.addTexts (f : Frame) (ps : List (List Char)) : Frame :=
  ps.foldl Frame.addText f

lemma Reads.plain {run rest : List Char} (f : Frame) (fs : List Frame) (root : Option Element)
    (hr : ∀ c ∈ run, isPlainText c = true) (he : ∀ c ∈ rest.head?, Token.isText c = false) :
    ∃ ps : List (List Char), ps.flatten = run ∧
      Reads (run ++ rest) ⟨f :: fs, root⟩ rest ⟨f.addTexts ps :: fs, root⟩ := by
  have ht : ∀ c ∈ run, Token.isText c = true := fun c hc => (Bool.and_eq_true_iff.mp (hr c hc)).1
  have hg : '>' ∉ run := fun hm => absurd (hr _ hm) (by decide)
  cases run with
  | nil => exact ⟨[], rfl, .refl _ _⟩
  | cons c run =>
    refine ⟨[c :: run], by simp, ?_⟩
    have ha : c ≠ '&' := by
      rintro rfl
      exact absurd (ht _ List.mem_cons_self) (by decide)
    have hl : c ≠ '<' := by
      rintro rfl
      exact absurd (ht _ List.mem_cons_self) (by decide)
    have hw := Text.takeWhile_run ht he
    have hd := Text.dropWhile_run ht he
    have hb : before "]]>" (c :: run) = none := upTo_eq_none (by decide) hg []
    refine @Reads.next c (run ++ rest) rest [.plain (c :: run)] [.text (c :: run) true] _ _ ?_
      (fun acc more => ?_) rfl
    · rw [List.cons_append] at hw hd
      unfold Token.next
      rw [if_neg ha, if_neg hl, Token.text]
      simp [hw, hd, hb]
    · exact eventsOf_plain _ _ _

lemma Reads.reference {front : List Char} {c : Char} (h : RefersTo front c) (rest : List Char)
    (f : Frame) (fs : List Frame) (root : Option Element) :
    Reads ('&' :: front ++ rest) ⟨f :: fs, root⟩ rest ⟨f.addTexts [[c]] :: fs, root⟩ := by
  obtain ⟨ref, hs, hc⟩ := h rest
  refine @Reads.next '&' (front ++ rest) rest [.given [c]] [.text [c] false] _ _ ?_
    (fun acc more => eventsOf_given _ _ _) rfl
  unfold Token.next
  rw [if_pos rfl, Token.reference, hs]
  cases ref with
  | char d =>
    obtain rfl : d = c := hc
    rfl
  | entity name =>
    have hn : predefined? name = some c := hc
    simp only [hn]

lemma Frame.addTexts_append (f : Frame) (ps qs : List (List Char)) :
    f.addTexts (ps ++ qs) = (f.addTexts ps).addTexts qs :=
  List.foldl_append

lemma Reads.escaped (cs : List Char) {run rest : List Char} (f : Frame) (fs : List Frame)
    (root : Option Element) (hr : ∀ c ∈ run, isPlainText c = true)
    (he : ∀ c ∈ rest.head?, Token.isText c = false) :
    ∃ ps : List (List Char), ps.flatten = run ++ cs ∧
      Reads (run ++ (cs.flatMap escapeReturn ++ rest)) ⟨f :: fs, root⟩ rest
        ⟨f.addTexts ps :: fs, root⟩ := by
  -- again `run` gathers what stands unescaped before a reference
  induction cs generalizing run f with
  | nil => simpa using Reads.plain f fs root hr he
  | cons c cs ih =>
    rw [List.flatMap_cons, List.append_assoc]
    rcases escapeReturn_cases c with ⟨hc, ha, hl, hg, -⟩ | ⟨front, hc, hf⟩
    · have hrun : ∀ d ∈ run ++ [c], isPlainText d = true := by
        intro d hd
        rcases List.mem_append.mp hd with hd | hd
        · exact hr d hd
        · obtain rfl := List.mem_singleton.mp hd
          simp [isPlainText, Token.isText, ha, hl, hg]
      obtain ⟨ps, hp, hread⟩ := ih f hrun
      refine ⟨ps, by simpa using hp, ?_⟩
      rw [hc]
      simpa using hread
    · have hamp : ∀ d ∈ ('&' :: (front ++ (cs.flatMap escapeReturn ++ rest))).head?,
          Token.isText d = false := by
        intro d hd
        obtain rfl := Option.some.inj hd
        rfl
      obtain ⟨ps, hp, hread⟩ := Reads.plain f fs root hr hamp
      obtain ⟨qs, hq, hrest⟩ := @ih [] ((f.addTexts ps).addTexts [[c]]) (by simp)
      refine ⟨ps ++ [[c]] ++ qs, by simp [hp, hq], ?_⟩
      rw [hc, Frame.addTexts_append, Frame.addTexts_append]
      exact (hread.trans (.reference hf _ _ _ _)).trans hrest

end BugArchive.Xml
