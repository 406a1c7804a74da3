import BugArchive.Proofs.Xml.Escape
import BugArchive.Xml.Token

namespace BugArchive.Xml

open Text (Spelled)

variable {σ : Type} [Spelled σ]

def written (a : String × σ) : List Char × List Char :=
  (a.1.toList, spellAll escapeAttribute a.2)

lemma upTo_mark {c : Char} {front : List Char} (acc rest : List Char) (h : c ∉ front) :
    upTo [c] acc (front ++ c :: rest) = some (acc.reverse ++ front, rest) := by
  induction front generalizing acc with
  | nil => simp [upTo]
  | cons d front ih =>
    obtain ⟨hd, hf⟩ := not_or.mp fun hm => h (List.mem_cons.mpr hm)
    rw [List.cons_append, upTo, if_neg (by simpa using hd), ih _ hf]
    simp

lemma quoted_spelled (value : σ) (rest : List Char) :
    Token.quoted ('"' :: (spellAll escapeAttribute value ++ '"' :: rest)) =
      some (spellAll escapeAttribute value, rest) := by
  have hq : '"' ∉ spellAll escapeAttribute value := fun h => (mem_spellAll_attribute h).1 rfl
  have hl : '<' ∉ spellAll escapeAttribute value := fun h => (mem_spellAll_attribute h).2.1 rfl
  rw [Token.quoted, if_pos (.inl rfl), upTo_mark _ _ hq]
  simp [hl]

lemma assignment_written {name : List Char} (value : σ) (rest : List Char)
    (h : isPlainName name = true) : Token.assignment .general
        (name ++ '=' :: '"' :: (spellAll escapeAttribute value ++ '"' :: rest)) =
      some ((name, spellAll escapeAttribute value), rest) := by
  have he : EndsName ('=' :: '"' :: (spellAll escapeAttribute value ++ '"' :: rest)) :=
    .cons (by decide) (by decide)
  have hb {c : Char} (r : List Char) (hc : isBlank c = false) : skipBlanks (c :: r) = c :: r := by
    simp [skipBlanks, hc]
  rw [Token.assignment, qualifiedName_append h he]
  simp only [hb _ (show isBlank '=' = false by decide), hb _ (show isBlank '"' = false by decide),
    quoted_spelled, Option.map_some]

lemma attributes_cons {name : List Char} (acc : List (List Char × List Char)) (value : σ)
    (rest : List Char) (h : isPlainName name = true) :
    Token.attributes .general acc
        (' ' :: (name ++ '=' :: '"' :: (spellAll escapeAttribute value ++ '"' :: rest))) =
      Token.attributes .general ((name, spellAll escapeAttribute value) :: acc) rest := by
  have hb (r : List Char) : skipBlanks (' ' :: (name ++ r)) = name ++ r := skipBlanks_name r h
  have ha := assignment_written value rest h
  obtain ⟨c, ds, rfl, hc, -⟩ := isPlainName_cases h
  rw [Token.attributes]
  split
  · rename_i heq
    rw [hb, List.cons_append] at heq
    exact absurd (List.cons.inj heq).1 (ne_of_isNameStart hc (by decide))
  · rename_i heq
    rw [hb, List.cons_append] at heq
    exact absurd (List.cons.inj heq).1 (ne_of_isNameStart hc (by decide))
  rw [dif_pos (show startsBlank (' ' :: _) = true from rfl)]
  split
  · rename_i heq
    rw [hb, ha] at heq
    cases heq
  · rename_i heq
    rw [hb, ha] at heq
    obtain ⟨rfl, rfl⟩ := Prod.mk.inj (Option.some.inj heq)
    rfl

lemma attributes_written {as : List (String × σ)} (acc : List (List Char × List Char))
    (rest : List Char) (h : ∀ a ∈ as, isPlainName a.1.toList = true) :
    Token.attributes .general acc (writeAttributes as rest) =
      Token.attributes .general ((as.map written).reverse ++ acc) rest := by
  induction as generalizing acc with
  | nil => rfl
  | cons a as ih =>
    have hc := attributes_cons acc a.2 (writeAttributes as rest) (h a List.mem_cons_self)
    simp only [writeAttributes, List.cons_append, List.append_assoc] at hc ⊢
    rw [hc, ih _ fun b hb => h b (List.mem_cons_of_mem a hb)]
    simp [written]

lemma endsName_writeAttributes (as : List (String × σ)) {rest : List Char}
    (h : EndsName rest) : EndsName (writeAttributes as rest) := by
  cases as with
  | nil => exact h
  | cons a as => exact .cons (by decide) (by decide)

lemma startTag_written {tag : List Char} {as : List (String × σ)} {r rest : List Char}
    {isEmpty : Bool} (ht : isPlainName tag = true) (ha : ∀ a ∈ as, isPlainName a.1.toList = true)
    (hr : EndsName r)
    (he : ∀ acc, Token.attributes .general acc r = some (⟨acc.reverse, isEmpty⟩, rest)) :
    Token.startTag .general (tag ++ writeAttributes as r) =
      some (.start tag (as.map written) :: (if isEmpty then [.stop tag] else []), rest) := by
  rw [Token.startTag, qualifiedName_append ht (endsName_writeAttributes as hr)]
  dsimp only
  rw [attributes_written _ _ ha, he]
  simp

lemma next_startTag {tag : List Char} (cs : List Char) (h : isPlainName tag = true) :
    Token.next .general '<' (tag ++ cs) = Token.startTag .general (tag ++ cs) := by
  obtain ⟨c, ds, rfl, hc, -⟩ := isPlainName_cases h
  unfold Token.next
  rw [if_neg (by decide), if_pos rfl, List.cons_append]
  split
  · rename_i heq
    exact absurd (List.cons.inj heq).1 (ne_of_isNameStart hc (by decide))
  · rename_i heq
    exact absurd (List.cons.inj heq).1 (ne_of_isNameStart hc (by decide))
  · rename_i heq
    exact absurd (List.cons.inj heq).1 (ne_of_isNameStart hc (by decide))
  · rename_i heq
    exact absurd (List.cons.inj heq).1 (ne_of_isNameStart hc (by decide))
  · rfl

lemma next_open {tag : List Char} {as : List (String × σ)} (rest : List Char)
    (ht : isPlainName tag = true) (ha : ∀ a ∈ as, isPlainName a.1.toList = true) :
    Token.next .general '<' (tag ++ writeAttributes as ('>' :: rest)) =
      some ([.start tag (as.map written)], rest) := by
  have he (acc) : Token.attributes .general acc ('>' :: rest) = some (⟨acc.reverse, false⟩, rest) := by
    rw [Token.attributes]
    rfl
  rw [next_startTag _ ht, startTag_written ht ha (.cons (by decide) (by decide)) he]
  rfl

lemma next_empty {tag : List Char} {as : List (String × σ)} (rest : List Char)
    (ht : isPlainName tag = true) (ha : ∀ a ∈ as, isPlainName a.1.toList = true) :
    Token.next .general '<' (tag ++ writeAttributes as (' ' :: '/' :: '>' :: rest)) =
      some ([.start tag (as.map written), .stop tag], rest) := by
  have he (acc) : Token.attributes .general acc (' ' :: '/' :: '>' :: rest) =
      some (⟨acc.reverse, true⟩, rest) := by
    rw [Token.attributes]
    rfl
  rw [next_startTag _ ht, startTag_written ht ha (.cons (by decide) (by decide)) he]
  rfl

lemma next_close {tag : List Char} (rest : List Char) (ht : isPlainName tag = true) :
    Token.next .general '<' ('/' :: (tag ++ '>' :: rest)) = some ([.stop tag], rest) := by
  have he : EndsName ('>' :: rest) := .cons (by decide) (by decide)
  rw [Token.next, if_neg (by decide), if_pos rfl, Token.endTag, qualifiedName_append ht he]
  rfl

end BugArchive.Xml
