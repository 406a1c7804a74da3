import BugArchive.Xml.Reference

namespace BugArchive.Xml

/-- `plain` characters stand in the text themselves, `given` ones come from a reference or a
marked section and are never mere spacing. -/
inductive Token where
  | plain (cs : List Char)
  | given (cs : List Char)
  | entity (name : List Char)
  | start (name : List Char) (attributes : List (List Char × List Char))
  | stop (name : List Char)
deriving DecidableEq, Repr

namespace Token

def comment (cs : List Char) : Option (List Char) :=
  match before "--" cs with
  | some (_, '>' :: r) => some r
  | _ => none

def isReservedTarget (name : List Char) : Bool :=
  name.map Char.toLower == ['x', 'm', 'l']

def instruction (a : Alphabet) (cs : List Char) : Option (List Char) :=
  match simpleName a cs with
  | none => none
  | some (name, r) =>
    if isReservedTarget name then none
    else if startsWith "?>" r then some (r.drop 2)
    else if startsBlank r then (before "?>" r).map Prod.snd
    else none

def quoted : Scanner (List Char)
  | [] => none
  | q :: cs =>
    if q = '"' ∨ q = '\'' then
      match upTo [q] [] cs with
      | some (v, r) => if v.contains '<' then none else some (v, r)
      | none => none
    else none

def assignment (a : Alphabet) : Scanner (List Char × List Char) := fun cs =>
  match qualifiedName a cs with
  | none => none
  | some (name, r) =>
    match skipBlanks r with
    | '=' :: r => (quoted (skipBlanks r)).map fun v => ((name, v.1), v.2)
    | _ => none

theorem comment_suffix {cs r : List Char} (h : comment cs = some r) : r <:+ cs := by
  unfold comment at h
  split at h
  · rename_i s hs
    obtain rfl := Option.some.inj h
    exact (List.suffix_cons _ _).trans (upTo_suffix hs)
  · cases h

theorem instruction_suffix {a : Alphabet} {cs r : List Char} (h : instruction a cs = some r) : r <:+ cs := by
  unfold instruction at h
  split at h
  · cases h
  · rename_i name s hs
    refine .trans ?_ (simpleName_suffix hs)
    split at h
    · cases h
    split at h
    · obtain rfl := Option.some.inj h
      exact List.drop_suffix _ _
    split at h
    · obtain ⟨p, hp, rfl⟩ := Option.map_eq_some_iff.mp h
      exact upTo_suffix hp
    · cases h

theorem quoted_suffix {cs v r : List Char} (h : quoted cs = some (v, r)) : r <:+ cs := by
  unfold quoted at h
  split at h
  · cases h
  split at h
  · split at h
    · rename_i hs
      split at h
      · cases h
      · obtain ⟨-, rfl⟩ := Prod.mk.inj (Option.some.inj h)
        exact (upTo_suffix hs).trans (List.suffix_cons _ _)
    · cases h
  · cases h

theorem assignment_suffix {a : Alphabet} {cs r : List Char} {p : List Char × List Char}
    (h : assignment a cs = some (p, r)) : r <:+ cs := by
  unfold assignment at h
  split at h
  · cases h
  rename_i name s hs
  split at h
  · rename_i t ht
    obtain ⟨v, hv, he⟩ := Option.map_eq_some_iff.mp h
    obtain ⟨-, rfl⟩ := Prod.mk.inj he
    have hb : t <:+ s := (List.suffix_cons _ _).trans (ht ▸ skipBlanks_suffix s)
    exact (((quoted_suffix hv).trans (skipBlanks_suffix t)).trans hb).trans
      (qualifiedName_suffix hs)
  · cases h

structure TagEnd where
  attributes : List (List Char × List Char)
  isEmpty : Bool

def attributes (a : Alphabet) (acc : List (List Char × List Char)) (cs : List Char) :
    Option (TagEnd × List Char) :=
  match skipBlanks cs with
  | '>' :: r => some (⟨acc.reverse, false⟩, r)
  | '/' :: '>' :: r => some (⟨acc.reverse, true⟩, r)
  | _ =>
    if _ : startsBlank cs then
      match _ : assignment a (skipBlanks cs) with
      | none => none
      | some (p, s) => attributes a (p :: acc) s
    else none
termination_by cs.length
decreasing_by
  exact Nat.lt_of_le_of_lt (assignment_suffix ‹_›).length_le (length_skipBlanks_lt ‹_›)

theorem attributes_suffix {a : Alphabet} {acc : List (List Char × List Char)} {cs r : List Char}
    {t : TagEnd} (h : attributes a acc cs = some (t, r)) : r <:+ cs := by
  fun_induction attributes a acc cs with
  | case1 acc cs s hs =>
    obtain ⟨-, rfl⟩ := Prod.mk.inj (Option.some.inj h)
    exact (List.suffix_cons _ _).trans (hs ▸ skipBlanks_suffix cs)
  | case2 acc cs s hs =>
    obtain ⟨-, rfl⟩ := Prod.mk.inj (Option.some.inj h)
    exact ((List.suffix_cons _ _).trans (List.suffix_cons _ _)).trans (hs ▸ skipBlanks_suffix cs)
  | case3 => cases h
  | case4 acc cs _ _ _ ha _ _ ih =>
    exact ((ih h).trans (assignment_suffix ha)).trans (skipBlanks_suffix cs)
  | case5 => cases h

def startTag (a : Alphabet) (cs : List Char) : Option (List Token × List Char) :=
  match qualifiedName a cs with
  | none => none
  | some (name, r) =>
    (attributes a [] r).map fun t =>
      (.start name t.1.attributes :: (if t.1.isEmpty then [.stop name] else []), t.2)

def endTag (a : Alphabet) (cs : List Char) : Option (List Token × List Char) :=
  match qualifiedName a cs with
  | none => none
  | some (name, r) =>
    match skipBlanks r with
    | '>' :: r => some ([.stop name], r)
    | _ => none

def markedSection (cs : List Char) : Option (List Token × List Char) :=
  (before "]]>" cs).map fun r => ([.given r.1], r.2)

def reference (a : Alphabet) (cs : List Char) : Option (List Token × List Char) :=
  match Reference.scan a cs with
  | none => none
  | some (.char c, r) => some ([.given [c]], r)
  | some (.entity name, r) =>
    match predefined? name with
    | some c => some ([.given [c]], r)
    | none => some ([.entity name], r)

def isText (c : Char) : Bool := c != '<' && c != '&'

def text (cs : List Char) : Option (List Token × List Char) :=
  let run := cs.takeWhile isText
  if (before "]]>" run).isSome then none else some ([.plain run], cs.dropWhile isText)

def next (a : Alphabet) (c : Char) (cs : List Char) : Option (List Token × List Char) :=
  if c = '&' then reference a cs
  else if c = '<' then
    match cs with
    | '/' :: cs => endTag a cs
    | '?' :: cs => (instruction a cs).map fun r => ([], r)
    | '!' :: '-' :: '-' :: cs => (comment cs).map fun r => ([], r)
    | '!' :: '[' :: 'C' :: 'D' :: 'A' :: 'T' :: 'A' :: '[' :: cs => markedSection cs
    | cs => startTag a cs
  else text (c :: cs)

theorem startTag_suffix {a : Alphabet} {cs r : List Char} {ts : List Token} (h : startTag a cs = some (ts, r)) :
    r <:+ cs := by
  unfold startTag at h
  split at h
  · cases h
  rename_i name s hs
  obtain ⟨t, ht, he⟩ := Option.map_eq_some_iff.mp h
  obtain ⟨-, rfl⟩ := Prod.mk.inj he
  exact (attributes_suffix ht).trans (qualifiedName_suffix hs)

theorem endTag_suffix {a : Alphabet} {cs r : List Char} {ts : List Token} (h : endTag a cs = some (ts, r)) :
    r <:+ cs := by
  unfold endTag at h
  split at h
  · cases h
  rename_i name s hs
  split at h
  · rename_i t ht
    obtain ⟨-, rfl⟩ := Prod.mk.inj (Option.some.inj h)
    exact ((List.suffix_cons _ _).trans (ht ▸ skipBlanks_suffix s)).trans (qualifiedName_suffix hs)
  · cases h

theorem markedSection_suffix {cs r : List Char} {ts : List Token}
    (h : markedSection cs = some (ts, r)) : r <:+ cs := by
  obtain ⟨p, hp, he⟩ := Option.map_eq_some_iff.mp h
  obtain ⟨-, rfl⟩ := Prod.mk.inj he
  exact upTo_suffix hp

theorem reference_suffix {a : Alphabet} {cs r : List Char} {ts : List Token} (h : reference a cs = some (ts, r)) :
    r <:+ cs := by
  unfold reference at h
  split at h
  · cases h
  · rename_i hs
    obtain ⟨-, rfl⟩ := Prod.mk.inj (Option.some.inj h)
    exact Reference.scan_suffix hs
  · rename_i hs
    split at h <;>
    · obtain ⟨-, rfl⟩ := Prod.mk.inj (Option.some.inj h)
      exact Reference.scan_suffix hs

theorem length_next_le {a : Alphabet} {c : Char} {cs r : List Char} {ts : List Token}
    (h : next a c cs = some (ts, r)) : r.length ≤ cs.length := by
  have after {p s : List Char} (hs : s <:+ p) (hp : p <:+ cs) : s.length ≤ cs.length :=
    (hs.trans hp).length_le
  unfold next at h
  split at h
  · exact (reference_suffix h).length_le
  split at h
  · split at h
    · exact after (endTag_suffix h) (List.suffix_cons _ _)
    · obtain ⟨s, hs, he⟩ := Option.map_eq_some_iff.mp h
      obtain ⟨-, rfl⟩ := Prod.mk.inj he
      exact after (instruction_suffix hs) (List.suffix_cons _ _)
    · obtain ⟨s, hs, he⟩ := Option.map_eq_some_iff.mp h
      obtain ⟨-, rfl⟩ := Prod.mk.inj he
      exact after (comment_suffix hs) ⟨['!', '-', '-'], rfl⟩
    · exact after (markedSection_suffix h) ⟨['!', '[', 'C', 'D', 'A', 'T', 'A', '['], rfl⟩
    · exact (startTag_suffix h).length_le
  · rename_i h₁ h₂
    simp only [text] at h
    split at h
    · cases h
    · obtain ⟨-, rfl⟩ := Prod.mk.inj (Option.some.inj h)
      have ht : isText c = true := by simp [isText, h₁, h₂]
      rw [List.dropWhile_cons, if_pos ht]
      exact (List.dropWhile_suffix _).length_le

def scan (a : Alphabet) (acc : List Token) : List Char → Option (List Token)
  | [] => some acc.reverse
  | c :: cs =>
    match _ : next a c cs with
    | none => none
    | some (ts, r) => scan a (ts.reverse ++ acc) r
termination_by cs => cs.length
decreasing_by exact Nat.lt_succ_of_le (length_next_le (by assumption))

end Token

end BugArchive.Xml
