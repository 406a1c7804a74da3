import BugArchive.Proofs.Json.Scalar
import BugArchive.Proofs.Json.Value

namespace BugArchive.Json

def AllBlank (cs : List Char) : Prop := ∀ c ∈ cs, isSpace c = true

structure Layout.IsBlank (l : Layout) : Prop where
  newline : ∀ level, AllBlank (l.newline level)
  colon : ∃ gap, l.colon = ':' :: gap ∧ AllBlank gap

lemma Layout.isBlank_compact : Layout.compact.IsBlank :=
  ⟨fun _ => nofun, [], rfl, nofun⟩

lemma Layout.isBlank_indented : Layout.indented.IsBlank := by
  refine ⟨fun level c hc => ?_, [' '], rfl, fun c hc => ?_⟩
  · rcases List.mem_cons.mp hc with rfl | hc
    · rfl
    · rw [List.eq_of_mem_replicate hc]
      rfl
  · rw [List.mem_singleton.mp hc]
    rfl

section Blanks

variable {gap : List Char} (hg : AllBlank gap) {c : Char} (hc : isSpace c = false) (rest : List Char)

include hc in
lemma skip_cons : skip (c :: rest) = c :: rest := by
  rw [skip, List.dropWhile_cons_of_neg (by simp [hc])]

include hg hc in
lemma skip_blank : skip (gap ++ c :: rest) = c :: rest :=
  Text.dropWhile_run hg fun _ hd => Option.some.inj hd ▸ hc

lemma stops_of_isSpace (h : isSpace c = true) : Stops (c :: rest) := by
  rintro d hd
  obtain rfl := Option.some.inj hd
  simp only [isSpace, Bool.or_eq_true, beq_iff_eq] at h
  rcases h with ((rfl | rfl) | rfl) | rfl <;> decide

include hg in
lemma stops_blank (h : Stops (c :: rest)) : Stops (gap ++ c :: rest) := by
  cases gap with
  | nil => exact h
  | cons d ds => exact stops_of_isSpace _ (hg d List.mem_cons_self)

end Blanks

lemma isSpace_of_isClose {close : Char} (h : close = ']' ∨ close = '}') :
    isSpace close = false ∧ close ≠ ',' := by
  rcases h with rfl | rfl <;> decide

/-- Whether a reader takes back what a writer put in front of a text. -/
structure IsRead {α : Type} (read : Reader α) (a : α) (write : List Char → List Char) : Prop where
  read : ∀ rest, Stops rest → read (write rest) = some (a, rest)
  starts : ∀ rest, ∃ c cs, write rest = c :: cs ∧ isSpace c = false ∧ c ≠ ']' ∧ c ≠ '}'
  grows : ∀ rest, rest.length < (write rest).length

lemma skip_written {α : Type} {read : Reader α} {a : α} {write : List Char → List Char}
    {gap : List Char} (hg : AllBlank gap) (h : IsRead read a write) (rest : List Char) :
    skip (gap ++ write rest) = write rest := by
  obtain ⟨c, cs, hw, hc, -⟩ := h.starts rest
  rw [hw, skip_blank hg hc]

section Items

variable {α : Type} {read : Reader α} {w : α → List Char → List Char}

def sequence (gap : List Char) (w : α → List Char → List Char) : List α → List Char → List Char
  | [], rest => rest
  | a :: as, rest => ',' :: gap ++ w a (sequence gap w as rest)

variable {gap front back : List Char} (hgap : AllBlank gap) (hback : AllBlank back) {close : Char}
  (hclose : close = ']' ∨ close = '}') {a : α} {as : List α}
  (h : ∀ x ∈ a :: as, IsRead read x (w x)) (rest : List Char)

include hback hclose in
lemma stops_sequence : Stops (sequence gap w as (back ++ close :: rest)) := by
  cases as with
  | nil =>
    refine stops_blank hback rest fun c hc => ?_
    obtain rfl := Option.some.inj hc
    rcases hclose with rfl | rfl <;> decide
  | cons b bs =>
    intro c hc
    obtain rfl := Option.some.inj hc
    decide

lemma length_le_sequence (h : ∀ x ∈ as, IsRead read x (w x)) :
    as.length + rest.length ≤ (sequence gap w as rest).length := by
  induction as with
  | nil => exact Nat.le_of_eq (Nat.zero_add _)
  | cons a as ih =>
    obtain ⟨ha, has⟩ := List.forall_mem_cons.mp h
    have hgrows := ha.grows (sequence gap w as rest)
    have hrest := ih has
    simp only [sequence, List.length_append, List.length_cons]
    omega

include hgap hback hclose h in
lemma items_sequence (hfront : AllBlank front) {fuel : Nat} (hf : as.length < fuel) :
    items read close fuel (front ++ w a (sequence gap w as (back ++ close :: rest))) =
      some (a :: as, rest) := by
  obtain ⟨hspace, hcomma⟩ := isSpace_of_isClose hclose
  -- The blanks in front differ: those of the first item were skipped by the caller already.
  induction as generalizing a front fuel with
  | nil =>
    obtain ⟨fuel, rfl⟩ := Nat.exists_eq_succ_of_ne_zero (Nat.ne_of_gt hf)
    have ha := h a List.mem_cons_self
    have hstops : Stops (sequence gap w [] (back ++ close :: rest)) :=
      stops_sequence hback hclose rest
    rw [items, skip_written hfront ha, ha.read _ hstops, sequence]
    simp only [Option.bind_eq_bind, Option.bind_some, skip_blank hback hspace, if_pos]
    rfl
  | cons b bs ih =>
    obtain ⟨fuel, rfl⟩ := Nat.exists_eq_succ_of_ne_zero (Nat.ne_of_gt (Nat.zero_lt_of_lt hf))
    obtain ⟨ha, hbs⟩ := List.forall_mem_cons.mp h
    have hstops : Stops (sequence gap w (b :: bs) (back ++ close :: rest)) :=
      stops_sequence hback hclose rest
    have hnext := ih hbs hgap (Nat.lt_of_succ_lt_succ hf)
    rw [items, skip_written hfront ha, ha.read _ hstops, sequence]
    simp only [Option.bind_eq_bind, Option.bind_some, List.cons_append,
      skip_cons (show isSpace ',' = false from rfl), if_neg hcomma.symm, if_pos, hnext]
    rfl

include hgap hback hclose h in
lemma listOf_sequence :
    listOf read close (gap ++ w a (sequence gap w as (back ++ close :: rest))) =
      some (a :: as, rest) := by
  obtain ⟨ha, has⟩ := List.forall_mem_cons.mp h
  obtain ⟨c, cs, hw, hc, hlist, hobject⟩ := ha.starts (sequence gap w as (back ++ close :: rest))
  have hne : c ≠ close := by
    rcases hclose with rfl | rfl
    · exact hlist
    · exact hobject
  have hfuel : as.length < cs.length + 1 := by
    have hgrows := ha.grows (sequence gap w as (back ++ close :: rest))
    rw [hw] at hgrows
    exact Nat.lt_of_le_of_lt (Nat.le_of_add_right_le (length_le_sequence _ has)) hgrows
  have hitems : items read close (cs.length + 1) ([] ++ w a (sequence gap w as _)) = _ :=
    items_sequence hgap hback hclose h rest (List.forall_mem_nil _) hfuel
  rw [List.nil_append, hw] at hitems
  rw [listOf, skip_written hgap ha, hw]
  simp only [if_neg hne, hitems]

include hgap hback hclose h in
lemma isRead_enclosed {β : Type} {outer : Reader β} {f : List α → β} {opening : Char}
    (ho : ∀ cs, outer (opening :: cs) = (listOf read close cs).map fun r => (f r.1, r.2))
    (hs : isSpace opening = false ∧ opening ≠ ']' ∧ opening ≠ '}') :
    IsRead outer (f (a :: as)) fun rest =>
      opening :: gap ++ w a (sequence gap w as (back ++ close :: rest)) := by
  refine ⟨fun rest _ => ?_, fun rest => ⟨opening, _, rfl, hs⟩, fun rest => ?_⟩
  · rw [List.cons_append, ho, listOf_sequence hgap hback hclose h]
    rfl
  · obtain ⟨ha, has⟩ := List.forall_mem_cons.mp h
    have hgrows := ha.grows (sequence gap w as (back ++ close :: rest))
    have hlength : _ ≤ (sequence gap w as _).length :=
      length_le_sequence (back ++ close :: rest) has
    simp only [List.length_cons, List.length_append] at hgrows hlength ⊢
    omega

end Items

section Fields

lemma isRead_field {read : Reader Value} {v : Value} {write : List Char → List Char}
    (h : IsRead read v write) {l : Layout} (hl : l.IsBlank) (name : String) :
    IsRead (field read) (name, v) fun rest => writeText name (l.colon ++ write rest) := by
  refine ⟨fun rest hr => ?_, fun rest => ⟨'"', _, rfl, rfl, by decide, by decide⟩, fun rest => ?_⟩
  · obtain ⟨gap, hcolon, hgap⟩ := hl.colon
    rw [writeText, List.cons_append, field, text_written, hcolon]
    simp only [Option.bind_eq_bind, Option.bind_some, List.cons_append,
      skip_cons (show isSpace ':' = false from rfl), skip_written hgap h, h.read rest hr]
    rfl
  · have hgrows := h.grows rest
    simp only [writeText, List.length_cons, List.length_append]
    omega

lemma eraseDups_of_nodup {names : List String} (h : names.Nodup) : names.eraseDups = names := by
  induction names with
  | nil => rfl
  | cons n ns ih =>
    obtain ⟨hn, hns⟩ := List.nodup_cons.mp h
    have hkept : ns.filter (fun m => !m == n) = ns := by
      refine List.filter_eq_self.mpr fun m hm => ?_
      have hne : m ≠ n := fun heq => hn (heq ▸ hm)
      simpa using hne
    rw [List.eraseDups_cons, hkept, ih hns]

lemma mergeFields_of_nodup {fs : List (String × Value)} (h : (fs.map Prod.fst).Nodup) :
    mergeFields fs = fs := by
  rw [mergeFields, eraseDups_of_nodup h, List.map_map]
  refine (List.map_congr_left fun f hf => ?_).trans (List.map_id _)
  rw [Function.comp_apply, Value.field?_of_mem h hf]
  rfl

end Fields

section Values

def writeField (l : Layout) (level : Nat) (f : String × Value) (rest : List Char) : List Char :=
  writeText f.1 (l.colon ++ write l level f.2 rest)

variable (l : Layout) (level : Nat) (rest : List Char)

lemma writeItems_eq (vs : List Value) :
    writeItems l level vs rest = sequence (l.newline level) (write l level) vs rest := by
  induction vs with
  | nil => rfl
  | cons v vs ih =>
    rw [sequence, ← ih]
    rfl

lemma writeFields_eq (fs : List (String × Value)) :
    writeFields l level fs rest = sequence (l.newline level) (writeField l level) fs rest := by
  induction fs with
  | nil => rfl
  | cons f fs ih =>
    rw [sequence, ← ih]
    rfl

lemma write_list (v : Value) (vs : List Value) : write l level (.list (v :: vs)) rest =
    '[' :: l.newline (level + 1) ++ write l (level + 1) v
      (sequence (l.newline (level + 1)) (write l (level + 1)) vs (l.newline level ++ ']' :: rest)) := by
  rw [← writeItems_eq]
  rfl

lemma write_object (f : String × Value) (fs : List (String × Value)) :
    write l level (.object (f :: fs)) rest =
      '{' :: l.newline (level + 1) ++ writeField l (level + 1) f
        (sequence (l.newline (level + 1)) (writeField l (level + 1)) fs
          (l.newline level ++ '}' :: rest)) := by
  rw [← writeFields_eq]
  rfl

variable {l level}

lemma value_of_ne {c : Char} (hlist : c ≠ '[') (hobject : c ≠ '{') (digits k : Nat)
    (cs : List Char) : value digits k (c :: cs) = scalar digits (c :: cs) := by
  rw [value]
  · exact fun _ _ h => hlist (List.cons.inj h).1
  · exact fun _ _ h => hobject (List.cons.inj h).1
  · exact fun _ _ _ h => hlist (List.cons.inj h).1
  · exact fun _ _ _ h => hobject (List.cons.inj h).1

lemma isRead_scalar {digits : Nat} {v : Value} (c : Char) (cs : List Char)
    (hc : isSpace c = false ∧ c ≠ '[' ∧ c ≠ ']' ∧ c ≠ '{' ∧ c ≠ '}')
    (hw : ∀ rest, write l level v rest = c :: (cs ++ rest))
    (hs : ∀ rest, Stops rest → scalar digits (c :: (cs ++ rest)) = some (v, rest)) (k : Nat) :
    IsRead (value digits k) v (write l level v) := by
  obtain ⟨hspace, hlist, hlist', hobject, hobject'⟩ := hc
  refine ⟨fun rest hr => ?_, fun rest => ⟨c, _, hw rest, hspace, hlist', hobject'⟩, fun rest => ?_⟩
  · rw [hw, value_of_ne hlist hobject, hs rest hr]
  · rw [hw, List.length_cons, List.length_append]
    omega

lemma isRead_int {digits : Nat} {n : Int} (hn : (Nat.toDigits 10 n.natAbs).length ≤ digits)
    (k : Nat) : IsRead (value digits k) (.int n) (write l level (.int n)) := by
  obtain ⟨c, cs, hcs, hc⟩ : ∃ c cs, Text.Numeral.write n = c :: cs ∧
      (isSpace c = false ∧ c ≠ '[' ∧ c ≠ ']' ∧ c ≠ '{' ∧ c ≠ '}') := by
    rw [Text.Numeral.write]
    split
    · exact ⟨'-', _, rfl, by decide⟩
    · obtain ⟨c, cs, hcs, hdigit⟩ := exists_cons_toDigits n.natAbs
      have hspace : isSpace c = false := Bool.eq_false_iff.mpr fun h => by
        rw [(stops_of_isSpace [] h c rfl).1] at hdigit
        cases hdigit
      exact ⟨c, cs, hcs, hspace, ne_of_isDigit hdigit rfl, ne_of_isDigit hdigit rfl,
        ne_of_isDigit hdigit rfl, ne_of_isDigit hdigit rfl⟩
  have hw (rest : List Char) : write l level (.int n) rest = c :: (cs ++ rest) := by
    rw [← List.cons_append, ← hcs]
    rfl
  refine isRead_scalar c cs hc hw (fun rest hr => ?_) k
  rw [← hw]
  exact scalar_writeInt hr hn

lemma isRead_empty {read : Reader Value} {v : Value} {write : List Char → List Char}
    {opening close : Char} (hw : ∀ rest, write rest = opening :: close :: rest)
    (hr : ∀ rest, read (opening :: close :: rest) = some (v, rest))
    (hs : isSpace opening = false ∧ opening ≠ ']' ∧ opening ≠ '}') : IsRead read v write := by
  refine ⟨fun rest _ => by rw [hw, hr], fun rest => ⟨opening, _, hw rest, hs⟩, fun rest => ?_⟩
  rw [hw, List.length_cons, List.length_cons]
  omega

lemma isRead_value (hl : l.IsBlank) {digits k : Nat} {v : Value} (h : v.IsPlain k)
    (hs : ∀ n, v.Holds n → (Nat.toDigits 10 n.natAbs).length ≤ digits) :
    IsRead (value digits k) v (write l level v) := by
  induction h generalizing level with
  | null => exact isRead_scalar 'n' "ull".toList (by decide) (fun _ => rfl) (fun _ _ => rfl) _
  | bool b =>
    cases b with
    | true => exact isRead_scalar 't' "rue".toList (by decide) (fun _ => rfl) (fun _ _ => rfl) _
    | false => exact isRead_scalar 'f' "alse".toList (by decide) (fun _ => rfl) (fun _ _ => rfl) _
  | int n => exact isRead_int (hs n .here) _
  | text s =>
    refine isRead_scalar '"' (s.toList.flatMap escape ++ ['"']) (by decide) (fun rest => ?_)
      (fun rest _ => ?_) _
    · rw [List.append_assoc]
      rfl
    · rw [List.append_assoc]
      exact congrArg (Option.map _) (text_written s rest)
  | @list k vs _ ih =>
    cases vs with
    | nil => exact isRead_empty (fun _ => rfl) (fun _ => rfl) (by decide)
    | cons v vs =>
      have hitems : ∀ x ∈ v :: vs, IsRead (value digits k) x (write l (level + 1) x) :=
        fun x hx => ih x hx fun n hn => hs n (.item hx hn)
      have ho (cs : List Char) : value digits (k + 1) ('[' :: cs) =
          (listOf (value digits k) ']' cs).map fun r => (Value.list r.1, r.2) := rfl
      have henclosed := isRead_enclosed (f := Value.list) (hl.newline (level + 1))
        (hl.newline level) (.inl rfl) hitems ho (by decide)
      exact funext (write_list l level · v vs) ▸ henclosed
  | @object k fs hnames _ ih =>
    cases fs with
    | nil => exact isRead_empty (fun _ => rfl) (fun _ => rfl) (by decide)
    | cons f fs =>
      have hitems : ∀ x ∈ f :: fs,
          IsRead (field (value digits k)) x (writeField l (level + 1) x) :=
        fun x hx => isRead_field (ih x hx fun n hn => hs n (.field hx hn)) hl x.1
      have ho (cs : List Char) : value digits (k + 1) ('{' :: cs) =
          (listOf (field (value digits k)) '}' cs).map fun r =>
            (Value.object (mergeFields r.1), r.2) := rfl
      have henclosed := isRead_enclosed (f := fun fs => Value.object (mergeFields fs))
        (hl.newline (level + 1)) (hl.newline level) (.inr rfl) hitems ho (by decide)
      rw [mergeFields_of_nodup hnames] at henclosed
      exact funext (write_object l level · f fs) ▸ henclosed

end Values

section Texts

variable {limits : Limits} {v : Value} (h : v.IsPlain limits.depth)
  (hs : ∀ n, v.Holds n → (Nat.toDigits 10 n.natAbs).length ≤ limits.digits)

include h hs

lemma read_write {l : Layout} (hl : l.IsBlank) :
    read limits (String.ofList (write l 0 v [])) = some v := by
  have hv : IsRead (value limits.digits limits.depth) v (write l 0 v) := isRead_value hl h hs
  have hskip : skip ([] ++ write l 0 v []) = write l 0 v [] :=
    skip_written (List.forall_mem_nil _) hv []
  rw [read, String.toList_ofList, ← List.nil_append (write l 0 v []), hskip, hv.read [] nofun]
  rfl

lemma read_compact : read limits v.compact = some v :=
  read_write h hs Layout.isBlank_compact

lemma read_indented : read limits v.indented = some v :=
  read_write h hs Layout.isBlank_indented

end Texts

end BugArchive.Json
