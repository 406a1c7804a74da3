import BugArchive.Proofs.Archive.Signature
import BugArchive.Proofs.Text.Ascii

namespace BugArchive

section Enclosed

variable {α : Type} {p : α → Prop} {x ws xs : List α}

variable (p) in
/-- Whether a part of a list stands between elements of a kind or the ends of the list. -/
def IsEnclosed (x xs : List α) : Prop :=
  ∃ front back, xs = front ++ x ++ back ∧ (∀ a ∈ front.getLast?, p a) ∧ ∀ a ∈ back.head?, p a

lemma eq_nil_of_getLast? (h : ∀ a ∈ xs.getLast?, p a) (hno : ∀ a ∈ xs, ¬ p a) : xs = [] := by
  rcases List.eq_nil_or_concat xs with rfl | ⟨rest, a, rfl⟩
  · rfl
  · exact absurd (h a (by simp)) (hno a (by simp))

lemma eq_nil_of_head? (h : ∀ a ∈ xs.head?, p a) (hno : ∀ a ∈ xs, ¬ p a) : xs = [] := by
  cases xs with
  | nil => rfl
  | cons a xs => exact absurd (h a rfl) (hno a List.mem_cons_self)

lemma isEnclosed_plain (hws : ∀ a ∈ ws, ¬ p a) : IsEnclosed p x ws ↔ x = ws := by
  constructor
  · rintro ⟨front, back, rfl, hfront, hback⟩
    obtain rfl := eq_nil_of_getLast? hfront fun a ha => hws a (by simp [ha])
    obtain rfl := eq_nil_of_head? hback fun a ha => hws a (by simp [ha])
    simp
  · rintro rfl
    exact ⟨[], [], by simp, by simp, by simp⟩

lemma isEnclosed_cons {b : α} (hx : ∀ a ∈ x, ¬ p a) (hws : ∀ a ∈ ws, ¬ p a) (hb : p b) :
    IsEnclosed p x (ws ++ b :: xs) ↔ x = ws ∨ IsEnclosed p x xs := by
  constructor
  · rintro ⟨front, back, h, hfront, hback⟩
    rw [List.append_assoc] at h
    rcases List.append_eq_append_iff.mp h with ⟨rest, rfl, hrest⟩ | ⟨rest, rfl, hrest⟩
    · cases rest with
      | nil =>
        rw [List.append_nil] at hfront
        obtain rfl := eq_nil_of_getLast? hfront hws
        cases x with
        | nil => exact .inl rfl
        | cons a x =>
          obtain ⟨rfl, -⟩ := List.cons.inj hrest
          exact absurd hb (hx b List.mem_cons_self)
      | cons a rest =>
        obtain ⟨rfl, rfl⟩ := List.cons.inj hrest
        refine .inr ⟨rest, back, by simp, fun c hc => hfront c ?_, hback⟩
        simp [List.getLast?_cons, Option.mem_def.mp hc]
    · obtain rfl := eq_nil_of_getLast? hfront fun a ha => hws a (by simp [ha])
      rcases List.append_eq_append_iff.mp hrest with ⟨more, rfl, hmore⟩ | ⟨more, rfl, hmore⟩
      · cases more with
        | nil => exact .inl (by simp)
        | cons a more =>
          rw [hmore] at hback
          exact absurd (hback a rfl) (hws a (by simp))
      · cases more with
        | nil => exact .inl (by simp)
        | cons a more =>
          obtain ⟨rfl, -⟩ := List.cons.inj hmore
          exact absurd hb (hx b (by simp))
  · rintro (rfl | ⟨front, back, rfl, hfront, hback⟩)
    · exact ⟨[], b :: xs, by simp, by simp, by simpa using hb⟩
    · refine ⟨ws ++ b :: front, back, by simp, ?_, hback⟩
      cases front with
      | nil => simpa using hb
      | cons a front => simpa using hfront

end Enclosed

namespace Signature

open Text.Utf8

def IsLineEnd (c : Char) : Prop :=
  c = '\r' ∨ c = '\n'

/-- What is not empty is a line when it stands between line ends, since where two of them are one
there is nothing between them. -/
lemma mem_lines_iff {x : List Char} (hne : x ≠ []) (hx : ∀ c ∈ x, ¬ IsLineEnd c)
    (acc cs : List Char) (hacc : ∀ c ∈ acc.reverse, ¬ IsLineEnd c) :
    x ∈ lines acc cs ↔ IsEnclosed IsLineEnd x (acc.reverse ++ cs) := by
  fun_induction lines acc cs with
  | case1 acc => rw [List.append_nil, isEnclosed_plain hacc, List.mem_singleton]
  | case2 acc cs ih =>
    have hnil : IsEnclosed IsLineEnd x ([] ++ '\n' :: cs) ↔ x = [] ∨ IsEnclosed IsLineEnd x cs :=
      isEnclosed_cons hx (by simp) (.inr rfl)
    rw [List.nil_append] at hnil
    rw [isEnclosed_cons hx hacc (.inl rfl), List.mem_cons, ih (by simp), hnil, or_iff_right hne]
    rfl
  | case3 acc cs _ ih =>
    rw [isEnclosed_cons hx hacc (.inl rfl), List.mem_cons, ih (by simp)]
    rfl
  | case4 acc cs ih =>
    rw [isEnclosed_cons hx hacc (.inr rfl), List.mem_cons, ih (by simp)]
    rfl
  | case5 acc c cs _ hr hn ih =>
    have hc : ¬ IsLineEnd c := fun h => h.elim hr hn
    rw [List.reverse_cons, List.append_assoc] at ih
    refine ih fun d hd => ?_
    rcases List.mem_append.mp hd with hd | hd
    · exact hacc d hd
    · rwa [List.mem_singleton.mp hd]

def EndsLine (b : UInt8) : Prop :=
  b = 0x0D ∨ b = 0x0A

lemma IsLineEnd.isPlain {c : Char} (h : IsLineEnd c) : IsPlain c := by
  rcases h with rfl | rfl <;> exact ⟨by decide, by decide⟩

lemma IsLineEnd.endsLine {c : Char} (h : IsLineEnd c) : EndsLine (UInt8.ofNat c.toNat) := by
  rcases h with rfl | rfl
  · exact .inl rfl
  · exact .inr rfl

lemma EndsLine.lt {b : UInt8} (h : EndsLine b) : b.toNat < 0x80 := by
  rcases h with rfl | rfl <;> decide

lemma EndsLine.isLineEnd {b : UInt8} (h : EndsLine b) : IsLineEnd (Char.ofNat b.toNat) := by
  rcases h with rfl | rfl
  · exact .inl rfl
  · exact .inr rfl

section Decoded

variable {x : List Char} {bs : List UInt8}

lemma isEnclosed_encode (hx : ∀ c ∈ x, IsPlain c) (h : IsEnclosed IsLineEnd x (decodeLossy bs)) :
    IsEnclosed EndsLine (encode x) bs := by
  obtain ⟨front, back, h, hfront, hback⟩ := h
  obtain ⟨fs, ys, rfl, hfs, hys⟩ : ∃ fs ys, bs = fs ++ ys ∧ (∀ b ∈ fs.getLast?, EndsLine b) ∧
      decodeLossy ys = x ++ back := by
    rcases List.eq_nil_or_concat front with rfl | ⟨rest, c, rfl⟩
    · exact ⟨[], bs, rfl, by simp, h⟩
    · have hc : IsLineEnd c := hfront c (by simp)
      rw [List.concat_eq_append, List.append_assoc, List.append_assoc] at h
      obtain ⟨xs, ys, rfl, -, hys⟩ := decodeLossy_eq_append hc.isPlain h
      exact ⟨xs ++ [UInt8.ofNat c.toNat], ys, by simp, by simpa using hc.endsLine, hys⟩
  obtain ⟨zs, rfl, hzs⟩ := decodeLossy_eq_plain_append hx hys
  refine ⟨fs, zs, (List.append_assoc _ _ _).symm, hfs, fun b hb => ?_⟩
  obtain ⟨zs, rfl⟩ := List.head?_eq_some_iff.mp hb
  cases back with
  | nil => cases eq_nil_of_decodeLossy hzs
  | cons c back =>
    have hc : IsLineEnd c := hback c rfl
    have hplain : ∀ d ∈ [c], IsPlain d := List.forall_mem_singleton.mpr hc.isPlain
    obtain ⟨ws, hws, -⟩ := decodeLossy_eq_plain_append hplain hzs
    rw [encode_cons, encode_plain hc.isPlain] at hws
    exact (List.cons.inj hws).1 ▸ hc.endsLine

lemma decodeLossy_after {front : List UInt8} (h : ∀ b ∈ front.getLast?, EndsLine b)
    (bs : List UInt8) : decodeLossy (front ++ bs) = decodeLossy front ++ decodeLossy bs ∧
      ∀ c ∈ (decodeLossy front).getLast?, IsLineEnd c := by
  rcases List.eq_nil_or_concat front with rfl | ⟨rest, b, rfl⟩
  · rw [decodeLossy_nil]
    exact ⟨rfl, by simp⟩
  · have hb : EndsLine b := h b (by simp)
    have hsplit := decodeLossy_split hb.lt rest
    rw [List.concat_eq_append, List.append_assoc, List.singleton_append, hsplit, hsplit,
      decodeLossy_nil, List.append_assoc]
    exact ⟨rfl, by simpa using hb.isLineEnd⟩

lemma isEnclosed_decodeLossy (h : IsEnclosed EndsLine (encode x) bs) :
    IsEnclosed IsLineEnd x (decodeLossy bs) := by
  obtain ⟨front, back, rfl, hfront, hback⟩ := h
  obtain ⟨hdecoded, hlast⟩ := decodeLossy_after hfront (encode x ++ back)
  refine ⟨decodeLossy front, decodeLossy back, ?_, hlast, fun c hc => ?_⟩
  · rw [List.append_assoc, hdecoded, decodeLossy_append, List.append_assoc]
  · cases back with
    | nil =>
      rw [decodeLossy_nil] at hc
      cases hc
    | cons b back =>
      have hb : EndsLine b := hback b rfl
      rw [← List.nil_append (b :: back), decodeLossy_split hb.lt, decodeLossy_nil] at hc
      obtain rfl := Option.some.inj hc
      exact hb.isLineEnd

end Decoded

def octets : List UInt8 :=
  encode line

lemma isPlain_of_mem_line : ∀ c ∈ line, IsPlain c ∧ ¬ IsLineEnd c := by
  have h : line.all (fun c => (0 < c.toNat && c.toNat < 0x80) && (c != '\r' && c != '\n')) := by
    decide
  simpa [List.all_eq_true, IsPlain, IsLineEnd, and_assoc] using h

lemma contains_line_iff (data : List UInt8) :
    (lines [] (decodeLossy data)).contains line = true ↔ IsEnclosed EndsLine octets data := by
  have hlines := mem_lines_iff (x := line) (by decide) (fun c hc => (isPlain_of_mem_line c hc).2) []
    (decodeLossy data) (by simp)
  rw [List.contains_iff_mem, hlines]
  exact ⟨isEnclosed_encode fun c hc => (isPlain_of_mem_line c hc).1, isEnclosed_decodeLossy⟩

variable {s : Stream} {window : Int} {data : List UInt8}

/-- The octets of the window decide, by their number and by the signature standing between line ends
among them. It matters neither how many one reading gives nor what is around them, and the stream is
left where it was. -/
theorem check_iff_isEnclosed (hs : s.access = .seekable) (hlimit : s.limit ≠ some 0)
    (hroom : s.limit = none → window < Error.indexLimit)
    (hdata : (s.content.drop s.position).take window.toNat = data) :
    (check window s).stream = s ∧
      (data.length < window → (check window s).result = .error (.truncated data.length window)) ∧
      (window ≤ data.length →
        ((check window s).result = .ok () ↔ IsEnclosed EndsLine octets data) ∧
        ((check window s).result = .error (.missingSignature window) ↔
          ¬ IsEnclosed EndsLine octets data)) ∧
      ∀ t : Stream, t.access = .seekable → t.limit ≠ some 0 →
        (t.limit = none → window < Error.indexLimit) →
        (t.content.drop t.position).take window.toNat = data →
          (check window t).result = (check window s).result := by
  have hresult {t : Stream} (hs : t.access = .seekable) (hlimit : t.limit ≠ some 0)
      (hroom : t.limit = none → window < Error.indexLimit)
      (hdata : (t.content.drop t.position).take window.toNat = data) :
      (check window t).result = judge window data := by
    rw [check_of_room hlimit hs hroom, Stream.remaining, hdata]
  refine ⟨check_stream window s, fun hlt => ?_, fun hle => ?_, fun t hs' hlimit' hroom' hdata' => ?_⟩
  · rw [hresult hs hlimit hroom hdata, judge, if_pos hlt]
  · rw [hresult hs hlimit hroom hdata, judge, if_neg (Int.not_lt.mpr hle), ← contains_line_iff]
    split
    · rename_i h
      exact ⟨iff_of_true rfl h, iff_of_false (fun he => by cases he) fun hn => hn h⟩
    · rename_i h
      exact ⟨iff_of_false (fun he => by cases he) h, iff_of_true rfl h⟩
  · rw [hresult hs hlimit hroom hdata, hresult hs' hlimit' hroom' hdata']

def broken : Stream :=
  ⟨[0x20, 0xE4, 0xB8, 0x0D] ++ octets ++ [0x0D, 0xFF], 1, some 3, .seekable⟩

theorem check_iff_isEnclosed_broken :
    (broken.access = .seekable ∧ broken.limit ≠ some 0 ∧
      (broken.limit = none → (20 : Int) < Error.indexLimit)) ∧
      (check 20 broken).result = .ok () ∧ (check 20 broken).stream = broken := by
  have hroom : broken.limit = none → (20 : Int) < Error.indexLimit := fun h => by cases h
  have h := check_iff_isEnclosed (s := broken) rfl (by decide) hroom rfl
  refine ⟨⟨rfl, by decide, hroom⟩, (h.2.2.1 (by decide)).1.mpr ?_, h.1⟩
  exact ⟨[0xE4, 0xB8, 0x0D], [0x0D, 0xFF], rfl, by simp [EndsLine], by simp [EndsLine]⟩

end Signature

end BugArchive
