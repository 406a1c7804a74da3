import BugArchive.Archive.Signature
import BugArchive.Proofs.Text.Utf8
import Mathlib.Tactic.Lemma

namespace BugArchive

namespace Stream

lemma reading_pos {s : Stream} (h : s.limit ≠ some 0) {n : Nat} (hn : 0 < n) : 0 < s.reading n := by
  rw [reading]
  cases hl : s.limit with
  | none => exact hn
  | some k =>
    have hk : k ≠ 0 := by
      rintro rfl
      exact h hl
    simp only [Option.map_some, Option.getD_some]
    omega

lemma reading_le (s : Stream) (n : Nat) : s.reading n ≤ n := by
  rw [reading]
  cases s.limit with
  | none => exact Nat.le_refl n
  | some k => exact Nat.min_le_left n k

lemma take_append_take (bs : List UInt8) {k n : Nat} (h : k ≤ n) :
    bs.take k ++ (bs.drop (bs.take k).length).take (n - (bs.take k).length) = bs.take n := by
  rcases Nat.le_total bs.length k with hl | hl
  · rw [List.take_of_length_le hl, List.drop_length, List.take_nil, List.append_nil,
      List.take_of_length_le (Nat.le_trans hl h)]
  · rw [List.length_take_of_le hl, ← List.take_add, Nat.add_sub_cancel' h]

lemma readUpTo_eq {s : Stream} (h : s.limit ≠ some 0) (n : Nat) :
    s.readUpTo n = (s.remaining.take n, s.seek (s.position + (s.remaining.take n).length)) := by
  induction n using Nat.strongRecOn generalizing s with
  | _ n ih =>
    rw [readUpTo]
    by_cases hn : n = 0
    · subst hn
      rfl
    have hpos := reading_pos h (Nat.pos_of_ne_zero hn)
    rw [if_neg hn, read]
    dsimp only
    have happend := take_append_take s.remaining (reading_le s n)
    generalize hc : s.remaining.take (s.reading n) = chunk at happend
    by_cases hz : chunk.length = 0
    · have hr : s.remaining = [] := by
        rw [← hc, List.length_take, Nat.min_eq_zero_iff] at hz
        rcases hz with hz | hz
        · omega
        · exact List.length_eq_zero_iff.mp hz
      simp [hz, hr]
    · have hm : (s.seek (s.position + chunk.length)).remaining = s.remaining.drop chunk.length := by
        simp [remaining, seek, List.drop_drop]
      have hi := @ih (n - chunk.length) (by omega) (s.seek (s.position + chunk.length)) h
      rw [if_neg hz, hi, hm, happend, ← happend, List.length_append]
      simp [seek, Nat.add_assoc]

lemma readUpTo_snd (s : Stream) (n : Nat) : ∃ k, (s.readUpTo n).2 = s.seek k := by
  induction n using Nat.strongRecOn generalizing s with
  | _ n ih =>
    rw [readUpTo]
    split
    · exact ⟨s.position, rfl⟩
    dsimp only
    split
    · exact ⟨_, rfl⟩
    · obtain ⟨k, hk⟩ := ih (n - (s.read n).1.length) (by omega) (s.read n).2
      exact ⟨k, hk⟩

end Stream

namespace Signature

lemma check_stream (window : Int) (s : Stream) : (check window s).stream = s := by
  unfold check
  split
  · split
    · rfl
    · obtain ⟨k, hk⟩ := s.readUpTo_snd window.toNat
      exact congrArg (·.seek s.position) hk
  · rfl

lemma check_of_room {window : Int} {s : Stream} (h : s.limit ≠ some 0) (hs : s.access = .seekable)
    (hw : s.limit = none → window < Error.indexLimit) :
    check window s = ⟨[], judge window (s.remaining.take window.toNat), s⟩ := by
  have hl : ¬ (s.limit.isNone ∧ Error.indexLimit ≤ window.toNat) := by
    rintro ⟨hnone, hlarge⟩
    have hlt := hw (Option.isNone_iff_eq_none.mp hnone)
    have hpos : 0 < Error.indexLimit := by decide
    omega
  rw [check, if_pos hs, if_neg hl, Stream.readUpTo_eq h]
  rfl

lemma check_seekable {window : Int} {s : Stream} (h : s.limit ≠ some 0)
    (hs : s.access = .seekable) (hw : window.toNat < Error.indexLimit) :
    check window s = ⟨[], judge window (s.remaining.take window.toNat), s⟩ :=
  check_of_room h hs fun _ => by omega

end Signature

end BugArchive
