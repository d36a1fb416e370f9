import Mathlib.Data.List.Basic
import ReportRouting.Rule.File

/-!
Where the comment of a line begins.

A comment begins at a `#` that directly follows a blank. `IsUncommented` says what is left before
the first of them, and the reader cuts a line exactly there.
-/

namespace ReportRouting

open Text

/-- A `#` directly follows the blank at the end of `kept`. -/
def CommentAfter (kept text : List Char) : Prop :=
  ∃ c rest, kept.getLast? = some c ∧ isBlank c = true ∧ text = kept ++ '#' :: rest

/-- What stands before the first `#` that directly follows a blank, or all if there is none. -/
def IsUncommented (text kept : List Char) : Prop :=
  (CommentAfter kept text ∧ ∀ other, CommentAfter other text → kept.length ≤ other.length) ∨
    (kept = text ∧ ∀ other, ¬CommentAfter other text)

/-! ### The place of the cut -/

/-- Whether a blank stands right before whatever follows `u`; `afterBlank` counts for an empty
`u`. -/
def blankBefore (afterBlank : Bool) (u : List Char) : Bool :=
  (u.getLast?.map isBlank).getD afterBlank

@[simp] theorem blankBefore_nil (afterBlank : Bool) : blankBefore afterBlank [] = afterBlank :=
  rfl

@[simp] theorem blankBefore_cons (afterBlank : Bool) (c : Char) (u : List Char) :
    blankBefore afterBlank (c :: u) = blankBefore (isBlank c) u := by
  cases u with
  | nil => rfl
  | cons d u => rw [blankBefore, blankBefore, List.getLast?_cons_cons, List.getLast?_cons]; rfl

/-- The cut stops at the end or at a comment. -/
theorem cutComment_eq_self_or (afterBlank : Bool) (s : List Char) :
    cutComment afterBlank s = s ∨
      blankBefore afterBlank (cutComment afterBlank s) = true ∧
        ∃ rest, s = cutComment afterBlank s ++ '#' :: rest := by
  induction s generalizing afterBlank with
  | nil => exact .inl rfl
  | cons c s ih =>
      rw [cutComment_cons]
      split
      case isTrue h =>
        obtain ⟨rfl, hblank⟩ := h
        exact .inr ⟨hblank, s, rfl⟩
      case isFalse =>
        rcases ih (isBlank c) with h | ⟨hblank, rest, hrest⟩
        · exact .inl (by rw [h])
        · refine .inr ⟨by rw [blankBefore_cons, hblank], rest, ?_⟩
          rw [List.cons_append, ← hrest]

/-- The cut goes no further than to any comment. -/
theorem length_cutComment_le {afterBlank : Bool} {u v : List Char}
    (h : blankBefore afterBlank u = true) :
    (cutComment afterBlank (u ++ '#' :: v)).length ≤ u.length := by
  induction u generalizing afterBlank with
  | nil =>
      have hcut : cutComment afterBlank ('#' :: v) = [] := by
        rw [cutComment_cons, if_pos ⟨rfl, h⟩]
      exact Nat.le_of_eq (congrArg List.length hcut)
  | cons c u ih =>
      rw [blankBefore_cons] at h
      rw [List.cons_append, cutComment_cons]
      split
      · exact Nat.zero_le _
      · exact Nat.succ_le_succ (ih h)

theorem cutComment_prefix (afterBlank : Bool) (s : List Char) : cutComment afterBlank s <+: s := by
  rcases cutComment_eq_self_or afterBlank s with h | ⟨_, rest, h⟩
  · exact ⟨[], by rw [List.append_nil, h]⟩
  · exact ⟨'#' :: rest, h.symm⟩

theorem commentAfter_iff {kept text : List Char} :
    CommentAfter kept text ↔
      blankBefore false kept = true ∧ ∃ rest, text = kept ++ '#' :: rest := by
  rw [CommentAfter, blankBefore]
  cases kept.getLast? with
  | none => simp
  | some c => simp

/-- The cut finds the text before the comment. -/
theorem isUncommented_iff {text kept : List Char} :
    IsUncommented text kept ↔ kept = cutComment false text := by
  have hle : ∀ other, CommentAfter other text →
      (cutComment false text).length ≤ other.length := by
    intro other hother
    obtain ⟨hblank, rest, hrest⟩ := commentAfter_iff.1 hother
    rw [hrest]
    exact length_cutComment_le hblank
  -- Either nothing is cut off, and then there is no comment, or the cut is at one.
  rcases cutComment_eq_self_or false text with hself | ⟨hblank, hrest⟩
  · have hnone : ∀ other, ¬CommentAfter other text := by
      intro other hother
      have hlen := hle other hother
      obtain ⟨_, rest, hrest⟩ := commentAfter_iff.1 hother
      rw [hself, hrest, List.length_append, List.length_cons] at hlen
      omega
    rw [hself]
    constructor
    · rintro (⟨h, _⟩ | ⟨h, _⟩)
      · exact absurd h (hnone kept)
      · exact h
    · intro h
      exact .inr ⟨h, hnone⟩
  · have hcut := commentAfter_iff.2 ⟨hblank, hrest⟩
    constructor
    · rintro (⟨h, hmin⟩ | ⟨_, h⟩)
      · obtain ⟨_, rest, htext⟩ := commentAfter_iff.1 h
        obtain ⟨rest', htext'⟩ := hrest
        have hlen : kept.length = (cutComment false text).length :=
          Nat.le_antisymm (hmin _ hcut) (hle _ h)
        exact (List.append_inj (htext.symm.trans htext') hlen).1
      · exact absurd hcut (h _)
    · rintro rfl
      exact .inl ⟨hcut, hle⟩

theorem cutComment_cons_of_ne {c : Char} (hc : c ≠ '#') (afterBlank : Bool) (s : List Char) :
    cutComment afterBlank (c :: s) = c :: cutComment (isBlank c) s := by
  rw [cutComment_cons, if_neg]
  exact fun h => hc h.1

theorem cutComment_eq_of_head?_ne {afterBlank : Bool} {s : List Char} (h : s.head? ≠ some '#') :
    cutComment afterBlank s = cutComment false s := by
  cases s with
  | nil => rfl
  | cons c s =>
      have hc : c ≠ '#' := fun hc => h (by rw [hc]; rfl)
      rw [cutComment_cons_of_ne hc, cutComment_cons_of_ne hc]

theorem cutComment_append {afterBlank : Bool} {u : List Char} (v : List Char)
    (h : cutComment afterBlank u = u) :
    cutComment afterBlank (u ++ v) = u ++ cutComment (blankBefore afterBlank u) v := by
  induction u generalizing afterBlank with
  | nil => rfl
  | cons c u ih =>
      rw [cutComment_cons] at h
      split_ifs at h with hcut
      rw [List.cons_append, cutComment_cons, if_neg hcut, ih (List.cons.inj h).2,
        blankBefore_cons, List.cons_append]

end ReportRouting
