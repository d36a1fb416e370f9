import Mathlib.Data.List.Forall2

/-!
Answers to a list of questions, up to the first fault.

Rules are evaluated, records rendered and lines read by one `mapM` each. All of them need to know
when such a run answers: exactly if every element does, and then every answer stands at the place
of its element. A run that does not answer has the fault of the first element that does not.
-/

namespace ReportRouting

variable {α β ε : Type}

theorem bind_eq_ok_iff {x : Except ε α} {f : α → Except ε β} {b : β} :
    (x >>= f) = .ok b ↔ ∃ a, x = .ok a ∧ f a = .ok b := by
  cases x with
  | error e =>
      constructor
      · intro h
        cases h
      · rintro ⟨a, ha, _⟩
        cases ha
  | ok a =>
      constructor
      · exact fun h => ⟨a, rfl, h⟩
      · rintro ⟨a', ha, h⟩
        cases ha
        exact h

theorem not_exists_eq_error_iff {x : Except ε α} : (¬∃ e, x = .error e) ↔ ∃ a, x = .ok a := by
  cases x with
  | error e =>
      constructor
      · intro h
        exact absurd ⟨e, rfl⟩ h
      · rintro ⟨a, h⟩
        cases h
  | ok a =>
      constructor
      · exact fun _ => ⟨a, rfl⟩
      · rintro _ ⟨e, h⟩
        cases h

theorem mapM_id_map (f : α → Except ε β) (xs : List α) : (xs.map f).mapM id = xs.mapM f :=
  List.mapM_map

theorem mapM_eq_ok_iff {f : α → Except ε β} {xs : List α} {ys : List β} :
    xs.mapM f = .ok ys ↔ List.Forall₂ (fun x y => f x = .ok y) xs ys := by
  induction xs generalizing ys with
  | nil =>
      rw [List.mapM_nil, List.forall₂_nil_left_iff]
      exact ⟨fun h => (Except.ok.inj h).symm, fun h => h ▸ rfl⟩
  | cons x xs ih =>
      rw [List.mapM_cons, List.forall₂_cons_left_iff, bind_eq_ok_iff]
      simp only [bind_eq_ok_iff, ih]
      constructor
      · rintro ⟨y, hy, zs, hzs, h⟩
        exact ⟨y, zs, hy, hzs, (Except.ok.inj h).symm⟩
      · rintro ⟨y, zs, hy, hzs, rfl⟩
        exact ⟨y, hy, zs, hzs, rfl⟩

theorem exists_forall₂_iff {R : α → β → Prop} {xs : List α} :
    (∃ ys, List.Forall₂ R xs ys) ↔ ∀ x ∈ xs, ∃ y, R x y := by
  induction xs with
  | nil => exact ⟨fun _ _ hx => absurd hx List.not_mem_nil, fun _ => ⟨[], .nil⟩⟩
  | cons x xs ih =>
      rw [List.forall_mem_cons, ← ih]
      constructor
      · rintro ⟨_, h⟩
        obtain ⟨y, ys, hy, hys, _⟩ := List.forall₂_cons_left_iff.1 h
        exact ⟨⟨y, hy⟩, ys, hys⟩
      · rintro ⟨⟨y, hy⟩, ys, hys⟩
        exact ⟨y :: ys, .cons hy hys⟩

/-- A run answers if every element does. -/
theorem exists_mapM_eq_ok_iff {f : α → Except ε β} {xs : List α} :
    (∃ ys, xs.mapM f = .ok ys) ↔ ∀ x ∈ xs, ∃ y, f x = .ok y := by
  simp only [mapM_eq_ok_iff]
  exact exists_forall₂_iff

theorem bind_eq_error_iff {x : Except ε α} {f : α → Except ε β} {e : ε} :
    (x >>= f) = .error e ↔ x = .error e ∨ ∃ a, x = .ok a ∧ f a = .error e := by
  cases x with
  | error e' =>
      constructor
      · intro h
        exact .inl (congrArg Except.error (Except.error.inj h))
      · rintro (h | ⟨a, ha, _⟩)
        · exact congrArg Except.error (Except.error.inj h)
        · cases ha
  | ok a =>
      constructor
      · exact fun h => .inr ⟨a, rfl, h⟩
      · rintro (h | ⟨a', ha, h⟩)
        · cases h
        · cases ha
          exact h

theorem mapM_cons_eq_error_iff {f : α → Except ε β} {x : α} {xs : List α} {e : ε} :
    (x :: xs).mapM f = .error e ↔ f x = .error e ∨ (∃ b, f x = .ok b) ∧ xs.mapM f = .error e := by
  have hrest : ∀ b, (xs.mapM f >>= fun bs => pure (b :: bs)) = .error e ↔ xs.mapM f = .error e := by
    intro b
    rw [bind_eq_error_iff, or_iff_left]
    rintro ⟨_, _, h⟩
    cases h
  rw [List.mapM_cons, bind_eq_error_iff]
  simp only [hrest, exists_and_right]

/-- The fault of a run is that of the first element without an answer. -/
theorem mapM_eq_error_iff {f : α → Except ε β} {xs : List α} {e : ε} :
    xs.mapM f = .error e ↔ ∃ before x after, xs = before ++ x :: after ∧
      (∀ y ∈ before, ∃ b, f y = .ok b) ∧ f x = .error e := by
  induction xs with
  | nil =>
      constructor
      · intro h
        cases h
      · rintro ⟨before, x, after, h, _⟩
        exact absurd h.symm (List.append_ne_nil_of_right_ne_nil before (List.cons_ne_nil x after))
  | cons x xs ih =>
      rw [mapM_cons_eq_error_iff, ih]
      constructor
      · rintro (hx | ⟨hx, before, z, after, rfl, hbefore, hz⟩)
        · exact ⟨[], x, xs, rfl, List.forall_mem_nil _, hx⟩
        · exact ⟨x :: before, z, after, rfl, List.forall_mem_cons.2 ⟨hx, hbefore⟩, hz⟩
      · rintro ⟨before, z, after, hxs, hbefore, hz⟩
        cases before with
        | nil =>
            cases hxs
            exact .inl hz
        | cons y before =>
            cases hxs
            obtain ⟨hx, hbefore⟩ := List.forall_mem_cons.1 hbefore
            exact .inr ⟨hx, before, z, after, rfl, hbefore, hz⟩

/-- The fault of a run over numbered elements, with the number of its element. -/
theorem mapM_zipIdx_eq_error_iff {f : α × Nat → Except ε β} {xs : List α} {n : Nat} {e : ε} :
    (xs.zipIdx n).mapM f = .error e ↔ ∃ before x after, xs = before ++ x :: after ∧
      (∀ p ∈ before.zipIdx n, ∃ b, f p = .ok b) ∧ f (x, n + before.length) = .error e := by
  rw [mapM_eq_error_iff]
  constructor
  · rintro ⟨numbered, p, later, hsplit, hbefore, hp⟩
    obtain ⟨before, rest, rfl, rfl, hrest⟩ := List.zipIdx_eq_append_iff.1 hsplit
    obtain ⟨x, after, rfl, rfl, -⟩ := List.zipIdx_eq_cons_iff.1 hrest.symm
    exact ⟨before, x, after, rfl, hbefore, hp⟩
  · rintro ⟨before, x, after, rfl, hbefore, hx⟩
    exact ⟨_, _, _, by rw [List.zipIdx_append, List.zipIdx_cons], hbefore, hx⟩

theorem forall_mem_zipIdx_iff {p : α → Prop} {xs : List α} {n : Nat} :
    (∀ q ∈ xs.zipIdx n, p q.1) ↔ ∀ x ∈ xs, p x := by
  conv_rhs => rw [← List.zipIdx_map_fst n xs]
  rw [List.forall_mem_map]

/-- A run fails if some element has no answer. -/
theorem exists_mapM_eq_error_iff {f : α → Except ε β} {xs : List α} :
    (∃ e, xs.mapM f = .error e) ↔ ∃ x ∈ xs, ∃ e, f x = .error e := by
  constructor
  · rintro ⟨e, h⟩
    obtain ⟨before, x, after, rfl, _, hx⟩ := mapM_eq_error_iff.1 h
    exact ⟨x, List.mem_append_right before List.mem_cons_self, e, hx⟩
  · rintro ⟨x, hmem, e, hx⟩
    cases h : xs.mapM f with
    | error e' => exact ⟨e', rfl⟩
    | ok ys =>
        obtain ⟨y, hy⟩ := exists_mapM_eq_ok_iff.1 ⟨ys, h⟩ x hmem
        rw [hx] at hy
        cases hy

/-- Of elements that are left out no answer is asked. -/
theorem mapM_filter_eq_error_iff {f : α → Except ε β} {p : α → Bool} {xs : List α} {e : ε} :
    (xs.filter p).mapM f = .error e ↔ ∃ before x after, xs = before ++ x :: after ∧
      (∀ y ∈ before, p y = true → ∃ b, f y = .ok b) ∧ p x = true ∧ f x = .error e := by
  rw [mapM_eq_error_iff]
  constructor
  · rintro ⟨kept, x, keptAfter, hxs, hkept, hx⟩
    obtain ⟨before, rest, rfl, rfl, hrest⟩ := List.filter_eq_append_iff.1 hxs
    obtain ⟨skipped, after, rfl, hskipped, hpx, -⟩ := List.filter_eq_cons_iff.1 hrest
    refine ⟨before ++ skipped, x, after, (List.append_assoc _ _ _).symm, ?_, hpx, hx⟩
    intro y hy hpy
    rcases List.mem_append.1 hy with hy | hy
    · exact hkept y (List.mem_filter.2 ⟨hy, hpy⟩)
    · exact absurd hpy (hskipped y hy)
  · rintro ⟨before, x, after, rfl, hbefore, hpx, hx⟩
    refine ⟨before.filter p, x, after.filter p, ?_, fun y hy => ?_, hx⟩
    · rw [List.filter_append, List.filter_cons_of_pos hpx]
    · obtain ⟨hy, hpy⟩ := List.mem_filter.1 hy
      exact hbefore y hy hpy

/-- Every answer is the answer to some element. -/
theorem exists_of_forall₂_of_mem {R : α → β → Prop} {xs : List α} {ys : List β}
    (h : List.Forall₂ R xs ys) {y : β} (hy : y ∈ ys) : ∃ x ∈ xs, R x y := by
  induction h with
  | nil => cases hy
  | @cons x y' xs ys hxy _ ih =>
      rcases List.mem_cons.1 hy with rfl | hy
      · exact ⟨x, List.mem_cons_self, hxy⟩
      · obtain ⟨x', hx', hR⟩ := ih hy
        exact ⟨x', List.mem_cons_of_mem x hx', hR⟩

end ReportRouting
