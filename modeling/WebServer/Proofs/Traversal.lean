/-!
# WebServer.Proofs.Traversal

Going through a list, one element after the other.

Where an element may be refused, reading the list succeeds with what the elements are read as
(`mapM_eq_ok_iff`, `of_mapM_eq_ok`, `mapM_map_eq_ok`), and fails with what one of them is refused
with (`exists_of_mapM_eq_error`).
Where the elements stand for pieces of a text that is too long, there is a first one with which it
becomes so (`exists_crossing`).
-/

namespace WebServer

variable {ε α β : Type} {f : α → Except ε β} {xs : List α} {ys : List β} {e : ε}

/-- A list is read when all of its elements are, each as what stands in its place. -/
theorem mapM_eq_ok_iff : xs.mapM f = .ok ys ↔ xs.map f = ys.map .ok := by
  induction xs generalizing ys with
  | nil => cases ys <;> simp [pure, Except.pure]
  | cons x xs ih =>
      rw [List.mapM_cons, List.map_cons]
      cases hx : f x with
      | error e => cases ys <;> simp [bind, Except.bind]
      | ok y =>
          cases ys with
          | nil => cases xs.mapM f <;> simp [bind, Except.bind, pure, Except.pure]
          | cons y' ys =>
              rw [List.map_cons, List.cons.injEq, ← ih]
              cases xs.mapM f <;> simp [bind, Except.bind, pure, Except.pure]

theorem of_mapM_eq_ok (h : xs.mapM f = .ok ys) :
    (∀ x ∈ xs, ∃ y ∈ ys, f x = .ok y) ∧ ∀ y ∈ ys, ∃ x ∈ xs, f x = .ok y := by
  rw [mapM_eq_ok_iff] at h
  constructor
  · intro x hx
    have hread : f x ∈ ys.map .ok := h ▸ List.mem_map_of_mem hx
    obtain ⟨y, hy, heq⟩ := List.mem_map.1 hread
    exact ⟨y, hy, heq.symm⟩
  · intro y hy
    have hread : .ok y ∈ xs.map f := h ▸ List.mem_map_of_mem hy
    exact List.mem_map.1 hread

theorem exists_of_mapM_eq_error (h : xs.mapM f = .error e) : ∃ x ∈ xs, f x = .error e := by
  induction xs with
  | nil => simp [pure, Except.pure] at h
  | cons x xs ih =>
      rw [List.mapM_cons] at h
      cases hx : f x with
      | error e' =>
          obtain rfl : e' = e := by simpa [hx, bind, Except.bind] using h
          exact ⟨x, List.mem_cons_self, hx⟩
      | ok y =>
          cases hxs : xs.mapM f with
          | error e' =>
              obtain rfl : e' = e := by simpa [hx, hxs, bind, Except.bind] using h
              exact (ih hxs).imp fun _ hx' => ⟨List.mem_cons_of_mem _ hx'.1, hx'.2⟩
          | ok ys' => simp [hx, hxs, bind, Except.bind, pure, Except.pure] at h

/-- What is read back element by element is read back as a whole. -/
theorem mapM_map_eq_ok {g : β → α} (h : ∀ y ∈ ys, f (g y) = .ok y) :
    (ys.map g).mapM f = .ok ys := by
  rw [mapM_eq_ok_iff, List.map_map]
  exact List.map_congr_left h

/-- A limit that pieces cross together is crossed first with one of them. -/
theorem exists_crossing {piece : α → List β} {limit : Nat}
    (h : limit < (xs.flatMap piece).length) :
    ∃ before x behind, xs = before ++ x :: behind ∧ (before.flatMap piece).length ≤ limit ∧
      limit < (before.flatMap piece).length + (piece x).length := by
  induction xs generalizing limit with
  | nil => exact absurd h (Nat.not_lt_zero limit)
  | cons x xs ih =>
      rw [List.flatMap_cons, List.length_append] at h
      rcases Nat.lt_or_ge limit (piece x).length with hlt | hge
      · exact ⟨[], x, xs, rfl, Nat.zero_le _, by simpa using hlt⟩
      · have hrest : limit - (piece x).length < (xs.flatMap piece).length := by omega
        obtain ⟨before, y, behind, rfl, hle, hlt⟩ := ih hrest
        refine ⟨x :: before, y, behind, rfl, ?_, ?_⟩
        all_goals
          rw [List.flatMap_cons, List.length_append]
          omega

end WebServer
