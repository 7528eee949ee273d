import Mathlib.Data.List.Forall2

/-! # Computations that may fail

    What succeeds as a whole succeeds in every step (`bind_eq_ok`, `map_eq_ok`, `forall₂_of_mapM`),
    and what succeeds in every step succeeds as a whole (`bind_succeeds`, `foldlM_succeeds`,
    `mapM_succeeds`). A map that fails does so for the first entry that fails (`mapM_eq_error_iff`).
    Lists that belong together entry by entry do so at every index (`rel_getElem?_of_forall₂`).
-/

namespace SourceCensus

variable {ε α β : Type}

/-- A computation in two steps that succeeds succeeds in both. -/
theorem bind_eq_ok {x : Except ε α} {f : α → Except ε β} {b : β}
    (h : (x >>= f) = .ok b) : ∃ a, x = .ok a ∧ f a = .ok b := by
  cases x with
  | error e => cases h
  | ok a => exact ⟨a, rfl, h⟩

/-- A computation in two steps succeeds when both succeed. -/
theorem bind_succeeds {x : Except ε α} {f : α → Except ε β} {a : α} (hx : x = .ok a)
    (hf : ∃ b, f a = .ok b) : ∃ b, (x >>= f) = .ok b := by
  subst hx
  exact hf

/-- An outcome that is mapped to a success was one. -/
theorem map_eq_ok {x : Except ε α} {f : α → β} {b : β} (h : x.map f = .ok b) :
    ∃ a, x = .ok a ∧ f a = b := by
  cases x with
  | error e => cases h
  | ok a => exact ⟨a, rfl, Except.ok.inj h⟩

/-- An outcome that is mapped fails as it did. -/
theorem map_eq_error_iff {x : Except ε α} {f : α → β} {e : ε} :
    x.map f = .error e ↔ x = .error e := by
  cases x <;> simp [Except.map]

/-- What is read off the value of a success was read off some value. -/
theorem exists_of_toOption_map {x : Except ε α} {f : α → β} {b : β}
    (h : x.toOption.map f = some b) : ∃ a, x = .ok a ∧ f a = b := by
  cases x with
  | error e => cases h
  | ok a => exact ⟨a, rfl, Option.some.inj h⟩

/-- A fold whose steps all succeed succeeds. -/
theorem foldlM_succeeds {f : β → α → Except ε β} {xs : List α}
    (h : ∀ x ∈ xs, ∀ acc, ∃ next, f acc x = .ok next) (init : β) :
    ∃ last, xs.foldlM f init = .ok last := by
  induction xs generalizing init with
  | nil => exact ⟨init, rfl⟩
  | cons x xs ih =>
    obtain ⟨next, hnext⟩ := h x (by simp) init
    obtain ⟨last, hlast⟩ := ih (fun y hy => h y (by simp [hy])) next
    exact ⟨last, by rw [List.foldlM_cons, hnext]; exact hlast⟩

/-- A map whose steps all succeed succeeds. -/
theorem mapM_succeeds {f : α → Except ε β} {xs : List α}
    (h : ∀ x ∈ xs, ∃ y, f x = .ok y) : ∃ ys, xs.mapM f = .ok ys := by
  induction xs with
  | nil => exact ⟨[], rfl⟩
  | cons x xs ih =>
    obtain ⟨y, hy⟩ := h x (by simp)
    obtain ⟨ys, hys⟩ := ih fun z hz => h z (by simp [hz])
    exact ⟨y :: ys, by rw [List.mapM_cons, hy, hys]; rfl⟩

/-- What a map that succeeds gives, entry by entry. -/
theorem forall₂_of_mapM {f : α → Except ε β} {xs : List α} {ys : List β}
    (h : xs.mapM f = .ok ys) : List.Forall₂ (fun x y => f x = .ok y) xs ys := by
  induction xs generalizing ys with
  | nil =>
    cases h
    exact .nil
  | cons x xs ih =>
    rw [List.mapM_cons] at h
    obtain ⟨y, hy, h⟩ := bind_eq_ok h
    obtain ⟨zs, hzs, h⟩ := bind_eq_ok h
    cases h
    exact .cons hy (ih hzs)

/-- A map that succeeds succeeds for every entry. -/
theorem succeeds_of_mapM {f : α → Except ε β} {xs : List α} {ys : List β}
    (h : xs.mapM f = .ok ys) : ∀ x ∈ xs, ∃ y, f x = .ok y := by
  have hall := forall₂_of_mapM h
  clear h
  induction hall with
  | nil => exact List.forall_mem_nil _
  | cons hfirst _ ih => exact List.forall_mem_cons.2 ⟨⟨_, hfirst⟩, ih⟩

/-- **A map fails** as the first entry does that fails. -/
theorem mapM_eq_error_iff {f : α → Except ε β} {xs : List α} {e : ε} :
    xs.mapM f = .error e ↔ ∃ before x after, xs = before ++ x :: after ∧
      (∀ y ∈ before, ∃ z, f y = .ok z) ∧ f x = .error e := by
  constructor
  · intro h
    induction xs with
    | nil => cases h
    | cons x xs ih =>
      rw [List.mapM_cons] at h
      cases hx : f x with
      | error e' =>
        rw [hx] at h
        cases h
        exact ⟨[], x, xs, rfl, List.forall_mem_nil _, hx⟩
      | ok y =>
        rw [hx] at h
        -- what fails is the rest of the map
        cases hxs : xs.mapM f with
        | ok ys =>
          rw [hxs] at h
          cases h
        | error e' =>
          rw [hxs] at h
          cases h
          obtain ⟨before, x', after, rfl, hbefore, hx'⟩ := ih hxs
          exact ⟨x :: before, x', after, rfl, List.forall_mem_cons.2 ⟨⟨y, hx⟩, hbefore⟩, hx'⟩
  · intro h
    obtain ⟨before, x, after, rfl, hbefore, hx⟩ := h
    obtain ⟨ys, hys⟩ := mapM_succeeds hbefore
    rw [List.mapM_append, hys, List.mapM_cons, hx]
    rfl

/-- What each entry of a list has beside an entry of another one, all its entries have. -/
theorem forall_of_forall₂ {P : β → Prop} {xs : List α} {ys : List β}
    (h : List.Forall₂ (fun _ y => P y) xs ys) : ∀ y ∈ ys, P y := by
  induction h with
  | nil => exact List.forall_mem_nil P
  | cons hfirst _ ih => exact List.forall_mem_cons.2 ⟨hfirst, ih⟩

/-- Where entries of two lists belong together, what stands at an index does. -/
theorem rel_getElem?_of_forall₂ {R : α → β → Prop} {xs : List α} {ys : List β}
    (h : List.Forall₂ R xs ys) (i : Nat) : Option.Rel R xs[i]? ys[i]? := by
  induction h generalizing i with
  | nil => exact .none
  | cons hfirst _ ih =>
    cases i with
    | zero => exact .some hfirst
    | succ i => exact ih i

end SourceCensus
