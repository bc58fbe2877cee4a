import Rollup.Error
import Mathlib.Data.List.Forall2

/-!
Taking computations apart that may fail: what it means that a composed one succeeds. A pass over a
list fails with the failure of its first item that fails, after all items before it succeeded.
-/
namespace Rollup

variable {ε α β γ : Type}

theorem Except.ok_bind (a : α) (f : α → Except ε β) : (Except.ok a >>= f) = f a := rfl

theorem Except.bind_ok_eq_map (x : Except ε α) (f : α → β) :
    (x >>= fun a => .ok (f a)) = x.map f := by
  cases x <;> rfl

theorem Except.bind_eq_ok_iff {x : Except ε α} {f : α → Except ε β} {b : β} :
    (x >>= f) = .ok b ↔ ∃ a, x = .ok a ∧ f a = .ok b := by
  cases x with
  | error e => simp [bind, Except.bind]
  | ok a => simp [bind, Except.bind]

theorem Except.bind_eq_error_iff {x : Except ε α} {f : α → Except ε β} {failure : ε} :
    (x >>= f) = .error failure ↔ x = .error failure ∨ ∃ a, x = .ok a ∧ f a = .error failure := by
  cases x with
  | error e => simp [bind, Except.bind]
  | ok a => simp [bind, Except.bind]

theorem Except.isOk_iff {x : Except ε α} : x.isOk = true ↔ ∃ a, x = .ok a := by
  cases x <;> simp [Except.isOk, Except.toBool]

theorem Except.map_eq_ok_iff {x : Except ε α} {f : α → β} {b : β} :
    x.map f = .ok b ↔ ∃ a, x = .ok a ∧ f a = b := by
  cases x with
  | error e => simp [Except.map]
  | ok a => simp [Except.map]

theorem Outcome.ofExcept_eq_ok_iff {x : Except Error α} {a : α} :
    Outcome.ofExcept x = .ok a ↔ x = .ok a := by
  cases x <;> simp [Outcome.ofExcept]

theorem Outcome.ofExcept_eq_error_iff {x : Except Error α} {failure : Failure} :
    Outcome.ofExcept x = .error failure ↔ ∃ error, x = .error error ∧ .error error = failure := by
  cases x <;> simp [Outcome.ofExcept]

theorem Except.map_eq_error_iff {x : Except ε α} {f : α → β} {failure : ε} :
    x.map f = .error failure ↔ x = .error failure := by
  cases x <;> simp [Except.map]

theorem Except.mapM_eq_ok {f : α → Except ε β} {g : α → β} {items : List α}
    (h : ∀ item ∈ items, f item = .ok (g item)) : items.mapM f = .ok (items.map g) := by
  induction items with
  | nil => rfl
  | cons item rest ih =>
    rw [List.mapM_cons, h item List.mem_cons_self, Except.ok_bind,
      ih fun other mem => h other (List.mem_cons_of_mem _ mem)]
    rfl

theorem Except.mapM_eq_ok_iff {f : α → Except ε β} {items : List α} {results : List β} :
    items.mapM f = .ok results ↔ List.Forall₂ (fun item result => f item = .ok result) items
      results := by
  induction items generalizing results with
  | nil => simp [pure, Except.pure, eq_comm]
  | cons item rest ih =>
    rw [List.mapM_cons, Except.bind_eq_ok_iff, List.forall₂_cons_left_iff]
    apply exists_congr
    intro result
    rw [Except.bind_eq_ok_iff, ← exists_and_left]
    apply exists_congr
    intro others
    rw [ih, and_congr_right_iff, and_congr_right_iff]
    intro _ _
    exact ⟨fun eq => (Except.ok.inj eq).symm, fun eq => congrArg Except.ok eq.symm⟩

/-- A pass whose items all rest on one computation. -/
theorem Except.mapM_eq_map {x : Except ε α} {f : β → Except ε γ} {g : β → α → γ}
    (rests : ∀ item, f item = x.map (g item)) {items : List β} (some : items ≠ []) :
    items.mapM f = x.map fun a => items.map (g · a) := by
  cases x with
  | error failure =>
    cases items with
    | nil => contradiction
    | cons item rest =>
      rw [List.mapM_cons, rests]
      rfl
  | ok a => exact Except.mapM_eq_ok fun item _ => rests item

theorem Except.mem_of_mapM_eq_ok {f : α → Except ε β} {items : List α} {results : List β}
    (h : items.mapM f = .ok results) :
    (∀ item ∈ items, ∃ result ∈ results, f item = .ok result) ∧
      ∀ result ∈ results, ∃ item ∈ items, f item = .ok result := by
  have pairs := Except.mapM_eq_ok_iff.1 h
  clear h
  induction pairs with
  | nil => simp
  | cons here _ ih =>
    simp only [List.forall_mem_cons, List.exists_mem_cons_iff]
    exact ⟨⟨.inl here, fun item mem => .inr (ih.1 item mem)⟩,
      .inl here, fun result mem => .inr (ih.2 result mem)⟩

/-- A pass cut at one of its items. -/
theorem Except.mapM_append_cons_eq_ok {f : α → Except ε β} {before later : List α} {item : α}
    {results : List β} (h : (before ++ item :: later).mapM f = .ok results) :
    ∃ first result last, before.mapM f = .ok first ∧ f item = .ok result ∧
      later.mapM f = .ok last ∧ results = first ++ result :: last := by
  rw [List.mapM_append] at h
  obtain ⟨first, earlier, h⟩ := Except.bind_eq_ok_iff.1 h
  obtain ⟨rest, own, eq⟩ := Except.bind_eq_ok_iff.1 h
  cases eq
  rw [List.mapM_cons] at own
  obtain ⟨result, here, own⟩ := Except.bind_eq_ok_iff.1 own
  obtain ⟨last, others, eq⟩ := Except.bind_eq_ok_iff.1 own
  cases eq
  exact ⟨first, result, last, earlier, here, others, rfl⟩

/-- A pass whose results are reached by way of those of another pass. -/
theorem Except.mapM_through {f : α → Except ε γ} {g : α → Except ε β} {h : β → Except ε γ}
    (step : ∀ item result, f item = .ok result → ∃ way, g item = .ok way ∧ h way = .ok result)
    {items : List α} {results : List γ} (made : items.mapM f = .ok results) :
    ∃ ways, items.mapM g = .ok ways ∧ ways.mapM h = .ok results := by
  simp only [Except.mapM_eq_ok_iff] at made ⊢
  induction made with
  | nil => exact ⟨[], .nil, .nil⟩
  | cons here _ ih =>
    obtain ⟨way, first, last⟩ := step _ _ here
    obtain ⟨ways, firsts, lasts⟩ := ih
    exact ⟨way :: ways, .cons first firsts, .cons last lasts⟩

theorem Except.mapM_eq_error_iff {f : α → Except ε β} {items : List α} {failure : ε} :
    items.mapM f = .error failure ↔ ∃ before item after, items = before ++ item :: after ∧
      (∀ other ∈ before, ∃ result, f other = .ok result) ∧ f item = .error failure := by
  induction items with
  | nil => simp [pure, Except.pure]
  | cons item rest ih =>
    rw [List.mapM_cons, Except.bind_eq_error_iff]
    constructor
    · rintro (here | ⟨result, here, later⟩)
      · exact ⟨[], item, rest, rfl, nofun, here⟩
      · rw [Except.bind_eq_error_iff] at later
        obtain later | ⟨results, -, made⟩ := later
        · obtain ⟨before, first, after, rfl, fine, failed⟩ := ih.1 later
          exact ⟨item :: before, first, after, rfl,
            List.forall_mem_cons.2 ⟨⟨result, here⟩, fine⟩, failed⟩
        · cases made
    · rintro ⟨before, first, after, eq, fine, failed⟩
      cases before with
      | nil =>
        obtain ⟨rfl, rfl⟩ := List.cons.inj eq
        exact .inl failed
      | cons head before =>
        obtain ⟨rfl, rfl⟩ := List.cons.inj eq
        obtain ⟨⟨result, here⟩, fine⟩ := List.forall_mem_cons.1 fine
        have later := ih.2 ⟨before, first, after, rfl, fine, failed⟩
        exact .inr ⟨result, here, Except.bind_eq_error_iff.2 (.inl later)⟩

theorem Except.mapM_congr {f : α → Except ε γ} {g : β → Except ε γ} {items : List α}
    {others : List β} (h : List.Forall₂ (fun item other => f item = g other) items others) :
    items.mapM f = others.mapM g := by
  induction h with
  | nil => rfl
  | cons same _ ih => rw [List.mapM_cons, List.mapM_cons, same, ih]

theorem Except.foldlM_congr {f : γ → α → Except ε γ} {g : γ → β → Except ε γ} {items : List α}
    {others : List β} (h : List.Forall₂ (fun item other => ∀ state, f state item = g state other)
      items others) (start : γ) : items.foldlM f start = others.foldlM g start := by
  induction h generalizing start with
  | nil => rfl
  | cons here _ ih => simp only [List.foldlM_cons, here, ih]

/-- Dropping what has no result afterwards is the same as skipping it. -/
theorem Except.mapM_skipping {f : α → Except ε (Option β)} {g : α → Except ε β} {p : α → Bool}
    (skips : ∀ item, p item = false → f item = .ok none)
    (keeps : ∀ item, p item = true → f item = (g item).map some) (items : List α) :
    (items.mapM f).map (List.filterMap id) = (items.filter p).mapM g := by
  induction items with
  | nil => rfl
  | cons item rest ih =>
    rw [List.mapM_cons]
    cases kept : p item with
    | false =>
      rw [List.filter_cons_of_neg (by rw [kept]; decide), ← ih, skips item kept, Except.ok_bind]
      cases rest.mapM f <;> rfl
    | true =>
      rw [List.filter_cons_of_pos kept, List.mapM_cons, ← ih, keeps item kept]
      cases g item with
      | error failure => rfl
      | ok result => cases rest.mapM f <;> rfl

/-- A pass over items each of which is a pass over a part is one pass over all parts. -/
theorem Except.mapM_flatten {f : α → Except ε (List γ)} {g : β → Except ε (Option γ)}
    {items : List α} {parts : List (List β)}
    (h : List.Forall₂ (fun item part => f item = (part.mapM g).map (List.filterMap id)) items
      parts) :
    (items.mapM f).map List.flatten = (parts.flatten.mapM g).map (List.filterMap id) := by
  induction h with
  | nil => rfl
  | @cons item part rest parts same _ ih =>
    rw [List.mapM_cons, same, List.flatten_cons, List.mapM_append]
    cases part.mapM g with
    | error failure => rfl
    | ok found =>
      have first : ((rest.mapM f).map (List.filterMap id found :: ·)).map List.flatten =
          ((rest.mapM f).map List.flatten).map (List.filterMap id found ++ ·) := by
        cases rest.mapM f <;> rfl
      have last : ((parts.flatten.mapM g).map (found ++ ·)).map (List.filterMap id) =
          ((parts.flatten.mapM g).map (List.filterMap id)).map (List.filterMap id found ++ ·) := by
        cases parts.flatten.mapM g with
        | error failure => rfl
        | ok more => exact congrArg Except.ok List.filterMap_append
      exact first.trans ((congrArg _ ih).trans last.symm)

/-- Both computations fail, or both succeed with related values. -/
def Except.Agree (R : α → β → Prop) : Except ε α → Except ε β → Prop
  | .ok a, .ok b => R a b
  | .error _, .error _ => True
  | _, _ => False

namespace Except.Agree

instance (R : α → β → Prop) [DecidableRel R] (x : Except ε α) (y : Except ε β) :
    Decidable (Agree R x y) :=
  match x, y with
  | .ok a, .ok b => inferInstanceAs (Decidable (R a b))
  | .error _, .error _ => .isTrue trivial
  | .ok _, .error _ => .isFalse id
  | .error _, .ok _ => .isFalse id

variable {R : α → α → Prop}

theorem refl (reflexive : ∀ a, R a a) (x : Except ε α) : Agree R x x := by
  cases x with
  | error failure => trivial
  | ok a => exact reflexive a

theorem trans (transitive : ∀ a b c, R a b → R b c → R a c) {x y z : Except ε α}
    (first : Agree R x y) (second : Agree R y z) : Agree R x z := by
  cases x <;> cases y <;> cases z <;> simp_all only [Agree]
  exact transitive _ _ _ first second

theorem bind {S : β → γ → Prop} {x y : Except ε α} {f : α → Except ε β} {g : α → Except ε γ}
    (h : Agree R x y) (next : ∀ a b, x = .ok a → R a b → Agree S (f a) (g b)) :
    Agree S (x >>= f) (y >>= g) := by
  cases x <;> cases y
  · trivial
  · exact h.elim
  · exact h.elim
  · exact next _ _ rfl h

theorem map {S : β → β → Prop} {x y : Except ε α} {f : α → β} (h : Agree R x y)
    (next : ∀ a b, x = .ok a → R a b → S (f a) (f b)) : Agree S (x.map f) (y.map f) := by
  cases x <;> cases y
  · trivial
  · exact h.elim
  · exact h.elim
  · exact next _ _ rfl h

theorem mapM {f g : β → Except ε α} {items : List β}
    (h : ∀ item ∈ items, Agree R (f item) (g item)) :
    Agree (List.Forall₂ R) (items.mapM f) (items.mapM g) := by
  induction items with
  | nil => exact .nil
  | cons item rest ih =>
    rw [List.mapM_cons, List.mapM_cons]
    apply (h item List.mem_cons_self).bind
    intro first other _ here
    apply (ih fun other mem => h other (List.mem_cons_of_mem _ mem)).bind
    intro later others _ there
    exact .cons here there

/-- By induction on the permutation: the order of a pass changes no more than the order of its
results, and which of its failures comes first. -/
theorem mapM_perm {items others : List α} (perm : items.Perm others) (f : α → Except ε β) :
    Agree List.Perm (items.mapM f) (others.mapM f) := by
  induction perm with
  | nil => exact .nil
  | cons item _ ih =>
    rw [List.mapM_cons, List.mapM_cons]
    cases f item with
    | error failure => trivial
    | ok result => exact ih.bind fun _ _ _ same => same.cons result
  | swap item other rest =>
    simp only [List.mapM_cons]
    cases f item <;> cases f other <;> cases rest.mapM f <;> first | trivial | exact .swap ..
  | trans _ _ first second => exact first.trans (fun _ _ _ => .trans) second

end Except.Agree

theorem Except.filterM_eq_map_mapM (f : α → Except ε Bool) (items : List α) :
    items.filterM f =
      (items.mapM fun item => (f item).map fun keeps => if keeps then some item else none).map
        (List.filterMap id) := by
  let choose (item : α) : Except ε (Option α) :=
    (f item).map fun keeps => if keeps then some item else none
  have aux (kept : List α) : List.filterAuxM f items kept =
      (items.mapM choose).map fun found => (found.filterMap id).reverse ++ kept := by
    induction items generalizing kept with
    | nil => rfl
    | cons item rest ih =>
      rw [List.filterAuxM, List.mapM_cons]
      cases here : f item with
      | error failure => simp [choose, here, Except.map, bind, Except.bind]
      | ok keeps =>
        rw [Except.ok_bind, ih]
        cases rest.mapM choose <;> cases keeps <;>
          simp [choose, here, Except.map, bind, Except.bind, pure, Except.pure]
  rw [List.filterM, aux]
  change _ = (items.mapM choose).map _
  cases items.mapM choose <;> simp [Except.map, bind, Except.bind, pure, Except.pure]

theorem Except.sublist_of_filterM {f : α → Except ε Bool} {items kept : List α}
    (h : items.filterM f = .ok kept) : kept.Sublist items := by
  rw [filterM_eq_map_mapM, map_eq_ok_iff] at h
  obtain ⟨found, passed, rfl⟩ := h
  have pairs := mapM_eq_ok_iff.1 passed
  clear passed
  induction pairs with
  | nil => exact .slnil
  | cons here _ ih =>
    obtain ⟨keeps, -, rfl⟩ := map_eq_ok_iff.1 here
    cases keeps
    · exact ih.cons _
    · exact ih.cons_cons _

theorem Except.foldlM_eq_error_iff {f : β → α → Except ε β} {items : List α} {start : β}
    {failure : ε} :
    items.foldlM f start = .error failure ↔ ∃ before item after reached,
      items = before ++ item :: after ∧ before.foldlM f start = .ok reached ∧
        f reached item = .error failure := by
  induction items generalizing start with
  | nil => simp [pure, Except.pure]
  | cons item rest ih =>
    rw [List.foldlM_cons, Except.bind_eq_error_iff]
    constructor
    · rintro (here | ⟨next, here, later⟩)
      · exact ⟨[], item, rest, start, rfl, rfl, here⟩
      · obtain ⟨before, first, after, reached, rfl, fine, failed⟩ := ih.1 later
        refine ⟨item :: before, first, after, reached, rfl, ?_, failed⟩
        rw [List.foldlM_cons, here, Except.ok_bind, fine]
    · rintro ⟨before, first, after, reached, eq, fine, failed⟩
      cases before with
      | nil =>
        obtain ⟨rfl, rfl⟩ := List.cons.inj eq
        cases fine
        exact .inl failed
      | cons head before =>
        obtain ⟨rfl, rfl⟩ := List.cons.inj eq
        rw [List.foldlM_cons] at fine
        obtain ⟨next, here, fine⟩ := Except.bind_eq_ok_iff.1 fine
        exact .inr ⟨next, here, ih.2 ⟨before, first, after, reached, rfl, fine, failed⟩⟩

theorem Except.forM_eq_ok {f : α → Except ε Unit} {items : List α}
    (h : ∀ item ∈ items, f item = .ok ()) : items.forM f = .ok () := by
  induction items with
  | nil => rfl
  | cons item rest ih =>
    rw [List.forM, h item List.mem_cons_self, Except.ok_bind]
    exact ih fun other mem => h other (List.mem_cons_of_mem _ mem)

theorem Except.allM_eq_ok {f : α → Except ε Bool} {items : List α}
    (h : ∀ item ∈ items, f item = .ok true) : items.allM f = .ok true := by
  induction items with
  | nil => rfl
  | cons item rest ih =>
    rw [List.allM, h item List.mem_cons_self, Except.ok_bind]
    exact ih fun other mem => h other (List.mem_cons_of_mem _ mem)

theorem Except.filterM_eq_ok {f : α → Except ε Bool} {items : List α}
    (h : ∀ item ∈ items, f item = .ok true) : items.filterM f = .ok items := by
  have aux (kept : List α) : List.filterAuxM f items kept = .ok (items.reverse ++ kept) := by
    induction items generalizing kept with
    | nil => rfl
    | cons item rest ih =>
      rw [List.filterAuxM, h item List.mem_cons_self, Except.ok_bind,
        ih fun other mem => h other (List.mem_cons_of_mem _ mem)]
      simp
  rw [List.filterM, aux, Except.ok_bind]
  simp [pure, Except.pure]

end Rollup
