import Mathlib.Data.List.Forall2

/-! Computations that may fail, taken apart: what was computed when a sequence of steps gives a
result. -/

namespace SchemaPolicy.Outcome

variable {ε ε' α β : Type}

theorem bind_eq_ok_iff {x : Except ε α} {f : α → Except ε β} {b : β} :
    x >>= f = .ok b ↔ ∃ a, x = .ok a ∧ f a = .ok b := by
  cases x with
  | error e => simp [bind, Except.bind]
  | ok a => simp [bind, Except.bind]

theorem bind_eq_error_iff {x : Except ε α} {f : α → Except ε β} {e : ε} :
    x >>= f = .error e ↔ x = .error e ∨ ∃ a, x = .ok a ∧ f a = .error e := by
  cases x with
  | error e' => simp [bind, Except.bind]
  | ok a => simp [bind, Except.bind]

theorem pure_ne_error {a : α} {e : ε} : (pure a : Except ε α) ≠ .error e := nofun

theorem pure_eq_ok_iff {a b : α} : (pure a : Except ε α) = .ok b ↔ a = b := by
  simp [pure, Except.pure]

/-- A computation that goes on only if something holds. -/
theorem unless_throw_eq_ok_iff {p : Prop} [Decidable p] {e : ε} {rest : Unit → Except ε α} {a : α} :
    (if p then rest () else throw e >>= rest) = .ok a ↔ p ∧ rest () = .ok a := by
  split
  · next hp => simp [hp]
  · next hp => exact ⟨nofun, fun h => absurd h.1 hp⟩

theorem unless_throw_eq_error_iff {p : Prop} [Decidable p] {e e' : ε} {rest : Unit → Except ε α} :
    (if p then rest () else throw e >>= rest) = .error e' ↔
      ¬p ∧ e = e' ∨ p ∧ rest () = .error e' := by
  split
  · next hp => simp [hp]
  · next hp => exact ⟨fun h => .inl ⟨hp, Except.error.inj h⟩,
      fun h => (h.resolve_right fun h => hp h.1).2 ▸ rfl⟩

/-- A computation that goes on only if something fails to hold. -/
theorem if_throw_eq_ok_iff {p : Prop} [Decidable p] {e : ε} {rest : Unit → Except ε α} {a : α} :
    (if p then throw e >>= rest else rest ()) = .ok a ↔ ¬p ∧ rest () = .ok a := by
  split
  · next hp => exact ⟨nofun, fun h => absurd hp h.1⟩
  · next hp => simp [hp]

/-- A result that is told by an evaluation, where nothing tells two errors apart. -/
theorem eq_ok_of_toOption {x : Except ε α} {a : α} (h : x.toOption = some a) : x = .ok a := by
  cases x with
  | ok b => exact congrArg Except.ok (Option.some.inj h)
  | error e => contradiction

theorem mapError_ok (f : ε → ε') (a : α) : (Except.ok a).mapError f = .ok a := rfl

theorem mapError_error (f : ε → ε') (e : ε) :
    (Except.error e : Except ε α).mapError f = .error (f e) := rfl

theorem mapError_eq_ok_iff {x : Except ε α} {f : ε → ε'} {a : α} :
    x.mapError f = .ok a ↔ x = .ok a := by
  cases x with
  | error e => exact ⟨nofun, nofun⟩
  | ok b =>
    constructor
    · intro h
      rw [Except.ok.inj h]
    · intro h
      obtain rfl := Except.ok.inj h
      rfl

theorem mapError_eq_error_iff {x : Except ε α} {f : ε → ε'} {e : ε'} :
    x.mapError f = .error e ↔ ∃ cause, x = .error cause ∧ e = f cause := by
  cases x with
  | error cause => simp [mapError_error, eq_comm]
  | ok a => simp [mapError_ok]

theorem map_eq_ok_iff {x : Except ε α} {f : α → β} {b : β} :
    x.map f = .ok b ↔ ∃ a, x = .ok a ∧ f a = b := by
  cases x with
  | error e => simp [Except.map]
  | ok a => simp [Except.map]

/-- A value that is refused for one of two reasons, in this order, and else is kept. -/
theorem refusal_eq_ok_iff {p q : Prop} [Decidable p] [Decidable q] {e e' : ε} {a b : α} :
    (if p then Except.error e else if q then .ok a else .error e') = .ok b ↔
      a = b ∧ ¬p ∧ q := by
  split
  · next hp => simp [hp]
  · next hp =>
    split
    · next hq => simp [hp, hq]
    · next hq => simp [hq]

/-- A value that is refused for one of two reasons is refused for the first that holds. -/
theorem refusal_eq_error_iff {p q : Prop} [Decidable p] [Decidable q] {e e' e'' : ε} {a : α} :
    (if p then Except.error e else if q then .ok a else .error e') = .error e'' ↔
      p ∧ e = e'' ∨ ¬p ∧ ¬q ∧ e' = e'' := by
  split
  · next hp => simp [hp]
  · next hp =>
    split
    · next hq => simp [hp, hq]
    · next hq => simp [hp, hq]

/-- The first member of a list with some property is its head, or, if the head passes, is the first
of the others. -/
theorem exists_first_cons_iff {p q : α → Prop} {x : α} {xs : List α} :
    (∃ before y after, x :: xs = before ++ y :: after ∧ (∀ z ∈ before, p z) ∧ q y) ↔
      q x ∨ p x ∧ ∃ before y after, xs = before ++ y :: after ∧ (∀ z ∈ before, p z) ∧ q y := by
  constructor
  · rintro ⟨before, y, after, hsplit, hbefore, hy⟩
    cases before with
    | nil =>
      obtain ⟨rfl, -⟩ := List.cons.inj hsplit
      exact .inl hy
    | cons z before =>
      obtain ⟨rfl, rfl⟩ := List.cons.inj hsplit
      exact .inr ⟨hbefore _ List.mem_cons_self, before, y, after, rfl,
        fun z hz => hbefore z (List.mem_cons_of_mem _ hz), hy⟩
  · rintro (hx | ⟨hx, before, y, after, rfl, hbefore, hy⟩)
    · exact ⟨[], x, xs, rfl, fun _ hz => absurd hz List.not_mem_nil, hx⟩
    · exact ⟨x :: before, y, after, rfl, List.forall_mem_cons.mpr ⟨hx, hbefore⟩, hy⟩

/-- Steps fail with the error of the first that fails, on what those before it have made. -/
theorem foldlM_eq_error_iff {f : β → α → Except ε β} {start : β} {xs : List α} {e : ε} :
    xs.foldlM f start = .error e ↔ ∃ before x after middle, xs = before ++ x :: after ∧
      before.foldlM f start = .ok middle ∧ f middle x = .error e := by
  induction xs generalizing start with
  | nil => simp [pure_ne_error]
  | cons y ys ih =>
    rw [List.foldlM_cons, bind_eq_error_iff]
    constructor
    · rintro (hy | ⟨next, hy, hrest⟩)
      · exact ⟨[], y, ys, start, rfl, rfl, hy⟩
      · obtain ⟨before, x, after, middle, rfl, hbefore, hx⟩ := ih.mp hrest
        refine ⟨y :: before, x, after, middle, rfl, ?_, hx⟩
        rw [List.foldlM_cons, hy]
        exact hbefore
    · rintro ⟨before, x, after, middle, hsplit, hbefore, hx⟩
      cases before with
      | nil =>
        obtain ⟨rfl, -⟩ := List.cons.inj hsplit
        obtain rfl := pure_eq_ok_iff.mp hbefore
        exact .inl hx
      | cons z before =>
        obtain ⟨rfl, rfl⟩ := List.cons.inj hsplit
        rw [List.foldlM_cons, bind_eq_ok_iff] at hbefore
        obtain ⟨next, hnext, hbefore⟩ := hbefore
        exact .inr ⟨next, hnext, ih.mpr ⟨before, x, after, middle, rfl, hbefore, hx⟩⟩

theorem exists_forall₂_iff {R : α → β → Prop} {xs : List α} :
    (∃ ys, List.Forall₂ R xs ys) ↔ ∀ x ∈ xs, ∃ y, R x y := by
  induction xs with
  | nil => exact ⟨fun _ _ hx => absurd hx List.not_mem_nil, fun _ => ⟨[], .nil⟩⟩
  | cons x xs ih =>
    rw [List.forall_mem_cons, ← ih]
    constructor
    · rintro ⟨_, h⟩
      obtain ⟨y, ys, hx, hxs, rfl⟩ := List.forall₂_cons_left_iff.mp h
      exact ⟨⟨y, hx⟩, ys, hxs⟩
    · rintro ⟨⟨y, hx⟩, ys, hxs⟩
      exact ⟨y :: ys, .cons hx hxs⟩

/-! ### Two computations -/

/-- Both computations give results that are related, or both fail. -/
inductive Agree (R : α → β → Prop) : Except ε α → Except ε β → Prop
  | ok {a : α} {b : β} (related : R a b) : Agree R (.ok a) (.ok b)
  | error (e e' : ε) : Agree R (.error e) (.error e')

theorem Agree.bind {γ δ : Type} {R : α → β → Prop} {S : γ → δ → Prop} {x : Except ε α}
    {y : Except ε β} {f : α → Except ε γ} {g : β → Except ε δ} (h : Agree R x y)
    (hnext : ∀ a b, R a b → Agree S (f a) (g b)) : Agree S (x >>= f) (y >>= g) := by
  cases h with
  | ok related => exact hnext _ _ related
  | error e e' => exact .error e e'

theorem Agree.mono {R S : α → β → Prop} {x : Except ε α} {y : Except ε β} (h : Agree R x y)
    (himp : ∀ a b, R a b → S a b) : Agree S x y := by
  cases h with
  | ok related => exact .ok (himp _ _ related)
  | error e e' => exact .error e e'

theorem Agree.mapError {R : α → β → Prop} {x : Except ε α} {y : Except ε β} (f : ε → ε')
    (h : Agree R x y) : Agree R (x.mapError f) (y.mapError f) := by
  cases h with
  | ok related => exact .ok related
  | error e e' => exact .error (f e) (f e')

theorem Agree.eq_ok {x y : Except ε α} {a : α} (h : Agree Eq x y) (hx : x = .ok a) :
    y = .ok a := by
  subst hx
  cases h with
  | ok related => rw [related]

theorem Agree.symm {x y : Except ε α} (h : Agree Eq x y) : Agree Eq y x := by
  cases h with
  | ok related => exact .ok related.symm
  | error e e' => exact .error e' e

theorem agree_refl (x : Except ε α) : Agree Eq x x := by
  cases x with
  | ok a => exact .ok rfl
  | error e => exact .error e e

theorem Agree.mapM {γ : Type} {R : α → β → Prop} {f : α → Except ε γ} {g : β → Except ε γ}
    {xs : List α} {ys : List β} (h : List.Forall₂ R xs ys)
    (hagree : ∀ x ∈ xs, ∀ y ∈ ys, R x y → Agree Eq (f x) (g y)) :
    Agree Eq (xs.mapM f) (ys.mapM g) := by
  induction h with
  | nil => exact .ok rfl
  | cons hfirst _ ih =>
    rw [List.mapM_cons, List.mapM_cons]
    refine (hagree _ List.mem_cons_self _ List.mem_cons_self hfirst).bind ?_
    rintro first _ rfl
    refine (ih fun x hx y hy => hagree x (List.mem_cons_of_mem _ hx) y
      (List.mem_cons_of_mem _ hy)).bind ?_
    rintro others _ rfl
    exact .ok rfl

end SchemaPolicy.Outcome
