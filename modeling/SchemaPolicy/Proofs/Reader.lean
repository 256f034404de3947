import Mathlib.Data.Option.Basic
import SchemaPolicy.Reader

/-! What readers give, whatever text they read: each way to put readers together keeps a fact about
the values that they take. -/

namespace SchemaPolicy.Reader

variable {α β : Type} {P : α → Prop} {Q : β → Prop}

/-- Every value that the reader takes off a text has the property. -/
def Yields (P : α → Prop) (reader : Reader α) : Prop :=
  ∀ s found rest, reader s = some (found, rest) → P found

theorem yields_true (reader : Reader α) : reader.Yields fun _ => True := fun _ _ _ _ => trivial

theorem Yields.pure {a : α} (h : P a) : Yields P (pure a : Reader α) := by
  rintro s found rest hfound
  obtain ⟨rfl, -⟩ := Prod.mk.inj (Option.some.inj hfound)
  exact h

theorem Yields.bind {reader : Reader α} {next : α → Reader β} (h : reader.Yields P)
    (hnext : ∀ a, P a → (next a).Yields Q) : (reader >>= next).Yields Q := by
  intro s found rest hfound
  obtain ⟨⟨a, middle⟩, ha, hrest⟩ := Option.bind_eq_some_iff.mp hfound
  exact hnext a (h s a middle ha) middle found rest hrest

/-- What is read first may be anything. -/
theorem Yields.after {reader : Reader α} {next : α → Reader β}
    (hnext : ∀ a, (next a).Yields Q) : (reader >>= next).Yields Q :=
  (yields_true reader).bind fun a _ => hnext a

theorem Yields.ite {p : Prop} [Decidable p] {yes no : Reader α} (hyes : yes.Yields P)
    (hno : no.Yields P) : (if p then yes else no).Yields P := by
  split
  · exact hyes
  · exact hno

theorem Yields.orElse {first second : Reader α} (hfirst : first.Yields P)
    (hsecond : second.Yields P) : (first <|> second).Yields P := by
  intro s found rest hfound
  rcases (Option.orElse_eq_some _ _ _).mp hfound with hfirst' | ⟨-, hsecond'⟩
  · exact hfirst s found rest hfirst'
  · exact hsecond s found rest hsecond'

theorem Yields.optional {reader : Reader α} (h : reader.Yields P) :
    (optional reader : Reader (Option α)).Yields fun found? => ∀ found ∈ found?, P found := by
  refine .orElse (h.bind fun a ha => .pure ?_) (.pure nofun)
  rintro _ ⟨⟩
  exact ha

theorem Yields.repeatUpTo {item : Reader (Option α)}
    (h : item.Yields fun found? => ∀ found ∈ found?, P found) (limit : Nat) :
    (repeatUpTo item limit).Yields fun items => ∀ found ∈ items, P found := by
  induction limit with
  | zero => exact .pure fun _ hfound => absurd hfound List.not_mem_nil
  | succ limit ih =>
    refine h.bind fun found? hfound? => ?_
    cases found? with
    | none => exact .pure fun _ hfound => absurd hfound List.not_mem_nil
    | some first =>
      refine ih.bind fun others hothers => .pure ?_
      exact List.forall_mem_cons.mpr ⟨hfound? first rfl, hothers⟩

theorem Yields.repeatWhile {item : Reader (Option α)}
    (h : item.Yields fun found? => ∀ found ∈ found?, P found) :
    (repeatWhile item).Yields fun items => ∀ found ∈ items, P found :=
  .after fun s => h.repeatUpTo (s.length + 1)

end SchemaPolicy.Reader
