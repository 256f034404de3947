import SchemaPolicy.ExtraRule.Basic
import SchemaPolicy.Proofs.Outcome
import SchemaPolicy.Proofs.Text.Trim

/-! Which hand-written rules are taken over, and what is wrong with the others: the first rule that
has a fault, and the first fault of this rule, in the order path, create, read, update, delete. -/

namespace SchemaPolicy.ExtraRule

open Outcome Text

/-- The path of the rule begins with a slash once it is trimmed. -/
def Rooted (rule : ExtraRule) : Prop :=
  ∃ path, Trimmed rule.path.toList path ∧ path.head? = some '/'

/-- The rule states a blank condition for an operation. -/
def Void (rule : ExtraRule) (op : Operation) : Prop :=
  ∃ text, rule.stated? op = some (.condition text) ∧ Blank text.toList

/-- Nothing is wrong with a rule as it is stated. -/
structure Sound (rule : ExtraRule) : Prop where
  rooted : rule.Rooted
  visible : ∀ op, ¬rule.Void op

/-- The access that a statement for an operation means; what is not stated is denied. -/
inductive Means : Option StatedAccess → Access → Prop
  | absent : Means none .deny
  | denied : Means (some (.flag false)) .deny
  | granted : Means (some (.flag true)) .always
  | condition {text : String} (visible : ¬Blank text.toList) :
    Means (some (.condition text)) (.when text)

/-- A rule is what is stated: its path trimmed, and all else as it stands. -/
structure States (stated : ExtraRule) (rule : Rule) : Prop where
  path : Trimmed stated.path.toList rule.path.toList
  comment : rule.comment? = stated.comment?
  preamble : rule.preamble? = stated.preamble?
  access : ∀ op, Means (stated.stated? op) (rule.access op)

/-- What is wrong with a rule at some index: the fault that comes first, since everything before it
is as it should be. -/
inductive Fault (rule : ExtraRule) (index : Nat) : ExtraRuleError → Prop
  | path (unrooted : ¬rule.Rooted) : Fault rule index (.invalidPath index rule.path)
  | condition {earlier later : List Operation} {op : Operation} (rooted : rule.Rooted)
    (order : [.create, .read, .update, .delete] = earlier ++ op :: later)
    (passed : ∀ other ∈ earlier, ¬rule.Void other) (void : rule.Void op) :
    Fault rule index (.emptyCondition index op)

variable {rule : ExtraRule} {index : Nat} {op : Operation} {error : ExtraRuleError}

/-! ### One rule -/

theorem rooted_iff : rule.Rooted ↔ (trim rule.path.toList).head? = some '/' := by
  simp only [Rooted, ← trim_eq_iff, exists_eq_left']

theorem access_eq_ok_iff {access : Access} :
    rule.access index op = .ok access ↔ Means (rule.stated? op) access := by
  unfold ExtraRule.access
  constructor
  · intro h
    split at h
    · next hnone =>
      obtain rfl := Except.ok.inj h
      exact hnone ▸ .absent
    · next granted hflag =>
      obtain rfl := Except.ok.inj h
      rw [hflag]
      cases granted with
      | false => exact .denied
      | true => exact .granted
    · next text htext =>
      split at h
      · contradiction
      · next hvisible =>
        obtain rfl := Except.ok.inj h
        exact htext ▸ .condition hvisible
  · intro h
    generalize rule.stated? op = stated at h
    cases h with
    | absent | denied | granted => rfl
    | condition visible => exact if_neg visible

theorem access_eq_error_iff :
    rule.access index op = .error error ↔ rule.Void op ∧ error = .emptyCondition index op := by
  unfold ExtraRule.access Void
  constructor
  · intro h
    split at h
    · contradiction
    · contradiction
    · next text htext =>
      split at h
      · next hblank => exact ⟨⟨text, htext, hblank⟩, (Except.error.inj h).symm⟩
      · contradiction
  · rintro ⟨⟨text, htext, hblank⟩, rfl⟩
    rw [htext]
    exact if_pos hblank

theorem toRule_eq_ok_iff {r : Rule} : rule.toRule index = .ok r ↔ rule.Rooted ∧ rule.States r := by
  refine unless_throw_eq_ok_iff.trans ?_
  rw [rooted_iff]
  refine and_congr_right fun _ => ?_
  simp only [bind_eq_ok_iff, pure_eq_ok_iff, access_eq_ok_iff]
  constructor
  · rintro ⟨create, hcreate, read, hread, update, hupdate, delete, hdelete, rfl⟩
    refine ⟨trim_eq_iff.mp ?_, rfl, rfl, fun op => ?_⟩
    · simp
    · cases op <;> assumption
  · rintro ⟨hpath, hcomment, hpreamble, haccess⟩
    refine ⟨_, haccess .create, _, haccess .read, _, haccess .update, _, haccess .delete, ?_⟩
    rw [trim_eq_iff.mpr hpath, ← hcomment, ← hpreamble, String.ofList_toList]
    rfl

theorem exists_means_iff : (∃ access, Means (rule.stated? op) access) ↔ ¬rule.Void op := by
  unfold Void
  constructor
  · rintro ⟨access, h⟩ ⟨text, htext, hblank⟩
    rw [htext] at h
    cases h with
    | condition visible => exact visible hblank
  · intro hvisible
    cases hstated : rule.stated? op with
    | none => exact ⟨_, .absent⟩
    | some stated =>
      cases stated with
      | flag granted => cases granted <;> exact ⟨_, by constructor⟩
      | condition text => exact ⟨_, .condition fun hblank => hvisible ⟨text, hstated, hblank⟩⟩

/-- A rule is taken over exactly when it is sound. -/
theorem exists_states_iff : (∃ r, rule.Rooted ∧ rule.States r) ↔ rule.Sound := by
  constructor
  · rintro ⟨r, hrooted, hstates⟩
    exact ⟨hrooted, fun op => exists_means_iff.mp ⟨_, hstates.access op⟩⟩
  · rintro ⟨hrooted, hvisible⟩
    have ⟨path, hpath, _⟩ := hrooted
    obtain ⟨access, haccess⟩ := Classical.skolem.mp fun op => exists_means_iff.mpr (hvisible op)
    let r : Rule :=
      { path := String.ofList path, comment? := rule.comment?, preamble? := rule.preamble?
        create := access .create, read := access .read
        update := access .update, delete := access .delete }
    refine ⟨r, hrooted, by simpa [r] using hpath, rfl, rfl, fun op => ?_⟩
    cases op <;> exact haccess _

theorem fault_iff : rule.Fault index error ↔
    ¬rule.Rooted ∧ .invalidPath index rule.path = error ∨
      rule.Rooted ∧ ∃ earlier op later, [.create, .read, .update, .delete] =
        earlier ++ op :: later ∧ (∀ other ∈ earlier, ¬rule.Void other) ∧
          rule.Void op ∧ error = .emptyCondition index op := by
  constructor
  · intro h
    cases h with
    | path unrooted => exact .inl ⟨unrooted, rfl⟩
    | condition rooted order passed void => exact .inr ⟨rooted, _, _, _, order, passed, void, rfl⟩
  · rintro (⟨hunrooted, rfl⟩ | ⟨hrooted, earlier, op, later, horder, hpassed, hvoid, rfl⟩)
    · exact .path hunrooted
    · exact .condition hrooted horder hpassed hvoid

theorem toRule_eq_error_iff : rule.toRule index = .error error ↔ rule.Fault index error := by
  refine unless_throw_eq_error_iff.trans ?_
  rw [fault_iff, ← rooted_iff]
  simp only [bind_eq_error_iff, access_eq_ok_iff, access_eq_error_iff, pure_ne_error,
    exists_first_cons_iff, ← exists_means_iff, ← exists_and_right]
  simp

/-! ### A list of rules -/

variable {stated : List ExtraRule}

theorem toRulesFrom_eq_ok_iff {rules : List Rule} :
    toRulesFrom index stated = .ok rules ↔
      List.Forall₂ (fun rule r => rule.Rooted ∧ rule.States r) stated rules := by
  induction stated generalizing index rules with
  | nil => rw [toRulesFrom, pure_eq_ok_iff, List.forall₂_nil_left_iff, eq_comm]
  | cons rule others ih =>
    simp only [toRulesFrom, bind_eq_ok_iff, pure_eq_ok_iff, toRule_eq_ok_iff, ih]
    constructor
    · rintro ⟨r, hr, rs, hrs, rfl⟩
      exact .cons hr hrs
    · intro h
      obtain ⟨r, rs, hr, hrs, rfl⟩ := List.forall₂_cons_left_iff.mp h
      exact ⟨r, hr, rs, hrs, rfl⟩

theorem exists_toRulesFrom_iff :
    (∃ rules, toRulesFrom index stated = .ok rules) ↔ ∀ rule ∈ stated, rule.Sound := by
  simp only [toRulesFrom_eq_ok_iff, exists_forall₂_iff, exists_states_iff]

/-- The error of a list of rules is that of the first rule that has a fault, at its index. -/
theorem toRulesFrom_eq_error_iff :
    toRulesFrom index stated = .error error ↔
      ∃ before rule after, stated = before ++ rule :: after ∧ (∀ other ∈ before, other.Sound) ∧
        rule.Fault (index + before.length) error := by
  induction stated generalizing index with
  | nil => simp [toRulesFrom, pure_ne_error]
  | cons rule others ih =>
    -- Only past a sound rule are the others looked at, with the next index.
    have hstep : toRulesFrom index (rule :: others) = .error error ↔
        rule.Fault index error ∨ rule.Sound ∧ toRulesFrom (index + 1) others = .error error := by
      simp only [toRulesFrom, bind_eq_error_iff, pure_ne_error, and_false, exists_false, or_false,
        toRule_eq_ok_iff, toRule_eq_error_iff, exists_and_right, exists_states_iff]
    rw [hstep, ih]
    constructor
    · rintro (hfault | ⟨hsound, before, first, after, rfl, hbefore, hfault⟩)
      · exact ⟨[], rule, others, rfl, fun _ hmem => absurd hmem List.not_mem_nil, hfault⟩
      · refine ⟨rule :: before, first, after, rfl, List.forall_mem_cons.mpr ⟨hsound, hbefore⟩, ?_⟩
        rwa [List.length_cons, Nat.add_comm before.length, ← Nat.add_assoc]
    · rintro ⟨before, first, after, hsplit, hbefore, hfault⟩
      cases before with
      | nil =>
        obtain ⟨rfl, -⟩ := List.cons.inj hsplit
        exact .inl hfault
      | cons other before =>
        obtain ⟨rfl, rfl⟩ := List.cons.inj hsplit
        obtain ⟨hsound, hbefore⟩ := List.forall_mem_cons.mp hbefore
        refine .inr ⟨hsound, before, first, after, rfl, hbefore, ?_⟩
        rwa [List.length_cons, Nat.add_comm before.length, ← Nat.add_assoc] at hfault

/-- No condition that is taken over is blank. -/
theorem States.visible {r : Rule} (h : rule.States r) {condition : String}
    (haccess : r.access op = .when condition) : ¬Blank condition.toList := by
  have hmeans := h.access op
  rw [haccess] at hmeans
  generalize rule.stated? op = given at hmeans
  cases hmeans with
  | condition visible => exact visible

/-- Rules are taken over one by one exactly when all of them are sound; else the first fault of the
first rule that has one is told, and no rule is taken over. -/
theorem toRules_verdict (stated : List ExtraRule) :
    ((∃ rules, toRules stated = .ok rules) ↔ ∀ rule ∈ stated, rule.Sound) ∧
    (∀ rules, toRules stated = .ok rules →
      rules.length = stated.length ∧ List.Forall₂ States stated rules ∧
        ∀ rule ∈ rules, ∀ op condition, rule.access op = .when condition →
          ¬Blank condition.toList) ∧
    ∀ error, toRules stated = .error error ↔
      ∃ before rule after, stated = before ++ rule :: after ∧ (∀ other ∈ before, other.Sound) ∧
        rule.Fault before.length error := by
  refine ⟨exists_toRulesFrom_iff, fun rules hrules => ?_, fun error => ?_⟩
  · have hall : List.Forall₂ States stated rules :=
      (toRulesFrom_eq_ok_iff.mp hrules).imp fun _ _ h => h.2
    have hvisible : List.Forall₂ (fun r rule => (∀ op condition, r.access op = .when condition →
        ¬Blank condition.toList) ∧ States rule r) rules stated :=
      hall.flip.imp fun _ _ h => ⟨fun _ _ haccess => h.visible haccess, h⟩
    exact ⟨hall.length_eq.symm, hall, ((List.forall₂_and_left _ _).mp hvisible).1⟩
  · rw [toRules, toRulesFrom_eq_error_iff]
    simp only [Nat.zero_add]

example : toRules [{ path := " /a ", create? := some (.condition " c ") },
      { path := "b", read? := some (.condition "\t") }] = .error (.invalidPath 1 "b") := by rfl

end SchemaPolicy.ExtraRule
