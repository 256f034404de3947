import SchemaPolicy.ExtraRule.Reader
import SchemaPolicy.Proofs.Toml.Settings

/-! Hand-written rules follow from one entry of the document, whatever else is in it, and from
nothing but the values of the keys in their tables. -/

namespace SchemaPolicy

open Outcome Toml

namespace ExtraRule.Draft

/-- What stands under a key: a text or a stated access. -/
def get (draft : Draft) : String → Option (String ⊕ StatedAccess)
  | "match" => draft.path?.map .inl
  | "comment" => draft.rest.comment?.map .inl
  | "extra" => draft.rest.preamble?.map .inl
  | "allow-create" => draft.rest.create?.map .inr
  | "allow-read" => draft.rest.read?.map .inr
  | "allow-update" => draft.rest.update?.map .inr
  | "allow-delete" => draft.rest.delete?.map .inr
  | _ => none

/-- The keys whose values are texts. -/
def texts : List String := ["match", "comment", "extra"]

/-- The keys whose values state an access. -/
def accesses : List String := ["allow-create", "allow-read", "allow-update", "allow-delete"]

/-- What the value of a key tells. No other keys are allowed. -/
def read (key : String) (value : Value) : Except Mismatch (Option (String ⊕ StatedAccess)) :=
  if key ∈ texts then do return some (.inl (← value.asText .text))
  else if key ∈ accesses then do return some (.inr (← StatedAccess.ofToml value))
  else .error (.unknownKey key keys)

theorem set_of_not_mem (draft : Draft) {key : String} (htexts : key ∉ texts)
    (haccesses : key ∉ accesses) (value : Value) :
    draft.set (key, value) = .error (.unknownKey key keys) := by
  unfold set
  split
  case h_8 heq =>
    obtain ⟨rfl, -⟩ := Prod.mk.inj heq
    rfl
  all_goals
    next heq =>
      obtain ⟨rfl, -⟩ := Prod.mk.inj heq
      first | exact absurd (by decide) htexts | exact absurd (by decide) haccesses

theorem reads : Reads set read get := by
  intro draft key value
  by_cases htexts : key ∈ texts
  · rw [read, if_pos htexts]
    simp only [texts, List.mem_cons, List.not_mem_nil, or_false] at htexts
    rcases htexts with rfl | rfl | rfl
    all_goals
      refine (value.agree_asText _ _).bind fun text _ htext => .ok ⟨htext ▸ rfl, ?_⟩
      intro other hother
      unfold get
      split <;> first | rfl | contradiction
  · by_cases haccesses : key ∈ accesses
    · rw [read, if_neg htexts, if_pos haccesses]
      simp only [accesses, List.mem_cons, List.not_mem_nil, or_false] at haccesses
      rcases haccesses with rfl | rfl | rfl | rfl
      all_goals
        refine (agree_refl (StatedAccess.ofToml value)).bind fun stated _ hstated =>
          .ok ⟨hstated ▸ rfl, ?_⟩
        intro other hother
        unfold get
        split <;> first | rfl | contradiction
    · rw [read, if_neg htexts, if_neg haccesses, set_of_not_mem draft htexts haccesses]
      exact .error _ _

theorem agree_read (key : String) {value value' : Value} (h : value.Same value') :
    Agree Eq (read key value) (read key value') := by
  unfold read
  split
  · exact h.asText.bind fun text _ htext => .ok (htext ▸ rfl)
  · split
    · have haccess : Agree Eq (StatedAccess.ofToml value) (StatedAccess.ofToml value') := by
        cases h with
        | refl => exact agree_refl _
        | array _ => exact .error _ _
        | table _ => exact .error _ _
      exact haccess.bind fun stated _ hstated => .ok (hstated ▸ rfl)
    · exact .error _ _

/-- The rule that a draft makes depends on what stands under each key only. -/
theorem rest_eq_of_get_eq {draft other : Draft} (h : ∀ key, draft.get key = other.get key)
    (path : String) : { draft.rest with path } = { other.rest with path } := by
  have hinl : Function.Injective (Sum.inl : String → String ⊕ StatedAccess) :=
    fun _ _ => Sum.inl.inj
  have hinr : Function.Injective (Sum.inr : StatedAccess → String ⊕ StatedAccess) :=
    fun _ _ => Sum.inr.inj
  have hcomment : draft.rest.comment? = other.rest.comment? :=
    Option.map_injective hinl (h "comment")
  have hpreamble : draft.rest.preamble? = other.rest.preamble? :=
    Option.map_injective hinl (h "extra")
  have hcreate : draft.rest.create? = other.rest.create? :=
    Option.map_injective hinr (h "allow-create")
  have hread : draft.rest.read? = other.rest.read? := Option.map_injective hinr (h "allow-read")
  have hupdate : draft.rest.update? = other.rest.update? :=
    Option.map_injective hinr (h "allow-update")
  have hdelete : draft.rest.delete? = other.rest.delete? :=
    Option.map_injective hinr (h "allow-delete")
  simp only [hcomment, hpreamble, hcreate, hread, hupdate, hdelete]

end ExtraRule.Draft

namespace ExtraRule

variable {entries entries' : List (String × Value)}

/-- Values that are the same state the same rule, or both are refused. -/
theorem agree_ofToml {value value' : Value} (h : value.Distinct) (h' : value'.Distinct)
    (hsame : value.Same value') : Agree Eq (ofToml value) (ofToml value') := by
  have hdraft : Agree (fun draft draft' : Draft => ∀ key, draft.get key = draft'.get key)
      (value.asTable keys .extraRule >>= fun entries => entries.foldlM Draft.set {})
      (value'.asTable keys .extraRule >>= fun entries => entries.foldlM Draft.set {}) :=
    Draft.reads.agree_asTable (by decide) h h' hsame fun key _ _ => Draft.agree_read key
  unfold ofToml
  rw [← bind_assoc, ← bind_assoc]
  refine hdraft.bind fun draft draft' hget => ?_
  have hpath : draft.path? = draft'.path? :=
    Option.map_injective (fun _ _ => Sum.inl.inj) (hget "match")
  rw [hpath]
  cases draft'.path? with
  | some path => exact .ok (Draft.rest_eq_of_get_eq hget path)
  | none => cases value <;> cases value' <;> exact .error _ _

theorem agree_ofEntries (h : Keyed Value.Distinct entries) (h' : Keyed Value.Distinct entries')
    (hsame : Option.Rel Value.Same (entries.lookup "extra-rules") (entries'.lookup "extra-rules")) :
    Agree Eq (ofEntries entries) (ofEntries entries') := by
  unfold ofEntries
  generalize hvalue : entries.lookup "extra-rules" = found at hsame ⊢
  generalize hvalue' : entries'.lookup "extra-rules" = found' at hsame ⊢
  cases hsame with
  | none => exact agree_refl _
  | some hsame =>
    have hdistinct := h.distinct_of_lookup hvalue
    have hdistinct' := h'.distinct_of_lookup hvalue'
    cases hsame with
    | refl value => exact agree_refl _
    | table inner => exact .error _ _
    | array inner =>
      cases hdistinct with
      | array hitems =>
        cases hdistinct' with
        | array hitems' =>
          exact .mapM inner fun item hitem item' hitem' =>
            agree_ofToml (hitems item hitem) (hitems' item' hitem')

end ExtraRule

end SchemaPolicy
