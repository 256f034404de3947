import SchemaPolicy.Proofs.Config.Reading
import SchemaPolicy.Proofs.ExtraRule.Reading
import SchemaPolicy.Proofs.Project.Loading

/-! The settings and the hand-written rules of a project stand in one text, and do not interfere:
each reader takes what stands under its own keys, and a text makes a project when both can read
it. -/

namespace SchemaPolicy

open Outcome Toml

variable {text text' : String} {entries entries' : List (String × Value)}

theorem Config.ofText_of_entries (h : Toml.ofText? text = some entries) :
    Config.ofText text = (Config.ofEntries entries).mapError .mismatch := by
  rw [Config.ofText, h]

theorem extraRulesOfText_of_entries (h : Toml.ofText? text = some entries) :
    extraRulesOfText text =
      (ExtraRule.ofEntries entries).mapError (.unreadable ∘ .mismatch) >>= ExtraRule.toRules := by
  rw [extraRulesOfText, h]

namespace Project

/-- A document with text settings is read, and each setting is the text under its key, or the
default. Documents with the same settings make the same configuration, and those with the same
hand-written rules the same rules. A text makes a project when both can be read, and what is wrong
with the settings is told first. -/
theorem readers_apart (projectDir : Path) (source : Source) :
    (∀ text entries, Toml.ofText? text = some entries →
      Tabular OutputSettings.keys entries "output" → Tabular SchemaSettings.keys entries "schema" →
      Config.ofText text = .ok {
        output := {
          envelope := {
            service := (text? (tableAt entries "output") "service").getD "cloud.firestore"
            version? := some ((text? (tableAt entries "output") "rules-version").getD "2")
            root := (text? (tableAt entries "output") "root").getD
              "/databases/\x7bdatabase\x7d/documents" }
          file? := (text? (tableAt entries "output") "file").map Path.mk }
        schema := {
          directive := (text? (tableAt entries "schema") "directive").getD "collection"
          path := ⟨(text? (tableAt entries "schema") "path").getD "schema.graphql"⟩ } }) ∧
    (∀ text text' entries entries', Toml.ofText? text = some entries →
      Toml.ofText? text' = some entries' →
      (Option.Rel Value.Same (entries.lookup "output") (entries'.lookup "output") →
        Option.Rel Value.Same (entries.lookup "schema") (entries'.lookup "schema") →
        Agree Eq (Config.ofText text) (Config.ofText text')) ∧
      (Option.Rel Value.Same (entries.lookup "extra-rules") (entries'.lookup "extra-rules") →
        Agree Eq (extraRulesOfText text) (extraRulesOfText text'))) ∧
    (∀ text, ((∃ project, ofText projectDir source text = .ok project) ↔
        (∃ config, Config.ofText text = .ok config) ∧
          ∃ rules, extraRulesOfText text = .ok rules) ∧
      (∀ fault, Config.ofText text = .error fault → ofText projectDir source text =
        .error (.config (source.path?.getD ⟨""⟩) fault)) ∧
      (Toml.ofText? text = none → ofText projectDir source text =
        .error (.config (source.path?.getD ⟨""⟩) .malformed))) := by
  refine ⟨fun text entries h houtput hschema => ?_, fun text text' entries entries' h h' =>
    ⟨fun houtput hschema => ?_, fun hrules => ?_⟩, fun text => ⟨?_, ?_⟩⟩
  · rw [Config.ofText_of_entries h, Config.ofEntries_eq_ok (keyed_ofText? h) houtput hschema]
    rfl
  · rw [Config.ofText_of_entries h, Config.ofText_of_entries h']
    exact (Config.agree_ofEntries (keyed_ofText? h) (keyed_ofText? h') houtput hschema).mapError _
  · rw [extraRulesOfText_of_entries h, extraRulesOfText_of_entries h']
    refine ((ExtraRule.agree_ofEntries (keyed_ofText? h) (keyed_ofText? h') hrules).mapError
      _).bind ?_
    rintro rules _ rfl
    exact agree_refl _
  · constructor
    · rintro ⟨project, hproject⟩
      obtain ⟨config, rules, hconfig, hrules, -⟩ := ofText_eq_ok_iff.mp hproject
      exact ⟨⟨config, hconfig⟩, rules, hrules⟩
    · rintro ⟨⟨config, hconfig⟩, rules, hrules⟩
      exact ⟨_, ofText_eq_ok_iff.mpr ⟨config, rules, hconfig, hrules, rfl⟩⟩
  · have hfault : ∀ fault, Config.ofText text = .error fault →
        ofText projectDir source text =
          .error (.config (source.path?.getD ⟨""⟩) fault) :=
      fun fault h => ofText_eq_error_iff.mpr (.inl ⟨fault, h, rfl⟩)
    exact ⟨hfault, fun h => hfault _ (by rw [Config.ofText, h])⟩

theorem readers_apart_root :
    Config.ofText "extra-rules = []\n[output]\nroot = '/r'\n" =
      .ok { output := { envelope := { root := "/r" } } } ∧
    Agree Eq (Config.ofText "extra-rules = []\n[output]\nroot = '/r'\n")
      (Config.ofText "output.root = '/r'\nother = 'x'\n") := by
  -- Both documents have the same texts as output settings, and neither has settings of the schema.
  have hfound : ∀ text, ((Toml.ofText? text).any fun entries =>
      textsAt? entries "output" = some [("root", "/r")] ∧ (entries.lookup "schema").isNone) = true →
      ∃ entries, Toml.ofText? text = some entries ∧
        textsAt? entries "output" = some [("root", "/r")] ∧ entries.lookup "schema" = none := by
    intro text h
    obtain ⟨entries, hentries, hdocument⟩ := (Option.any_eq_true _ _).mp h
    obtain ⟨houtput, hschema⟩ := of_decide_eq_true hdocument
    exact ⟨entries, hentries, houtput, Option.isNone_iff_eq_none.mp hschema⟩
  obtain ⟨first, hfirst, houtput, hschema⟩ :=
    hfound "extra-rules = []\n[output]\nroot = '/r'\n" (by decide +kernel)
  obtain ⟨second, hsecond, houtput', hschema'⟩ :=
    hfound "output.root = '/r'\nother = 'x'\n" (by decide +kernel)
  obtain ⟨hread, hsame, -⟩ := readers_apart ⟨"."⟩ .defaults
  constructor
  · rw [hread _ _ hfirst (tabular_of_textsAt? houtput) (tabular_of_lookup_eq_none hschema),
      tableAt_of_textsAt? houtput, tableAt, hschema]
    rfl
  · refine (hsame _ _ _ _ hfirst hsecond).1 ?_ ?_
    · rw [lookup_of_textsAt? houtput, lookup_of_textsAt? houtput']
      exact rel_same_refl _
    · rw [hschema, hschema']
      exact .none

end Project

end SchemaPolicy
