/-
# `Criteria.Proofs.Checks` — a configuration is checked once and for all

## What is proved

* The alias of a table is tested twice, by the check of a configuration and by
  the resolver that is made for it, each with tests of its own.  Both accept the
  same texts, the empty one aside, and refuse a text without a point for the
  same rule, which is the first that the text breaks.
* So a compiler is refused for the check of its configuration or for a dialect
  that there is not, and for nothing else.
* What is read from a document passes the check again.

## Where the two tests differ

The check takes the alias as one word, and the resolver divides it at its
points first.  A text with a point is refused by both: a point is no character
of a word, and an alias with a point in it has a table of its own.  So the
texts that pass are the identifiers on both sides (`Resolver.ofAlias_eq_ok`).
-/
import Criteria.Config.OfToml
import Criteria.Proofs.Columns

namespace Criteria

open Outcome

theorem NameError.ofFault_inj {segment : String} {fault other : Identifier.Fault}
    (h : ofFault segment fault = ofFault segment other) : fault = other := by
  cases fault <;> cases other <;> simp_all [ofFault]

namespace Resolver

theorem exists_ofAlias_iff {text : String} :
    (∃ resolver, ofAlias text = .ok resolver) ↔ Identifier.fault? text = none := by
  simp only [ofAlias_eq_ok]
  constructor
  · rintro ⟨resolver, id, rfl, -⟩
    exact id.faultless
  · intro h
    exact ⟨_, ⟨text, h⟩, rfl, rfl⟩

/-- Without a point an alias is one segment, and is refused for the fault of that. -/
theorem ofAlias_eq_error {text : String} (hpoint : '.' ∉ text.toList) {e : NameError} :
    ofAlias text = .error e ↔
      ∃ fault, Identifier.fault? text = some fault ∧ e = .ofFault text fault := by
  have hsplit : text.toList.splitOn '.' = [text.toList] := List.splitOn_eq_singleton hpoint
  have hread : ofAlias text =
      (fun id => .qualifying id) <$> (Identifier.ofText text).mapError (.ofFault text) := by
    rw [ofAlias, FieldName.ofText, hsplit]
    simp only [FieldName.segment, String.ofList_toList]
    cases Identifier.ofText text <;> rfl
  rw [hread]
  unfold Identifier.ofText
  split
  · next h => simp [h]
  · next fault h => simp [h, eq_comm]

/-- The resolver refuses an alias without a point for the first rule that it breaks. -/
theorem refuses_alias_iff {text : String} (hpoint : '.' ∉ text.toList)
    {fault : Identifier.Fault} :
    ofAlias text = .error (.ofFault text fault) ↔ fault.IsFirstIn text := by
  rw [ofAlias_eq_error hpoint, ← Identifier.fault?_eq_some_iff]
  constructor
  · rintro ⟨other, hother, hsame⟩
    rw [NameError.ofFault_inj hsame, hother]
  · intro h
    exact ⟨fault, h, rfl⟩

end Resolver

namespace Config

/-- The test of an alias is that of an identifier, the empty text aside. -/
theorem aliasFault?_eq (text : String) :
    aliasFault? text = if text = "" then none else Identifier.fault? text := by
  by_cases hempty : text = ""
  · rw [hempty]
    rfl
  · rw [if_neg hempty, aliasFault?, Identifier.fault?]
    cases hlist : text.toList with
    | nil => exact absurd (String.toList_eq_nil_iff.mp hlist) hempty
    | cons first rest => rfl

/-- The rules of a configuration, one after the other. -/
theorem check_eq (config : Config) : config.check =
    if Text.trim config.dialect = "" then .error .emptyDialect
    else if config.maxDepth = 0 then .error .zeroDepth
    else match aliasFault? config.tableAlias with
      | some fault => .error (.badAlias config.tableAlias fault)
      | none =>
        if config.pageSizes.max > 0 ∧ config.pageSizes.default > config.pageSizes.max then
          .error .defaultAboveMax
        else .ok () := by
  unfold check
  by_cases hdialect : Text.trim config.dialect = ""
  · simp [hdialect]
  · by_cases hdepth : config.maxDepth = 0
    · simp [hdialect, hdepth]
    · cases hfault : aliasFault? config.tableAlias with
      | some fault => simp [hdialect, hdepth]
      | none => simp [hdialect, hdepth]

theorem check_ne_malformed (config : Config) : config.check ≠ .error .malformed := by
  rw [check_eq]
  repeat' split
  all_goals simp

/-- A configuration that breaks no rule has an alias that breaks none; with another alias it breaks
at most the rule for aliases. -/
theorem check_with_alias {config : Config} (h : config.check = .ok ()) :
    aliasFault? config.tableAlias = none ∧ ∀ text,
      Config.check { config with tableAlias := text } = match aliasFault? text with
        | some fault => .error (.badAlias text fault)
        | none => .ok () := by
  rw [check_eq] at h
  split at h
  · cases h
  · next hdialect =>
      split at h
      · cases h
      · next hdepth =>
          split at h
          · cases h
          · next hfault =>
              split at h
              · cases h
              · next hpages =>
                  refine ⟨hfault, ?_⟩
                  intro text
                  rw [check_eq, if_neg hdialect, if_neg hdepth, if_neg hpages]

/-- The check lets the aliases pass that a resolver is made for, and the empty one. -/
theorem accepts_alias_iff {config : Config} (h : config.check = .ok ()) (text : String) :
    Config.check { config with tableAlias := text } = .ok () ↔
      text = "" ∨ ∃ resolver, Resolver.ofAlias text = .ok resolver := by
  rw [(check_with_alias h).2 text, aliasFault?_eq]
  by_cases hempty : text = ""
  · simp [hempty]
  · rw [if_neg hempty, Resolver.exists_ofAlias_iff]
    cases Identifier.fault? text <;> simp [hempty]

/-- The check refuses an alias for the first rule that it breaks. -/
theorem refuses_alias_iff {config : Config} (h : config.check = .ok ()) {text : String}
    (hempty : text ≠ "") {fault : Identifier.Fault} :
    Config.check { config with tableAlias := text } = .error (.badAlias text fault) ↔
      fault.IsFirstIn text := by
  rw [(check_with_alias h).2 text, aliasFault?_eq, if_neg hempty, ← Identifier.fault?_eq_some_iff]
  cases Identifier.fault? text <;> simp

/-- What is read from a document has been checked. -/
theorem check_of_ofToml {text : String} {config : Config} (h : ofToml text = .ok config) :
    config.check = .ok () := by
  unfold ofToml at h
  split at h
  · cases h
  · next parsed hparse =>
      obtain ⟨checked, hcheck, h⟩ := bind_eq_ok.mp h
      obtain rfl := Except.ok.inj h
      exact hcheck

end Config

/-- There are two names of a dialect. -/
theorem Dialect.exists_ofName?_iff {name : String} :
    (∃ dialect, ofName? name = some dialect) ↔
      Text.lower (Text.trim name) ∈ ["mysql", "mariadb"] := by
  unfold ofName?
  generalize Text.lower (Text.trim name) = word
  by_cases hmysql : word = "mysql"
  · rw [hmysql]
    exact ⟨fun _ => List.mem_cons_self, fun _ => ⟨.mysql, rfl⟩⟩
  · by_cases hmariadb : word = "mariadb"
    · rw [hmariadb]
      exact ⟨fun _ => by simp, fun _ => ⟨.mysql, rfl⟩⟩
    · simp [List.lookup_cons, beq_eq_false_iff_ne.mpr hmysql, beq_eq_false_iff_ne.mpr hmariadb,
        hmysql, hmariadb]

namespace Compiler

/-- The resolver of an alias that the check lets pass is made. -/
theorem exists_resolverOfAlias {text : String} (h : Config.aliasFault? text = none) :
    ∃ resolver, resolverOfAlias text = .ok resolver := by
  unfold resolverOfAlias
  rw [Config.aliasFault?_eq] at h
  by_cases hempty : text = ""
  · rw [hempty]
    exact ⟨.plain, rfl⟩
  · rw [if_neg hempty] at h
    simpa [hempty] using Resolver.exists_ofAlias_iff.mpr h

/-- A compiler is made in two steps that can fail: the check, then the dialect. -/
theorem ofConfig_cases (config : Config) :
    (∃ e, config.check = .error e ∧ ofConfig config = .error (.config e)) ∨
      config.check = .ok () ∧
        ((Text.lower (Text.trim config.dialect) ∉ ["mysql", "mariadb"] ∧
            ofConfig config = .error (.unsupportedDialect config.dialect)) ∨
          Text.lower (Text.trim config.dialect) ∈ ["mysql", "mariadb"] ∧
            ∃ compiler, ofConfig config = .ok compiler) := by
  unfold ofConfig
  cases hcheck : config.check with
  | error e => exact .inl ⟨e, rfl, rfl⟩
  | ok u =>
      refine .inr ⟨rfl, ?_⟩
      rw [← Dialect.exists_ofName?_iff]
      cases hdialect : Dialect.ofName? config.dialect with
      | none => exact .inl ⟨by simp, rfl⟩
      | some dialect =>
          obtain ⟨resolver, hresolver⟩ :=
            exists_resolverOfAlias (Config.check_with_alias hcheck).1
          refine .inr ⟨⟨dialect, rfl⟩, ⟨config, dialect, resolver⟩, ?_⟩
          rw [hresolver]
          rfl

end Compiler

/-- The check of a configuration and the resolver that is made for it accept the same aliases, and
refuse one without a point for the first rule that it breaks, both of them.  A compiler is refused
for its configuration or its dialect alone. -/
theorem checks_agree :
    (∀ (config : Config) (text : String), config.check = .ok () →
      (Config.check { config with tableAlias := text } = .ok () ↔
        text = "" ∨ ∃ resolver, Resolver.ofAlias text = .ok resolver) ∧
      (text ≠ "" → '.' ∉ text.toList → ∀ fault : Identifier.Fault,
        (Config.check { config with tableAlias := text } = .error (.badAlias text fault) ↔
          fault.IsFirstIn text) ∧
        (Resolver.ofAlias text = .error (.ofFault text fault) ↔ fault.IsFirstIn text))) ∧
    (∀ config : Config,
      (∀ e, Compiler.ofConfig config ≠ .error (.expression e)) ∧
      (∀ e, Compiler.ofConfig config = .error (.config e) ↔
        config.check = .error e ∧ e ≠ .malformed) ∧
      (∀ name, Compiler.ofConfig config = .error (.unsupportedDialect name) ↔
        config.check = .ok () ∧ name = config.dialect ∧
          Text.lower (Text.trim config.dialect) ∉ ["mysql", "mariadb"]) ∧
      ((∃ compiler, Compiler.ofConfig config = .ok compiler) ↔
        config.check = .ok () ∧ Text.lower (Text.trim config.dialect) ∈ ["mysql", "mariadb"])) ∧
    ∀ text config, Config.ofToml text = .ok config → config.check = .ok () := by
  refine ⟨?_, ?_, fun text config => Config.check_of_ofToml⟩
  · intro config text hcheck
    refine ⟨Config.accepts_alias_iff hcheck text, ?_⟩
    intro hempty hpoint fault
    exact ⟨Config.refuses_alias_iff hcheck hempty, Resolver.refuses_alias_iff hpoint⟩
  · intro config
    rcases Compiler.ofConfig_cases config with
      ⟨e, hcheck, hmade⟩ | ⟨hcheck, ⟨hname, hmade⟩ | ⟨hname, compiler, hmade⟩⟩
    · have he : e ≠ .malformed := by
        rintro rfl
        exact config.check_ne_malformed hcheck
      rw [hcheck, hmade]
      refine ⟨by simp, ?_, by simp, by simp⟩
      intro e'
      constructor
      · intro h
        obtain rfl : e = e' := by simpa using h
        exact ⟨rfl, he⟩
      · rintro ⟨h, -⟩
        rw [Except.error.inj h]
    · rw [hcheck, hmade]
      simp [hname, eq_comm]
    · rw [hcheck, hmade]
      simp [hname]

/-- An alias of 32 characters and 64 bytes that starts with no letter is refused for its length; a
short one goes with either name of the dialect. -/
theorem checks_agree_at_wide_alias :
    let text := String.ofList (List.replicate 32 'ä')
    Config.check { tableAlias := text } = .error (.badAlias text (.tooLong 64)) ∧
      Resolver.ofAlias text = .error (.tooLong text 64) ∧
      (∃ compiler, Compiler.ofConfig { dialect := " MariaDB ", tableAlias := "p" } =
        .ok compiler) ∧
      Compiler.ofConfig { dialect := "maria db", tableAlias := "p" } =
        .error (.unsupportedDialect "maria db") := by
  intro text
  obtain ⟨haliases, hcompilers, -⟩ := checks_agree
  have hlong : (Identifier.Fault.tooLong 64).IsFirstIn text :=
    Identifier.fault?_eq_some_iff.mp (by decide)
  obtain ⟨hchecked, hresolved⟩ :=
    (haliases {} text rfl).2 (by decide) (by decide) (.tooLong 64)
  obtain ⟨-, -, -, hmade⟩ := hcompilers { dialect := " MariaDB ", tableAlias := "p" }
  obtain ⟨-, -, hunknown, -⟩ := hcompilers { dialect := "maria db", tableAlias := "p" }
  refine ⟨hchecked.mpr hlong, hresolved.mpr hlong, hmade.mpr ⟨rfl, by decide⟩, ?_⟩
  exact (hunknown "maria db").mpr ⟨rfl, rfl, by decide⟩

end Criteria
