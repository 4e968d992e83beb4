/-
**Template selectors of injections.**

`src/src/injections/validation.rs` accepts a template selector when `Uuid::parse_str` does, and
`src/src/injections/selection.rs` compares its text with the one form that `Uuid::to_string` writes.

Main definitions:

* `UuidParser` — the parser of the `uuid` crate, by what is known of it;
* `templateMatches` — the part of `injectionMatches` that reads the template selector.

Main results:

* `selector_matches_denoted_template` — **the condition of a selector holds exactly for the
  workspaces of the template that it denotes, if and only if the selector is canonical**;
* `locked_item_missed_by_spelling` — an upper-case selector is accepted, and its locked item is left
  out.
-/
import WorkspaceControl.Injections

set_option autoImplicit false

namespace WorkspaceControl

/-! ### The condition -/

/-- What is known of `Uuid::parse_str`: it reads the text that `Uuid::to_string` writes, and not the
wildcard. -/
structure UuidParser where
  parse : String → Option Uuid
  parse_text : ∀ id : Uuid, parse id.text = some id
  parse_wildcard : parse "*" = none

/-- The checks of an item, with the parser of UUID texts. -/
def InjectionChecks.withUuidParser (checks : InjectionChecks) (parser : UuidParser) :
    InjectionChecks :=
  { checks with uuidText := fun text => (parser.parse text).isSome }

/-- `template_matches` of `injection_matches`. -/
def templateMatches (item : InjectionItem) (selection : InjectionSelection) : Bool :=
  item.templateSelector.all fun selector =>
    selector = "*" || selection.templateId.any fun id => selector = id.text

/-- `labels.iter().all(..)` of `injection_matches`. -/
def labelsMatch (item : InjectionItem) (selection : InjectionSelection) : Bool :=
  item.labels.all fun (key, expected) => selection.label key = some expected

theorem injectionMatches_eq (item : InjectionItem) (selection : InjectionSelection) :
    injectionMatches item selection =
      (templateMatches item selection && labelsMatch item selection) := rfl

variable {parser : UuidParser} {item : InjectionItem} {selection : InjectionSelection}
  {selector : String} {id : Uuid}

theorem templateMatches_iff (hselector : item.templateSelector = some selector)
    (hparse : parser.parse selector = some id) :
    templateMatches item selection = true ↔
      ∃ template, selection.templateId = some template ∧ selector = template.text := by
  have hwildcard : selector ≠ "*" := by
    rintro rfl
    rw [parser.parse_wildcard] at hparse
    cases hparse
  simp [templateMatches, hselector, hwildcard, Option.any_eq_true]

/-- A canonical text is that of the id it is read as. -/
theorem eq_text_of_canonical (hparse : parser.parse selector = some id)
    (hcanonical : canonicalUuid selector = true) : selector = id.text := by
  rw [show selector = (⟨selector, hcanonical⟩ : Uuid).text from rfl, parser.parse_text,
    Option.some_inj] at hparse
  rw [← hparse]

/-- **The condition of a selector holds exactly for the workspaces of the template that it denotes,
and no reference leaves out a locked item of the organization whose labels match, if and only if
the selector is spelled in the canonical form**: in another spelling it matches no workspace,
although the parser has accepted it. -/
theorem selector_matches_denoted_template (parser : UuidParser) (item : InjectionItem)
    (hselector : item.templateSelector = some selector)
    (hparse : parser.parse selector = some id) :
    (∀ selection : InjectionSelection,
      (templateMatches item selection = true ↔ selection.templateId = some id) ∧
        ∀ (sources : InjectionSources) (refs : WorkspaceInjectionRefs),
          item ∈ sources.organization → item.locked = true → labelsMatch item selection = true →
          selection.templateId = some id →
          item ∈ (sources.select selection refs).organization) ↔
      canonicalUuid selector = true := by
  constructor
  · intro h
    -- a workspace of the denoted template
    have hmatches := (h ⟨none, id, id, some id, "", .internal⟩).1.2 rfl
    obtain ⟨template, -, rfl⟩ := (templateMatches_iff hselector hparse).1 hmatches
    exact template.canonical
  · intro hcanonical selection
    have hid := eq_text_of_canonical hparse hcanonical
    have hiff : templateMatches item selection = true ↔ selection.templateId = some id := by
      rw [templateMatches_iff hselector hparse]
      constructor
      · rintro ⟨template, htemplate, htext⟩
        rw [htemplate, Uuid.text_injective (htext.symm.trans hid)]
      · intro htemplate
        exact ⟨id, htemplate, hid⟩
    refine ⟨hiff, ?_⟩
    intro sources refs hmem hlocked hlabels htemplate
    refine InjectionSources.mem_select_of_locked hmem hlocked ?_ refs
    rw [injectionMatches_eq, hiff.2 htemplate, hlabels]
    rfl

/-! ### A sample -/

def sampleTemplateId : Uuid := ⟨"0000000a-0000-0000-0000-00000000000b", by decide⟩

/-- The locked file, for the workspaces of one template. -/
def selectingItem (selector : String) : InjectionItem :=
  { samplePolicy with templateSelector := some selector }

/-- A workspace of that template. -/
def templatedSelection : InjectionSelection :=
  { sampleSelection with templateId := some sampleTemplateId }

/-- The hyphenated form in either case. -/
def hyphenatedParser : UuidParser where
  parse text := Uuid.parse text <|> Uuid.parse (String.ofList (text.toList.map Char.toLower))
  parse_text id := by simp
  parse_wildcard := by decide +kernel

theorem selector_matches_denoted_template_sample :
    templateMatches (selectingItem sampleTemplateId.text) templatedSelection = true :=
  (((selector_matches_denoted_template hyphenatedParser (selectingItem sampleTemplateId.text) rfl
    (hyphenatedParser.parse_text sampleTemplateId)).2 sampleTemplateId.canonical)
    templatedSelection).1.2 rfl

/-- The selector in upper case passes the validation and denotes the template of the workspace, and
the locked item is not selected. -/
theorem locked_item_missed_by_spelling :
    ∃ (item : InjectionItem) (selector : String) (selection : InjectionSelection) (id : Uuid),
      validateInjectionItem (asciiChecks.withUuidParser hyphenatedParser) item = .ok () ∧
        item.templateSelector = some selector ∧ hyphenatedParser.parse selector = some id ∧
        selection.templateId = some id ∧ item.locked = true ∧ labelsMatch item selection = true ∧
        templateMatches item selection = false ∧
        ∀ refs, ((⟨[item], [], []⟩ : InjectionSources).select selection refs).organization = [] := by
  refine ⟨selectingItem "0000000A-0000-0000-0000-00000000000B",
    "0000000A-0000-0000-0000-00000000000B", templatedSelection, sampleTemplateId,
    by decide +kernel, rfl, by decide +kernel, rfl, rfl, rfl, by decide +kernel, ?_⟩
  intro refs
  have hnone : selectInjections [selectingItem "0000000A-0000-0000-0000-00000000000B"]
      templatedSelection = [] := by decide +kernel
  cases horganization : refs.organization with
  | none | some => simp [InjectionSources.select, hnone, horganization, filterInjectionRefs]

end WorkspaceControl
