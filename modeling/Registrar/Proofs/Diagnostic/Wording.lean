import Registrar.Diagnostic.Basic
import Registrar.Proofs.Text.Substitution

/-!
# The words of a diagnostic

A code has a fixed text with gaps, and its template is this text with the gaps numbered. A finding
has an argument for each gap, so its message is the fixed text with the arguments in the gaps as they
are, and no placeholder is left over.

* `Code.fixedText` : the fixed text of a code.
* `SubstitutesAtOnce`, `Finding.IsWorded` : how templates are filled in, and those of findings.
* `message_by_substitution` : every template and every finding is.
-/

namespace Registrar.Diagnostic

/-- What the messages of a code have in common. -/
def Code.fixedText : Code → Text.Gapped
  | noEligibleConstructor =>
    ⟨"Type '", ["' must have at least one public constructor for dependency injection"]⟩
  | ambiguousConstructor =>
    ⟨"Type '", ["' has multiple constructors with ",
      " parameters; consider annotating one with [Constructor]"]⟩
  | multipleInjectionConstructors =>
    ⟨"Type '", ["' has ",
      " constructors annotated with [Constructor]; only one may be annotated"]⟩
  | malformedAttributeArgument => ⟨"Type '", ["' has an invalid [", "] attribute: ", ""]⟩
  | conflictingLifetimeMarkers =>
    ⟨"Type '", ["' declares more than one service lifetime: ", ""]⟩
  | cyclicSingletonDependency => ⟨"Singleton services depend on each other in a cycle: ", [""]⟩

theorem Code.template_eq (code : Code) : code.template = code.fixedText.template := by
  cases code <;> decide +kernel

theorem Code.isFree_fixedText (code : Code) : code.fixedText.IsFree := by
  unfold Text.Gapped.IsFree
  cases code <;> decide +kernel

theorem Finding.length_args (finding : Finding) :
    finding.args.length = finding.code.fixedText.rest.length := by
  cases finding <;> simp only [args, code, Code.fixedText, List.length_cons, List.length_nil]

theorem Code.length_rest_le (code : Code) : code.fixedText.rest.length ≤ Text.wordCount := by
  cases code <;> decide

/-- How a template is filled in: its placeholders do not overlap, and all of them are replaced at
once. -/
structure SubstitutesAtOnce (template : String) (args : List String) : Prop where
  apart : ∀ i j inner inner' index index',
    Text.HasPlaceholder args.length template.toList i inner index →
    Text.HasPlaceholder args.length template.toList j inner' index' →
      i < j → i + inner.length + 2 ≤ j
  filled : ∀ filled, Text.Substitution template.toList args filled ↔
    filled = (Text.render template args).toList

/-- How the message of a finding is worded. -/
structure Finding.IsWorded (finding : Finding) : Prop where
  template : finding.code.template = finding.code.fixedText.template
  /-- The arguments stand in the gaps of the fixed text, as they are. -/
  message : ∀ location, (finding.report location).message =
    finding.code.fixedText.fillWith finding.args
  /-- Wherever a brace is opened in the template, an argument comes in. -/
  replaced : ∀ i : Nat, finding.code.template.toList[i]? = some '\x7b' →
    ∃ inner index, Text.HasPlaceholder finding.args.length finding.code.template.toList i inner index

/-- **Each finding is worded by the text of its code.** -/
theorem Finding.isWorded (finding : Finding) : finding.IsWorded where
  template := finding.code.template_eq
  message location := by
    show Text.render finding.code.template finding.args = _
    rw [finding.code.template_eq]
    -- there are as many arguments as gaps, so each gap is filled
    exact Text.render_template finding.code.isFree_fixedText finding.length_args
      finding.code.length_rest_le
  replaced i hopen := by
    rw [finding.length_args]
    rw [finding.code.template_eq] at hopen ⊢
    exact Text.exists_hasPlaceholder_template finding.code.isFree_fixedText
      finding.code.length_rest_le hopen

/-- **Filling in a template is simultaneous substitution.** Each placeholder of the template is
replaced by its argument and every other character is kept, whatever the arguments hold. So the
message of a finding is the text of its code with the arguments in it as they are, and nothing of the
template is left to be replaced. -/
theorem message_by_substitution :
    (∀ template args, SubstitutesAtOnce template args) ∧ ∀ finding : Finding, finding.IsWorded :=
  ⟨fun _ _ => ⟨fun _ _ _ _ _ _ h h' hij => h.apart h' hij, fun _ => Text.substitution_iff⟩,
    Finding.isWorded⟩

end Registrar.Diagnostic
