import Registrar.Proofs.Text.Substitution
import Registrar.Report.Terminal

/-!
# Reports with and without colours

Colours come into a report as escape sequences around its spans, and nothing else does. So as long as
the diagnostics hold no escape character themselves, taking the sequences out of a coloured report
leaves the plain report, in which there is no escape character at all.

* `uncoloured` : a text without its colour sequences.
* `uncoloured_render` : spans without escape characters are written alike, but for the sequences.
* `EventEscapeFree`, `escapeFree_spans` : what is reported without escape characters.
* `uncoloured_run` : colours change nothing but colours.
-/

namespace Registrar.Report.Terminal

/-! ## §1 — colour sequences -/

/-- The character that starts a sequence. -/
def escapeChar : Char := '\x1b'

/-- What a sequence holds between its bracket and its end. -/
def isParameter (c : Char) : Bool := c.isDigit || c = ';'

/-- What follows the rest of a sequence: a bracket, parameters and an `m`. -/
def afterSequence? : List Char → Option (List Char)
  | '[' :: rest =>
    match rest.dropWhile isParameter with
    | 'm' :: after => some after
    | _ => none
  | _ => none

/-- A sequence goes on with a bracket, then parameters as far as they go, then an `m`. -/
theorem afterSequence?_eq_some_iff {cs after : List Char} :
    afterSequence? cs = some after ↔
      ∃ parameters : List Char, (∀ c ∈ parameters, isParameter c = true) ∧
        cs = '[' :: (parameters ++ 'm' :: after) := by
  constructor
  · intro h
    unfold afterSequence? at h
    split at h
    · next rest =>
      split at h
      · next tail hdrop =>
        obtain rfl := Option.some.inj h
        refine ⟨rest.takeWhile isParameter, ?_, ?_⟩
        · exact List.all_eq_true.mp List.all_takeWhile
        · rw [← hdrop, List.takeWhile_append_dropWhile]
      · exact absurd h (by simp)
    · exact absurd h (by simp)
  · rintro ⟨parameters, hparameters, rfl⟩
    -- an `m` is no parameter, so the run of parameters ends there
    have hstop : ∀ c ∈ ('m' :: after).head?, isParameter c = false := by
      intro c hc
      obtain rfl := Option.some.inj hc
      decide
    unfold afterSequence?
    simp only [dropWhile_append_stop hparameters hstop]

/-- A sequence is not empty, so what follows it is shorter. -/
theorem length_lt_of_afterSequence? {cs after : List Char} (h : afterSequence? cs = some after) :
    after.length < cs.length := by
  obtain ⟨parameters, -, rfl⟩ := afterSequence?_eq_some_iff.mp h
  simp only [List.length_cons, List.length_append]
  omega

/-- The text without the colour sequences in it. -/
def uncoloured : List Char → List Char
  | [] => []
  | c :: rest =>
    if c = escapeChar then
      match h : afterSequence? rest with
      | some after =>
        have := length_lt_of_afterSequence? h
        uncoloured after
      | none => c :: uncoloured rest
    else c :: uncoloured rest
termination_by cs => cs.length

/-- **A front without escape characters stays.** Induction on the front. -/
theorem uncoloured_append {front : List Char} (hfront : escapeChar ∉ front) (back : List Char) :
    uncoloured (front ++ back) = front ++ uncoloured back := by
  -- whatever follows in `back`, no sequence starts in the front
  induction front with
  | nil => rfl
  | cons c front ih =>
    have hc : c ≠ escapeChar := fun hc => hfront (hc ▸ List.mem_cons_self)
    rw [List.cons_append, uncoloured, if_neg hc, ih (List.not_mem_of_not_mem_cons hfront)]
    rfl

/-- A colour sequence. -/
def IsSequence (cs : List Char) : Prop :=
  ∃ parameters : List Char, (∀ c ∈ parameters, isParameter c = true) ∧
    cs = escapeChar :: '[' :: (parameters ++ ['m'])

/-- **A sequence in front is taken out**, and nothing else with it. -/
theorem IsSequence.uncoloured_append {cs : List Char} (h : IsSequence cs) (back : List Char) :
    uncoloured (cs ++ back) = uncoloured back := by
  obtain ⟨parameters, hparameters, rfl⟩ := h
  have hcs : escapeChar :: '[' :: (parameters ++ ['m']) ++ back =
      escapeChar :: '[' :: (parameters ++ 'm' :: back) := by simp
  -- the first `m` ends it, whatever `back` begins with
  have hsome : afterSequence? ('[' :: (parameters ++ 'm' :: back)) = some back :=
    afterSequence?_eq_some_iff.mpr ⟨parameters, hparameters, rfl⟩
  rw [hcs, uncoloured, if_pos rfl]
  split
  · next h =>
    obtain rfl := Option.some.inj (h.symm.trans hsome)
    rfl
  · next h => exact absurd (h.symm.trans hsome) (by simp)

/-- Each style starts with a sequence. -/
theorem isSequence_start (style : Style) : IsSequence style.start.toList := by
  cases style with
  | error => exact ⟨"1;31".toList, List.all_eq_true.mp (by decide), by decide⟩
  | warning => exact ⟨"1;33".toList, List.all_eq_true.mp (by decide), by decide⟩
  | note => exact ⟨"1;36".toList, List.all_eq_true.mp (by decide), by decide⟩
  | help => exact ⟨"1;32".toList, List.all_eq_true.mp (by decide), by decide⟩
  | strong => exact ⟨"1".toList, List.all_eq_true.mp (by decide), by decide⟩
  | secondary => exact ⟨"1;34".toList, List.all_eq_true.mp (by decide), by decide⟩

theorem isSequence_styleEnd : IsSequence styleEnd.toList :=
  ⟨"0".toList, List.all_eq_true.mp (by decide), by decide⟩

/-! ## §2 — spans -/

/-- The text has no escape character in it. -/
def EscapeFree (text : String) : Prop := escapeChar ∉ text.toList

instance (text : String) : Decidable (EscapeFree text) :=
  inferInstanceAs (Decidable (escapeChar ∉ text.toList))

theorem EscapeFree.append {a b : String} (ha : EscapeFree a) (hb : EscapeFree b) :
    EscapeFree (a ++ b) := by
  unfold EscapeFree
  rw [String.toList_append, List.mem_append]
  exact not_or.mpr ⟨ha, hb⟩

theorem toList_render_cons (colors : Bool) (span : Span) (spans : List Span) :
    (render colors (span :: spans)).toList =
      (span.render colors).toList ++ (render colors spans).toList := by
  simp only [render, String.toList_join, List.map_cons, List.flatMap_cons]

/-- **One span.** With a style it stands between two sequences, and both are taken out. -/
theorem uncoloured_span {span : Span} (h : EscapeFree span.text) (back : List Char) :
    uncoloured ((span.render true).toList ++ back) =
      (span.render false).toList ++ uncoloured back := by
  obtain ⟨text, style⟩ := span
  -- plain text is a front, and styled text is one between two sequences
  cases style with
  | none => exact uncoloured_append h back
  | some style =>
    show uncoloured ((style.start ++ text ++ styleEnd).toList ++ back) = text.toList ++ _
    rw [String.toList_append, String.toList_append, List.append_assoc, List.append_assoc,
      (isSequence_start style).uncoloured_append, uncoloured_append h,
      isSequence_styleEnd.uncoloured_append]

/-- **All spans.** Induction on them: what is taken out of the first does not reach into the
others. -/
theorem uncoloured_render {spans : List Span} (h : ∀ span ∈ spans, EscapeFree span.text) :
    uncoloured (render true spans).toList = (render false spans).toList := by
  induction spans with
  | nil =>
    show uncoloured [] = []
    rw [uncoloured]
  | cons span spans ih =>
    rw [toList_render_cons, toList_render_cons, uncoloured_span (h span List.mem_cons_self),
      ih fun span hspan => h span (List.mem_cons_of_mem _ hspan)]

/-- Without colours nothing but the texts of the spans is written. -/
theorem escapeFree_render {spans : List Span} (h : ∀ span ∈ spans, EscapeFree span.text) :
    EscapeFree (render false spans) := by
  induction spans with
  | nil => exact List.not_mem_nil
  | cons span spans ih =>
    -- the style is not looked at
    have hspan : (span.render false).toList = span.text.toList := by
      unfold Span.render
      cases span.style <;> rfl
    unfold EscapeFree
    rw [toList_render_cons, hspan, List.mem_append]
    exact not_or.mpr ⟨h span List.mem_cons_self,
      ih fun span hspan => h span (List.mem_cons_of_mem _ hspan)⟩

/-! ## §3 — what is reported -/

/-- No text that a diagnostic holds has an escape character in it. -/
structure DiagnosticEscapeFree (d : Diagnostic) : Prop where
  args : ∀ arg ∈ d.args, EscapeFree arg
  location : ∀ place ∈ d.location, EscapeFree place.file
  labels : ∀ label ∈ d.labels, EscapeFree label.location.file ∧ EscapeFree label.message
  notes : ∀ note ∈ d.notes, EscapeFree note
  suggestions : ∀ suggestion ∈ d.suggestions, EscapeFree suggestion

/-- Nor does a text of the diagnostics that an event reports. -/
def EventEscapeFree : Event → Prop
  | .diagnostic d => DiagnosticEscapeFree d
  | .diagnostics ds => ∀ d ∈ ds, DiagnosticEscapeFree d
  | .summary _ _ | .flush => True

theorem escapeFree_toString (n : Nat) : EscapeFree (toString n) := by
  unfold EscapeFree
  rw [Nat.toString_eq_ofList_toDigits, String.toList_ofList]
  intro hmem
  -- a number is made of digits
  exact absurd (Nat.isDigit_of_mem_toDigits (by decide) (by decide) hmem) (by decide)

/-- A place is the name of a file with two numbers. -/
theorem escapeFree_location {place : Location} (h : EscapeFree place.file) :
    EscapeFree place.text :=
  (((h.append (by decide)).append (escapeFree_toString _)).append (by decide)).append
    (escapeFree_toString _)

/-- Nor has any of the templates. -/
theorem escapeFree_template (code : Diagnostic.Code) : EscapeFree code.template := by
  cases code <;> decide +kernel

/-- A message is its template and its arguments, so it has an escape character only if one of these
has. -/
theorem escapeFree_message {d : Diagnostic} (h : DiagnosticEscapeFree d) :
    EscapeFree d.message := by
  intro hmem
  rcases Text.mem_render hmem with htemplate | ⟨arg, harg, hmem⟩
  · exact escapeFree_template d.code htemplate
  · exact h.args arg harg hmem

/-- A list of spans without escape characters. -/
def SpansEscapeFree (spans : List Span) : Prop := ∀ span ∈ spans, EscapeFree span.text

theorem spansEscapeFree_cons {span : Span} {spans : List Span} (h : EscapeFree span.text)
    (hmore : SpansEscapeFree spans) : SpansEscapeFree (span :: spans) :=
  List.forall_mem_cons.mpr ⟨h, hmore⟩

theorem spansEscapeFree_nil : SpansEscapeFree [] := List.forall_mem_nil _

theorem SpansEscapeFree.append {a b : List Span} (ha : SpansEscapeFree a)
    (hb : SpansEscapeFree b) : SpansEscapeFree (a ++ b) :=
  List.forall_mem_append.mpr ⟨ha, hb⟩

theorem spansEscapeFree_flatMap {α : Type} {list : List α} {spans : α → List Span}
    (h : ∀ a ∈ list, SpansEscapeFree (spans a)) : SpansEscapeFree (list.flatMap spans) :=
  List.forall_mem_flatMap.mpr h

/-- A remark has the characters of its kind and of its text. -/
theorem escapeFree_remark {kind text : String} (style : Style) (hkind : EscapeFree kind)
    (htext : EscapeFree text) : SpansEscapeFree (remark kind style text) := by
  have hrest : EscapeFree (": " ++ text ++ "\n") :=
    (EscapeFree.append (by decide) htext).append (by decide)
  exact spansEscapeFree_cons (by decide) <| spansEscapeFree_cons hkind <|
    spansEscapeFree_cons hrest spansEscapeFree_nil

/-- **A block has an escape character only if a text of its diagnostic has.** One case for each
part. -/
theorem escapeFree_block {d : Diagnostic} (h : DiagnosticEscapeFree d) :
    SpansEscapeFree (block d) := by
  have hheader : SpansEscapeFree
      [.styled (severityStyle d.severity) d.severity.word,
        .styled .strong ("[" ++ d.code.identifier ++ "]"), .plain (": " ++ d.message ++ "\n")] := by
    have hword : EscapeFree d.severity.word := by cases d.severity <;> decide
    have hcode : EscapeFree ("[" ++ d.code.identifier ++ "]") := by cases d.code <;> decide
    have hmessage : EscapeFree (": " ++ d.message ++ "\n") :=
      (EscapeFree.append (by decide) (escapeFree_message h)).append (by decide)
    exact spansEscapeFree_cons hword <| spansEscapeFree_cons hcode <|
      spansEscapeFree_cons hmessage spansEscapeFree_nil
  unfold block
  -- the header, the place, the labels, the notes, the suggestions and the empty line
  refine ((((hheader.append ?_).append ?_).append ?_).append ?_).append ?_
  · apply spansEscapeFree_flatMap
    intro place hplace
    have hfile := h.location place (Option.mem_toList.mp hplace)
    exact spansEscapeFree_cons (by decide) <| spansEscapeFree_cons (escapeFree_location hfile) <|
      spansEscapeFree_cons (by decide) spansEscapeFree_nil
  · apply spansEscapeFree_flatMap
    intro label hlabel
    obtain ⟨hfile, hmessage⟩ := h.labels label hlabel
    have hplace : EscapeFree ("      " ++ label.location.text ++ ": ") :=
      (EscapeFree.append (by decide) (escapeFree_location hfile)).append (by decide)
    exact spansEscapeFree_cons hplace <| spansEscapeFree_cons hmessage <|
      spansEscapeFree_cons (by decide) spansEscapeFree_nil
  · exact spansEscapeFree_flatMap fun note hnote =>
      escapeFree_remark .strong (by decide) (h.notes note hnote)
  · exact spansEscapeFree_flatMap fun suggestion hsuggestion =>
      escapeFree_remark .help (by decide) (h.suggestions suggestion hsuggestion)
  · exact spansEscapeFree_cons (by decide) spansEscapeFree_nil

theorem escapeFree_warningsEmitted (warnings : Nat) : EscapeFree (warningsEmitted warnings) := by
  have hplural : EscapeFree (if warnings = 1 then "" else "s") := by split <;> decide
  exact (((escapeFree_toString warnings).append (by decide)).append hplural).append (by decide)

/-- **A summary has no escape character**, whatever the counts are. -/
theorem escapeFree_summary (errors warnings : Nat) :
    SpansEscapeFree (summary errors warnings) := by
  have hwarnings := escapeFree_warningsEmitted warnings
  unfold summary
  split
  · split
    · exact spansEscapeFree_nil
    · exact spansEscapeFree_cons (by decide) <| spansEscapeFree_cons
        ((EscapeFree.append (by decide) hwarnings).append (by decide)) spansEscapeFree_nil
  · have hprevious : EscapeFree
        (if errors = 1 then "previous error" else toString errors ++ " previous errors") := by
      split
      · decide
      · exact (escapeFree_toString errors).append (by decide)
    have hrest : EscapeFree (if warnings = 0 then "" else "; " ++ warningsEmitted warnings) := by
      split
      · decide
      · exact EscapeFree.append (by decide) hwarnings
    exact spansEscapeFree_cons (by decide) <| spansEscapeFree_cons
      (((EscapeFree.append (by decide) hprevious).append hrest).append (by decide))
      spansEscapeFree_nil

/-- What is reported at one time. One case for each kind of event. -/
theorem escapeFree_spans {event : Event} (h : EventEscapeFree event) :
    SpansEscapeFree (spans event) := by
  cases event with
  | diagnostic d => exact escapeFree_block h
  | diagnostics ds => exact spansEscapeFree_flatMap fun d hd => escapeFree_block (h d hd)
  | summary errors warnings => exact escapeFree_summary errors warnings
  | flush => exact spansEscapeFree_nil

/-! ## §4 — a run -/

/-- All that is written for a sequence of events. -/
def run (colors : Bool) (events : List Event) : String :=
  String.join (events.map (write colors))

/-- What is written for several events is what is written for all their spans. -/
theorem run_eq_render (colors : Bool) (events : List Event) :
    run colors events = render colors (events.flatMap spans) := by
  induction events with
  | nil => rfl
  | cons event events ih =>
    -- texts are joined event by event, spans all at once
    rw [List.flatMap_cons, render_append, ← ih, ← String.toList_inj, run, run, List.map_cons,
      String.toList_join, List.flatMap_cons, String.toList_append, String.toList_join]
    rfl

/-- **Colours change nothing but colours.** Without the colour sequences a coloured run is the plain
run, and the plain run has no escape character in it. -/
theorem uncoloured_run {events : List Event} (h : ∀ event ∈ events, EventEscapeFree event) :
    uncoloured (run true events).toList = (run false events).toList ∧
      escapeChar ∉ (run false events).toList := by
  -- all spans of all events, in one list
  have hspans : SpansEscapeFree (events.flatMap spans) :=
    spansEscapeFree_flatMap fun event hevent => escapeFree_spans (h event hevent)
  rw [run_eq_render, run_eq_render]
  exact ⟨uncoloured_render hspans, escapeFree_render hspans⟩

/-- What a label says may look like the rest of a sequence. -/
theorem uncoloured_run_brackets :
    let place : Location := ⟨"[1m;", 3, 14⟩
    let tie : Diagnostic :=
      { code := .ambiguousConstructor, severity := .error, args := ["[m", "\x7b0\x7d"],
        location := some place, labels := [⟨place, "[0m"⟩], notes := ["m"],
        suggestions := ["1;31m"] }
    let events : List Event := [.diagnostic tie, .flush, .diagnostics [tie], .summary 2 1]
    (∀ event ∈ events, EventEscapeFree event) ∧ run true events ≠ run false events ∧
      uncoloured (run true events).toList = (run false events).toList ∧
        escapeChar ∉ (run false events).toList := by
  intro place tie events
  have htie : DiagnosticEscapeFree tie :=
    { args := by decide, location := by decide, labels := by decide, notes := by decide,
      suggestions := by decide }
  have hfree : ∀ event ∈ events, EventEscapeFree event := by
    intro event hevent
    simp only [events, List.mem_cons, List.not_mem_nil, or_false] at hevent
    rcases hevent with rfl | rfl | rfl | rfl
    · exact htie
    · trivial
    · exact List.forall_mem_singleton.mpr htie
    · trivial
  exact ⟨hfree, by decide +kernel, uncoloured_run hfree⟩

end Registrar.Report.Terminal
