import CallScope.Proofs.IndexedCalls
import CallScope.Proofs.SetterKeys

/-!
# Setters in another order

Whatever setters leave behind is a matter of the last word: the usage that is
kept is the usage stored last, the names are those of the list recorded last,
and under each name the backend shows the value that was set last. And each
of these is a matter of one family of setters (`Setter.OneFamily`), since no
two families share a key.

So the order of setters counts within a family and nowhere else. Lists of
setters that agree family by family have the same last words
(`SameLast.of_families`), and so has a list in which a setter is repeated at
once; and turns whose setters have the same last words come to the same,
whatever came before them and whatever comes behind them (`Span.sameAs_run`).
-/

namespace CallScope

/-! ## The last words of setters -/

/-- The setters of a family, in their order. -/
def Family.among (family : Family) (setters : List Setter) : List Setter :=
  setters.filter fun setter => setter.family = family

/-- **Something that setters of one family alone give.** -/
def Setter.OneFamily {α : Type} (give : Setter → Option α) : Prop :=
  ∀ first second : Setter, (give first).isSome = true → (give second).isSome = true →
    first.family = second.family

namespace Setter

/-- What one family gives is given by the setters of that family among
others. -/
theorem OneFamily.filterMap_among {α : Type} {give : Setter → Option α} (h : OneFamily give)
    {setter : Setter} (hsome : (give setter).isSome = true) (setters : List Setter) :
    (setter.family.among setters).filterMap give = setters.filterMap give := by
  unfold Family.among
  rw [List.filterMap_filter]
  refine congrArg (List.filterMap · setters) (funext fun other => ?_)
  by_cases hother : (give other).isSome = true
  · simp [h other setter hother hsome]
  · simp [Option.not_isSome_iff_eq_none.mp hother]

/-- The usage that is stored. -/
theorem oneFamily_usage? : OneFamily usage? := by
  intro first second hfirst hsecond
  obtain ⟨_, hfirst⟩ := Option.isSome_iff_exists.mp hfirst
  obtain ⟨_, hsecond⟩ := Option.isSome_iff_exists.mp hsecond
  rw [family_of_usage? hfirst, family_of_usage? hsecond]

/-- The list of calls that is recorded, if there are any. -/
theorem oneFamily_calls : OneFamily fun setter =>
    if setter.calls.isEmpty then none else some setter.calls := by
  have hresponse : ∀ setter : Setter,
      (if setter.calls.isEmpty then none else some setter.calls).isSome = true →
      setter.family = .response := by
    intro setter h
    refine family_of_calls fun hnil => ?_
    rw [hnil] at h
    cases h
  intro first second hfirst hsecond
  rw [hresponse first hfirst, hresponse second hsecond]

/-- The value that is shown under a name. -/
theorem oneFamily_shown? (span : Span) (name : String) :
    OneFamily fun setter => shown? (span.record setter).signals name := by
  intro first second hfirst hsecond
  obtain ⟨_, hfirst⟩ := Option.isSome_iff_exists.mp hfirst
  obtain ⟨_, hsecond⟩ := Option.isSome_iff_exists.mp hsecond
  obtain ⟨key, rfl, hkey⟩ := exists_of_shown? hfirst
  obtain ⟨other, hname, hother⟩ := exists_of_shown? hsecond
  -- no two keys have one name, so it is one key, and its family is that of both
  rw [AttrKey.text_injective hname] at hother
  exact Option.some.inj <|
    (AttrKey.family?_of_mem_record hkey).symm.trans (AttrKey.family?_of_mem_record hother)

end Setter

/-- **Setters have the same last words** if, of whatever one family alone gives,
the last that they give is the same. -/
def SameLast (first second : List Setter) : Prop :=
  ∀ {α : Type} (give : Setter → Option α), Setter.OneFamily give →
    (first.filterMap give).getLast? = (second.filterMap give).getLast?

namespace SameLast

/-- **Setters that agree family by family** have the same last words. -/
theorem of_families {first second : List Setter}
    (h : ∀ family : Family, family.among first = family.among second) :
    SameLast first second := by
  intro α give hgive
  by_cases hsome : ∃ setter, (give setter).isSome = true
  · obtain ⟨setter, hsetter⟩ := hsome
    rw [← hgive.filterMap_among hsetter first, ← hgive.filterMap_among hsetter second, h]
  · have hnone : ∀ setters : List Setter, setters.filterMap give = [] := fun setters =>
      List.filterMap_eq_nil_iff.mpr fun setter _ =>
        Option.not_isSome_iff_eq_none.mp fun hsetter => hsome ⟨setter, hsetter⟩
    rw [hnone, hnone]

/-- **Setters of different families may change places.** -/
theorem swap {first second : Setter} (h : first.family ≠ second.family) :
    SameLast [first, second] [second, first] := by
  refine of_families fun family => ?_
  unfold Family.among
  by_cases hfirst : first.family = family
  · have hsecond : second.family ≠ family := fun hsecond => h (hfirst.trans hsecond.symm)
    simp [hfirst, hsecond]
  · simp [hfirst, List.filter_cons]

/-- **A setter has one last word**, however often it is repeated. -/
theorem twice (setter : Setter) : SameLast [setter, setter] [setter] := by
  intro α give _
  cases h : give setter <;> simp [h]

end SameLast

/-! ## Turns that set -/

/-- The setter that an operation is, if it is one. -/
def SpanOp.setter? : SpanOp → Option Setter
  | .set setter => some setter
  | _ => none

/-- The setters among turns, in their order. -/
def settersOf (turns : List SpanTurn) : List Setter :=
  turns.filterMap fun turn => turn.op.setter?

/-- **A turn that leaves a span open, while its handle records.** -/
structure SpanTurn.Sets (turn : SpanTurn) : Prop where
  recording : turn.recording = true
  outcome : turn.op.outcome? = none

/-- A setter as a turn, while the handle records. -/
def SpanTurn.setting (moment : Moment) (setter : Setter) : SpanTurn := ⟨true, moment, .set setter⟩

theorem SpanTurn.sets_setting (moment : Moment) (setter : Setter) :
    (setting moment setter).Sets := ⟨rfl, rfl⟩

namespace Span

/-- **Turns that leave a span open come to their setters.** -/
theorem run_of_sets {span : Span} (hopen : span.isOpen = true) {turns : List SpanTurn}
    (h : ∀ turn ∈ turns, turn.Sets) :
    (span.run turns).span = (span.setAll true (settersOf turns)).span
      ∧ (span.run turns).signals = (span.setAll true (settersOf turns)).signals := by
  induction turns generalizing span with
  | nil => exact ⟨rfl, rfl⟩
  | cons turn turns ih =>
    obtain ⟨recording, now, op⟩ := turn
    obtain ⟨hturn, hturns⟩ := List.forall_mem_cons.mp h
    obtain rfl : recording = true := hturn.recording
    cases op with
    | set setter =>
      obtain ⟨hspan, hsignals⟩ := ih ((span.isOpen_set true setter).trans hopen) hturns
      show _ = (span.setAll true (setter :: settersOf turns)).span
        ∧ _ = (span.setAll true (setter :: settersOf turns)).signals
      rw [setAll_cons]
      exact ⟨hspan, congrArg (_ ++ ·) hsignals⟩
    | observe outcome =>
      cases outcome with
      | ok => exact ih hopen hturns
      | error failure => cases hturn.outcome
    | _ => cases hturn.outcome

/-- Turns that leave a span open answer nothing and book nothing. -/
theorem silent_of_sets (span : Span) {turns : List SpanTurn} (h : ∀ turn ∈ turns, turn.Sets) :
    (span.run turns).answers.filterMap id = []
      ∧ (span.run turns).signals.filterMap Signal.sample? = [] := by
  induction turns generalizing span with
  | nil => exact ⟨rfl, rfl⟩
  | cons turn turns ih =>
    obtain ⟨hturn, hturns⟩ := List.forall_mem_cons.mp h
    obtain ⟨hanswer, -, hsetting⟩ :=
      step_leaves_open hturn.outcome span turn.recording turn.moment
    obtain ⟨hanswers, hsamples⟩ := ih (span.step turn.recording turn.moment turn.op).span hturns
    rw [run_cons, hanswer, List.filterMap_cons_none rfl, List.filterMap_append,
      samples_interim fun signal hs => Signal.isInterim_of_isSetting (hsetting signal hs)]
    exact ⟨hanswers, hsamples⟩

end Span

/-! ## Runs that come to the same -/

/-- **Two runs come to the same**, behind what was sent before them: they leave
the same span, the same values under every name, and they have answered the
same summaries and booked the same samples. -/
structure SpanRun.SameAs (sent : List Signal) (first second : SpanRun) : Prop where
  span : first.span = second.span
  shown : ∀ name : String,
    shown? (sent ++ first.signals) name = shown? (sent ++ second.signals) name
  summaries : first.answers.filterMap id = second.answers.filterMap id
  samples : first.signals.filterMap Signal.sample? = second.signals.filterMap Signal.sample?

namespace Span

variable {span : Span} {first second : List SpanTurn}

/-- **Runs that come to the same may go on in the same way.** -/
theorem sameAs_run_append {sent : List Signal}
    (h : (span.run first).SameAs sent (span.run second)) (rest : List SpanTurn) :
    (span.run (first ++ rest)).SameAs sent (span.run (second ++ rest)) := by
  rw [run_append, run_append, ← h.span]
  refine ⟨rfl, fun name => ?_, ?_, ?_⟩
  · rw [← List.append_assoc, ← List.append_assoc, shown?_append, shown?_append (sent ++ _), h.shown]
  · rw [List.filterMap_append, List.filterMap_append, h.summaries]
  · rw [List.filterMap_append, List.filterMap_append, h.samples]

/-- **Turns whose setters have the same last words come to the same.** -/
theorem sameAs_run (hopen : span.isOpen = true) (hfirst : ∀ turn ∈ first, turn.Sets)
    (hsecond : ∀ turn ∈ second, turn.Sets) (h : SameLast (settersOf first) (settersOf second))
    (sent : List Signal) (rest : List SpanTurn) :
    (span.run (first ++ rest)).SameAs sent (span.run (second ++ rest)) := by
  obtain ⟨hspan, hsignals⟩ := run_of_sets hopen hfirst
  obtain ⟨hspan', hsignals'⟩ := run_of_sets hopen hsecond
  obtain ⟨hanswers, hsamples⟩ := span.silent_of_sets hfirst
  obtain ⟨hanswers', hsamples'⟩ := span.silent_of_sets hsecond
  refine sameAs_run_append ⟨?_, fun name => ?_, ?_, ?_⟩ rest
  · have hlists : (recordedLists (settersOf first)).getLast?
        = (recordedLists (settersOf second)).getLast? := by
      rw [← List.filterMap_some (l := recordedLists (settersOf first)),
        ← List.filterMap_some (l := recordedLists (settersOf second)), filterMap_recordedLists,
        filterMap_recordedLists]
      exact h _ Setter.oneFamily_calls
    rw [hspan, hspan', span_setAll hopen, span_setAll hopen, h _ Setter.oneFamily_usage?, hlists]
  · rw [hsignals, hsignals', shown?_append, shown?_append, shown?_setAll hopen,
      shown?_setAll hopen, h _ (Setter.oneFamily_shown? span name)]
  · rw [hanswers, hanswers']
  · rw [hsamples, hsamples']

/-- **The order of setters counts within a family and nowhere else.** On an open
span whose handle records, whatever was sent before and whatever turns come
behind: two setters of different families come to the same in either order; so
do turns whose setters agree family by family; and a setter comes to the same
as the same setter twice. -/
theorem setters_reorder {span : Span} (hopen : span.isOpen = true) (sent : List Signal)
    (rest : List SpanTurn) :
    (∀ (first second : Setter) (now later : Moment), first.family ≠ second.family →
      (span.run ([.setting now first, .setting later second] ++ rest)).SameAs sent
        (span.run ([.setting now second, .setting later first] ++ rest)))
    ∧ (∀ first second : List SpanTurn,
        (∀ turn ∈ first, turn.Sets) → (∀ turn ∈ second, turn.Sets) →
        (∀ family : Family,
          family.among (settersOf first) = family.among (settersOf second)) →
        (span.run (first ++ rest)).SameAs sent (span.run (second ++ rest)))
    ∧ ∀ (setter : Setter) (now later : Moment),
        (span.run ([.setting now setter, .setting later setter] ++ rest)).SameAs sent
          (span.run ([.setting now setter] ++ rest)) := by
  refine ⟨fun first second now later h => ?_, fun first second hfirst hsecond h => ?_,
    fun setter now later => ?_⟩
  · exact sameAs_run hopen (by simp [SpanTurn.sets_setting]) (by simp [SpanTurn.sets_setting])
      (SameLast.swap h) sent rest
  · exact sameAs_run hopen hfirst hsecond (SameLast.of_families h) sent rest
  · exact sameAs_run hopen (by simp [SpanTurn.sets_setting]) (by simp [SpanTurn.sets_setting])
      (SameLast.twice setter) sent rest

/-- Calls, usage and a text in two orders that keep the calls before the
text, and the usage twice: the span that is closed is the same. -/
theorem setters_reorder_usage_late :
    let span := ((Instrumentor.ofConfig {}).start "gpt" "openai" none ⟨0⟩).span
    let calls : Setter := .toolCalls [.ofFunction "search" "\x7b\x7d"]
    let text : Setter := .output (some "found") none
    let usage : Setter := .usage ⟨1, 2, 3⟩
    let close : List SpanTurn := [⟨false, ⟨9⟩, .close⟩]
    span.isOpen = true ∧ calls.family ≠ usage.family
      ∧ (span.run ([.setting ⟨1⟩ calls, .setting ⟨2⟩ usage] ++ close)).SameAs []
        (span.run ([.setting ⟨1⟩ usage, .setting ⟨2⟩ calls] ++ close))
      ∧ (span.run ([.setting ⟨1⟩ usage, .setting ⟨2⟩ calls, .setting ⟨3⟩ text] ++ close)).SameAs []
        (span.run ([.setting ⟨1⟩ calls, .setting ⟨2⟩ text, .setting ⟨3⟩ usage] ++ close))
      ∧ (span.run ([.setting ⟨1⟩ usage, .setting ⟨2⟩ usage] ++ close)).SameAs []
        (span.run ([.setting ⟨1⟩ usage] ++ close)) := by
  intro span calls text usage close
  have hopen : span.isOpen = true := rfl
  have hfamily : calls.family ≠ usage.family := by decide
  obtain ⟨hswap, hreorder, htwice⟩ := setters_reorder hopen [] close
  refine ⟨hopen, hfamily, hswap calls usage ⟨1⟩ ⟨2⟩ hfamily, ?_, htwice usage ⟨1⟩ ⟨2⟩⟩
  refine hreorder _ _ (by simp [SpanTurn.sets_setting]) (by simp [SpanTurn.sets_setting])
    fun family => ?_
  cases family <;> rfl

end Span
end CallScope
