import CallScope.Proofs.ClosedOnce
import CallScope.Proofs.Pool

/-!
# Limits only shorten what is shown

A span looks at its limits for one purpose, which is to cut what it shows.
What it reads off a payload, keeps, books, logs and reports back never comes
from anything that was cut. So under smaller limits a setter sends what it
sends under larger ones, shortened (`Span.record_limitedTo`), and since no
operation lets the limits get into the rest of a span, the same holds of any
number of spans over any events (`Pool.LimitedTo.run`).

A response in particular is searched for tool calls as a whole, whatever is
shown of it (`Pool.LimitedTo.sameBesideText`).
-/

namespace CallScope

namespace Span

/-! ## Setters -/

/-- What a setter leads to under smaller limits. -/
def Recorded.shorten (limits : Limits) (done : Recorded) : Recorded :=
  ⟨done.span.limitedTo limits, done.signals.filterMap (Signal.shorten limits)⟩

/-- The attributes of one call, shortened. -/
theorem shorten_callAttributes {limits others : Limits} (h : limits.Within others) (index : Nat)
    (call : CanonicalCall) :
    (callAttributes others index call).filterMap (Signal.shorten limits)
      = if index < limits.indexedToolCalls.toNat then callAttributes limits index call
        else [] := by
  have hname := Signal.shorten_attribute limits (.toolCallName index)
  have harguments := Signal.shorten_attribute limits (.toolCallArguments index)
  simp only [AttrKey.isWithin, decide_eq_true_eq] at hname harguments
  unfold callAttributes
  split
  · rename_i hlt
    rw [List.filterMap_cons_some ((hname _).trans (if_pos hlt))]
    cases call.arguments with
    | none => rfl
    | some arguments =>
      show _ :: List.filterMap _ [Signal.attribute _ _] = _ :: [Signal.attribute _ _]
      rw [List.filterMap_cons_some ((harguments _).trans (if_pos hlt)), List.filterMap_nil]
      show _ :: [Signal.attribute _ (.text (Text.excerpt _ _))] = _
      rw [Text.excerpt_of_le h.toolArgumentChars]
      rfl
  · rename_i hlt
    refine List.filterMap_eq_nil_iff.mpr fun signal hs => ?_
    rcases List.mem_cons.mp hs with rfl | hs
    · exact (hname _).trans (if_neg hlt)
    · obtain ⟨arguments, -, rfl⟩ := Option.map_eq_some_iff.mp (Option.mem_toList.mp hs)
      exact (harguments _).trans (if_neg hlt)

/-- **What is sent of calls, shortened**, is what is sent of them under the
smaller limits. -/
theorem shorten_callSignals {limits others : Limits} (h : limits.Within others)
    (calls : List (Nat × OpenAiCall)) :
    (callSignals others calls).filterMap (Signal.shorten limits) = callSignals limits calls := by
  have hindexed : limits.indexedToolCalls.toNat ≤ others.indexedToolCalls.toNat :=
    UInt64.le_iff_toNat_le.mp h.indexedToolCalls
  unfold callSignals indexedAttributes
  rw [List.filterMap_append, List.filterMap_flatMap]
  refine congrArg (· ++ _) (congrArg (List.flatMap · _) (funext fun entry => ?_))
  by_cases hlt : entry.1 < limits.indexedToolCalls.toNat
  · rw [if_pos (Nat.lt_of_lt_of_le hlt hindexed), if_pos hlt, shorten_callAttributes h,
      if_pos hlt]
  · rw [if_neg hlt]
    split
    · rw [shorten_callAttributes h, if_neg hlt]
    · rfl

/-- **A setter under smaller limits sends the same, shortened**, and keeps the
same. -/
theorem record_limitedTo {span : Span} {limits : Limits} (h : limits.Within span.limits)
    (setter : Setter) :
    (span.limitedTo limits).record setter = (span.record setter).shorten limits := by
  obtain ⟨asides, heq⟩ := record_eq setter
  have husage : ((setter.usage?.map usageSignals).getD []).filterMap (Signal.shorten limits)
      = (setter.usage?.map usageSignals).getD [] := by
    cases setter.usage? <;> rfl
  have hcalls :
      (if setter.calls.isEmpty then [] else callSignals span.limits setter.calls).filterMap
        (Signal.shorten limits)
      = if setter.calls.isEmpty then [] else callSignals limits setter.calls := by
    split
    · rfl
    · exact shorten_callSignals h _
  rw [heq, heq]
  unfold Recorded.shorten settingSignals
  dsimp only
  rw [List.filterMap_append, List.filterMap_append, husage, hcalls, asides.shorten span limits h]
  rfl

/-! ## Operations -/

/-- What an operation leads to under smaller limits. -/
def Closed.shorten (limits : Limits) (done : Closed) : Closed :=
  ⟨done.span.limitedTo limits, done.summary, done.signals.filterMap (Signal.shorten limits)⟩

/-- Closing a span is the same under any limits. -/
theorem conclude_limitedTo (span : Span) (limits : Limits) (failure : Option Failure)
    (now : Moment) :
    (span.limitedTo limits).conclude failure now
      = (span.conclude failure now).shorten limits := by
  cases h : span.isOpen with
  | true =>
    have hclosing : (span.closingSignals failure now).filterMap (Signal.shorten limits)
        = span.closingSignals failure now := by
      have hsamples : (span.samples now).filterMap
          (fun sample => Signal.shorten limits (.metric sample))
            = (span.samples now).map .metric := congrFun List.filterMap_eq_map _
      rw [filterMap_closingSignals, hsamples]
      unfold closingSignals
      rw [List.append_assoc]
      cases failure <;> rfl
    rw [conclude_of_open (show (span.limitedTo limits).isOpen = true from h),
      conclude_of_open h]
    unfold Closed.shorten
    dsimp only
    rw [hclosing]
    rfl
  | false =>
    rw [conclude_of_closed (show (span.limitedTo limits).isOpen = false from h),
      conclude_of_closed h]
    rfl

/-- **An operation under smaller limits sends the same, shortened.** -/
theorem step_limitedTo {span : Span} {limits : Limits} (h : limits.Within span.limits)
    (recording : Bool) (now : Moment) (op : SpanOp) :
    (span.limitedTo limits).step recording now op
      = (span.step recording now op).shorten limits := by
  cases hop : op.outcome? with
  | some failure =>
    rw [step_of_outcome hop, step_of_outcome hop]
    exact span.conclude_limitedTo limits failure now
  | none =>
    cases op with
    | set setter =>
      have hset : (span.limitedTo limits).set recording setter
          = (span.set recording setter).shorten limits := by
        rw [set_eq, set_eq]
        show (if span.isOpen && recording then _ else _) = (whenActive _ _ _).shorten limits
        unfold whenActive
        split
        · exact record_limitedTo h setter
        · rfl
      show Closed.mk _ none _ = _
      rw [hset]
      rfl
    | observe outcome =>
      cases outcome with
      | ok => rfl
      | error error => cases hop
    | _ => cases hop

end Span

/-! ## Acts -/

/-- What acts lead to under smaller limits. -/
def Acted.shorten (limits : Limits) (done : Acted) : Acted :=
  ⟨done.held.map (Span.limitedTo limits), done.answers,
    done.signals.filterMap (Signal.shorten limits)⟩

namespace Instrumentor

/-- An instrumentor under other limits. -/
def limitedTo (limits : Limits) (inst : Instrumentor) : Instrumentor := { inst with limits }

/-- What is sent on opening a span is sent under any limits. -/
theorem shorten_signals_start (inst : Instrumentor) (limits : Limits) (model provider : String)
    (operation : Option String) (now : Moment) :
    (inst.start model provider operation now).signals.filterMap (Signal.shorten limits)
      = (inst.start model provider operation now).signals := by
  obtain ⟨warnings, hwarnings, hsignals⟩ := inst.signals_start model provider operation now
  have hkept : warnings.filterMap (Signal.shorten limits) = warnings := by
    clear hsignals
    induction warnings with
    | nil => rfl
    | cons warning warnings ih =>
      obtain ⟨message, fields, rfl⟩ := hwarnings warning List.mem_cons_self
      exact congrArg (_ :: ·) (ih fun signal hs => hwarnings signal (List.mem_cons_of_mem _ hs))
  rw [hsignals, List.filterMap_append, hkept]
  rfl

/-- **An act under smaller limits sends the same, shortened.** -/
theorem act_limitedTo (inst : Instrumentor) {limits : Limits} (now : Moment) (act : Act)
    {held : Option Span} (h : ∀ span, held = some span → limits.Within span.limits) :
    (inst.limitedTo limits).act now act (held.map (Span.limitedTo limits))
      = (inst.act now act held).shorten limits := by
  cases held with
  | none =>
    cases act with
    | start model provider operation =>
      show Acted.mk _ [] _ = ⟨_, [], List.filterMap _ (inst.start _ _ _ now).signals⟩
      rw [shorten_signals_start]
      rfl
    | _ => rfl
  | some span =>
    cases act with
    | start model provider operation => rfl
    | turn recording op =>
      show Acted.mk (some ((span.limitedTo limits).step recording now op).span)
        [((span.limitedTo limits).step recording now op).summary]
        ((span.limitedTo limits).step recording now op).signals = _
      rw [Span.step_limitedTo (h span rfl)]
      rfl
    | drop panicking =>
      show Acted.mk (some ((span.limitedTo limits).conclude _ now).span) []
        ((span.limitedTo limits).conclude _ now).signals = _
      rw [Span.conclude_limitedTo]
      rfl

/-- No act lets a span out of its limits. -/
theorem within_act {inst : Instrumentor} {limits : Limits} (h : limits.Within inst.limits)
    (now : Moment) (act : Act) {held : Option Span}
    (hheld : ∀ span, held = some span → limits.Within span.limits) :
    ∀ span, (inst.act now act held).held = some span → limits.Within span.limits := by
  intro span hspan
  cases held with
  | none =>
    cases act with
    | start model provider operation =>
      cases hspan
      exact h
    | _ => cases hspan
  | some before =>
    have hcontinues : before.Continues span := by
      cases act with
      | start model provider operation =>
        cases hspan
        exact .refl _
      | turn recording op =>
        cases hspan
        exact before.continues_step recording now op
      | drop panicking =>
        cases hspan
        exact before.continues_conclude _ now
    rw [hcontinues.limits]
    exact hheld before rfl

end Instrumentor

/-! ## What is seen of a run -/

/-- A partial function beside a number. -/
def tagged? {α β : Type} (f : α → Option β) (entry : Nat × α) : Option (Nat × β) :=
  (f entry.2).map (entry.1, ·)

/-- A view of a view of something tagged. -/
theorem filterMap_tagged? {α β γ : Type} (f : α → Option β) (g : β → Option γ)
    (entries : List (Nat × α)) :
    (entries.filterMap (tagged? f)).filterMap (tagged? g)
      = entries.filterMap (tagged? fun x => (f x).bind g) := by
  rw [List.filterMap_filterMap]
  refine congrArg (List.filterMap · entries) (funext fun entry => ?_)
  show Option.bind (Option.map _ (f entry.2)) _ = Option.map _ ((f entry.2).bind g)
  cases f entry.2 <;> rfl

/-- A view of what is tagged with one number. -/
theorem filterMap_tagged?_map_pair {α β : Type} (f : α → Option β) (n : Nat) (xs : List α) :
    (xs.map (n, ·)).filterMap (tagged? f) = (xs.filterMap f).map (n, ·) := by
  rw [List.filterMap_map, List.map_filterMap]
  rfl

/-- **What is seen of the signals of a run**, each with the number of its
span. -/
def PoolRun.view {α : Type} (run : PoolRun) (f : Signal → Option α) : List (Nat × α) :=
  run.signals.filterMap (tagged? f)

/-- What is seen alike is alike in whatever is seen of it. -/
theorem PoolRun.view_congr {α β : Type} {first second : PoolRun} {f f' : Signal → Option α}
    (h : first.view f = second.view f') (g : α → Option β) :
    first.view (fun signal => (f signal).bind g)
      = second.view fun signal => (f' signal).bind g := by
  unfold view
  rw [← filterMap_tagged?, ← filterMap_tagged?]
  exact congrArg (List.filterMap (tagged? g)) h

/-! ## Pools -/

/-- An event without its moment. -/
def Event.timeless (event : Event) : Event := { event with moment := .epoch }

/-- **Events at the moments that a clock shows.** -/
def retimed (clock : Nat → Moment) (events : List Event) : List Event :=
  events.mapIdx fun i event => { event with moment := clock i }

theorem timeless_retimed (clock : Nat → Moment) (events : List Event) :
    (retimed clock events).map Event.timeless = events.map Event.timeless := by
  unfold retimed
  induction events generalizing clock with
  | nil => rfl
  | cons event events ih =>
    rw [List.mapIdx_cons, List.map_cons, List.map_cons, ih fun i => clock (i + 1)]
    rfl

namespace Pool

/-- **A pool is another one under smaller limits**, timing aside. -/
structure LimitedTo (limits : Limits) (first second : Pool) : Prop where
  instrumentor : first.instrumentor = second.instrumentor.limitedTo limits
  within : limits.Within second.instrumentor.limits
  spans : ∀ n, (first.find? n).map Span.timeless
    = ((second.find? n).map (Span.limitedTo limits)).map Span.timeless
  spansWithin : ∀ n span, second.find? n = some span → limits.Within span.limits

/-- **An event under smaller limits** leads to the same, shortened, and leaves
the pools as much alike. -/
theorem LimitedTo.after {limits : Limits} {first second : Pool}
    (h : LimitedTo limits first second) {x y : Event} (hsame : x.timeless = y.timeless) :
    (first.actOf x).timeless = ((second.actOf y).shorten limits).timeless
      ∧ LimitedTo limits (first.after x) (second.after y) := by
  obtain ⟨number, now, act⟩ := x
  obtain ⟨number', other, act'⟩ := y
  obtain ⟨rfl, -, rfl⟩ := Event.mk.inj hsame
  have hacted : (first.actOf ⟨number, now, act⟩).timeless
      = ((second.actOf ⟨number, other, act⟩).shorten limits).timeless := by
    unfold actOf
    dsimp only
    rw [h.instrumentor, ← second.instrumentor.act_limitedTo other act (h.spansWithin number)]
    exact Instrumentor.act_congr _ act now other (h.spans number)
  refine ⟨hacted, ?_, ?_, fun n => ?_, fun n span hspan => ?_⟩
  · rw [instrumentor_after, instrumentor_after]
    exact h.instrumentor
  · rw [instrumentor_after]
    exact h.within
  · rw [find?_after, find?_after]
    dsimp only
    split
    · exact congrArg Acted.held hacted
    · exact h.spans n
  · rw [find?_after] at hspan
    dsimp only at hspan
    split at hspan
    · exact Instrumentor.within_act h.within other act (h.spansWithin number) span hspan
    · exact h.spansWithin n span hspan

/-- **Events under smaller limits** lead to the same, shortened, whatever
their moments. -/
theorem LimitedTo.run {limits : Limits} {first second : Pool} (h : LimitedTo limits first second)
    {xs ys : List Event} (hevents : xs.map Event.timeless = ys.map Event.timeless) :
    LimitedTo limits (first.run xs).pool (second.run ys).pool
      ∧ (first.run xs).answers.map (Prod.map id (Option.map CallSummary.timeless))
        = (second.run ys).answers.map (Prod.map id (Option.map CallSummary.timeless))
      ∧ (first.run xs).view (fun signal => some signal.timeless)
        = (second.run ys).view fun signal => (signal.shorten limits).map Signal.timeless := by
  induction xs generalizing ys first second with
  | nil =>
    cases ys with
    | cons y ys => cases hevents
    | nil => exact ⟨h, rfl, rfl⟩
  | cons x xs ih =>
    cases ys with
    | nil => cases hevents
    | cons y ys =>
      obtain ⟨hsame, hrest⟩ := List.cons.inj hevents
      obtain ⟨hacted, hafter⟩ := h.after hsame
      obtain ⟨hlast, hanswers, hsignals⟩ := ih hafter hrest
      obtain ⟨-, hanswered, hsent⟩ := Acted.mk.inj hacted
      have hnumber : x.number = y.number := (Event.mk.inj hsame).1
      have hfirst : ∀ n : Nat, ((first.actOf x).answers.map (n, ·)).map
            (Prod.map id (Option.map CallSummary.timeless))
          = ((second.actOf y).answers.map (n, ·)).map
            (Prod.map id (Option.map CallSummary.timeless)) := fun n => by
        have hpairs := congrArg (List.map (n, ·)) hanswered
        rw [List.map_map, List.map_map] at hpairs ⊢
        exact hpairs
      have hshown : (first.actOf x).signals.filterMap (fun signal => some signal.timeless)
          = (second.actOf y).signals.filterMap fun signal =>
            (signal.shorten limits).map Signal.timeless := by
        rw [← List.map_filterMap]
        exact (congrFun List.filterMap_eq_map _).trans hsent
      refine ⟨hlast, ?_, ?_⟩
      · unfold Pool.run
        dsimp only
        rw [List.map_append, List.map_append, hanswers, hnumber, hfirst]
      · unfold PoolRun.view at hsignals ⊢
        unfold Pool.run
        dsimp only
        rw [List.filterMap_append, List.filterMap_append, hsignals, filterMap_tagged?_map_pair,
          filterMap_tagged?_map_pair, hshown, hnumber]

end Pool

/-! ## Two runs under different limits -/

/-- **A run is another one under smaller limits**: nothing but what is shown
differs, and that is shortened. -/
structure Shortened (limits : Limits) (first second : PoolRun) : Prop where
  /-- The spans are the same, but for the limits they hold. -/
  spans : ∀ n, (first.pool.find? n).map Span.timeless
    = (second.pool.find? n).map fun span => (span.limitedTo limits).timeless
  /-- The operations answer the same. -/
  answers : first.answers.map (Prod.map id (Option.map CallSummary.timeless))
    = second.answers.map (Prod.map id (Option.map CallSummary.timeless))
  /-- What the handles are told is shortened. -/
  calls : first.view Signal.call?
    = (second.view Signal.call?).filterMap (tagged? (HandleCall.shorten limits))
  /-- The handles are told the same statuses. -/
  statuses : first.view (fun signal => signal.call?.bind HandleCall.status?)
    = second.view fun signal => signal.call?.bind HandleCall.status?
  /-- The same is booked. -/
  samples : first.view (fun signal => signal.sample?.map Sample.timeless)
    = second.view fun signal => signal.sample?.map Sample.timeless
  /-- The same is logged. -/
  logs : first.view Signal.log? = second.view Signal.log?

/-- Whether a call shows a response text. -/
def HandleCall.isResponseText : HandleCall → Bool
  | .setAttribute .outputMessage _ => true
  | _ => false

/-- What a handle is told beside response texts. -/
def Signal.callBesideText? (signal : Signal) : Option HandleCall :=
  signal.call?.filter fun call => !call.isResponseText

/-- **Two runs agree on everything but the response texts they show**, the tool
calls recovered from these texts among it. -/
structure SameBesideText (first second : PoolRun) : Prop where
  toolNames : ∀ n, (first.pool.find? n).map Span.toolNames
    = (second.pool.find? n).map Span.toolNames
  calls : first.view Signal.callBesideText? = second.view Signal.callBesideText?

namespace Pool

/-- A pool that nothing has been opened of, under smaller limits. -/
theorem limitedTo_ofConfig {config : Config} {limits : Limits}
    (h : limits.Within config.limits) :
    LimitedTo limits (ofConfig { config with limits }) (ofConfig config) :=
  ⟨rfl, h, fun _ => rfl, fun _ _ hspan => by cases hspan⟩

/-- **What is seen of a run** that no time enters into is seen of the other run,
shortened. -/
theorem LimitedTo.view_run {limits : Limits} {first second : Pool}
    (h : LimitedTo limits first second) {xs ys : List Event}
    (hevents : xs.map Event.timeless = ys.map Event.timeless) {α : Type}
    (look : Signal → Option α) {mine yours : Signal → Option α}
    (hmine : ∀ signal : Signal, mine signal = look signal.timeless)
    (hyours : ∀ signal : Signal,
      yours signal = ((signal.shorten limits).map Signal.timeless).bind look) :
    (first.run xs).view mine = (second.run ys).view yours := by
  rw [show mine = fun signal => (some signal.timeless).bind look from funext hmine,
    show yours = _ from funext hyours]
  exact PoolRun.view_congr (h.run hevents).2.2 look

/-- **Under smaller limits a run is the same, shortened.** -/
theorem LimitedTo.shortened {limits : Limits} {first second : Pool}
    (h : LimitedTo limits first second) {xs ys : List Event}
    (hevents : xs.map Event.timeless = ys.map Event.timeless) :
    Shortened limits (first.run xs) (second.run ys) := by
  obtain ⟨hlast, hanswers, -⟩ := h.run hevents
  refine ⟨fun n => ?_, hanswers, ?_, ?_, ?_, ?_⟩
  · rw [hlast.spans, Option.map_map]
    rfl
  · unfold PoolRun.view
    rw [filterMap_tagged?]
    refine h.view_run hevents Signal.call? (fun signal => ?_) fun signal => ?_
    · cases signal <;> rfl
    · cases signal with
      | handle call =>
        show call.shorten limits = Option.bind (Option.map _ (Option.map _ _)) _
        cases call.shorten limits <;> rfl
      | _ => rfl
  · refine h.view_run hevents (fun signal => signal.call?.bind HandleCall.status?)
      (fun signal => ?_) fun signal => ?_
    · cases signal <;> rfl
    · cases signal with
      | handle call =>
        cases call with
        | setAttribute key value =>
          show none = Option.bind (Option.map _ (Signal.shorten limits (.attribute key value))) _
          rw [Signal.shorten_attribute]
          split <;> rfl
        | _ => rfl
      | _ => rfl
  · refine h.view_run hevents Signal.sample? (fun signal => ?_) fun signal => ?_
    · cases signal <;> rfl
    · cases signal with
      | handle call =>
        show none = Option.bind (Option.map _ (Option.map _ _)) _
        cases call.shorten limits <;> rfl
      | _ => rfl
  · refine h.view_run hevents Signal.log? (fun signal => ?_) fun signal => ?_
    · cases signal <;> rfl
    · cases signal with
      | handle call =>
        show none = Option.bind (Option.map _ (Option.map _ _)) _
        cases call.shorten limits <;> rfl
      | _ => rfl

/-- A run shows the same beside response texts if fewer characters of these are
shown. -/
theorem LimitedTo.sameBesideText {chars : UInt64} {first second : Pool}
    (h : LimitedTo { second.instrumentor.limits with outputChars := chars } first second)
    (hself : LimitedTo second.instrumentor.limits second second) {xs ys : List Event}
    (hevents : xs.map Event.timeless = ys.map Event.timeless) :
    SameBesideText (first.run xs) (second.run ys) := by
  refine ⟨fun n => ?_, ?_⟩
  · have hspan := congrArg (Option.map Span.toolNames) ((h.run hevents).1.spans n)
    rw [Option.map_map, Option.map_map, Option.map_map] at hspan
    exact hspan
  · have hkept : ∀ signal : Signal,
        (((signal.shorten { second.instrumentor.limits with outputChars := chars }).map
          Signal.timeless).bind Signal.callBesideText?)
        = ((signal.shorten second.instrumentor.limits).map Signal.timeless).bind
            Signal.callBesideText? := by
      intro signal
      cases signal with
      | handle call =>
        cases call with
        | setAttribute key value => cases key <;> rfl
        | _ => rfl
      | _ => rfl
    have hmine : ∀ signal : Signal,
        signal.callBesideText? = signal.timeless.callBesideText? := fun signal => by
      cases signal <;> rfl
    -- shortening to its own limits is what a run is under already
    rw [h.view_run hevents Signal.callBesideText? hmine fun _ => rfl,
      hself.view_run rfl Signal.callBesideText? hmine fun _ => rfl]
    exact congrArg _ (funext hkept)

/-- **Limits only shorten what is shown.** Under smaller limits, any events on
any spans lead to the same, shortened, at whatever moments. In particular,
which tool calls are recovered from a response text does not depend on how
much of it is shown. -/
theorem run_shortened {config : Config} {limits : Limits} (h : limits.Within config.limits)
    (events : List Event) (clock : Nat → Moment) (chars : UInt64) :
    let second := (ofConfig config).run events
    Shortened limits ((ofConfig { config with limits }).run (retimed clock events)) second
      ∧ SameBesideText
        ((ofConfig { config with limits := { config.limits with outputChars := chars } }).run
          (retimed clock events)) second := by
  intro second
  have hevents := timeless_retimed clock events
  refine ⟨(limitedTo_ofConfig h).shortened hevents, ?_⟩
  let other : Config := { config with limits := { config.limits with outputChars := chars } }
  have hmine := limitedTo_ofConfig (.refl config.limits)
  have hother := limitedTo_ofConfig (.refl other.limits)
  -- one of the two limits is the smaller one
  rcases UInt64.le_total chars config.limits.outputChars with hle | hle
  · have hwithin : other.limits.Within config.limits :=
      ⟨UInt64.le_refl _, hle, UInt64.le_refl _, UInt64.le_refl _⟩
    exact LimitedTo.sameBesideText (limitedTo_ofConfig hwithin) hmine hevents
  · have hwithin : config.limits.Within other.limits :=
      ⟨UInt64.le_refl _, hle, UInt64.le_refl _, UInt64.le_refl _⟩
    have hsecond : LimitedTo
        { (ofConfig other).instrumentor.limits with outputChars := config.limits.outputChars }
        (ofConfig config) (ofConfig other) := limitedTo_ofConfig hwithin
    obtain ⟨hnames, hcalls⟩ := hsecond.sameBesideText hother hevents.symm
    exact ⟨fun n => (hnames n).symm, hcalls.symm⟩

/-- A response of which two characters are shown. -/
theorem run_shortened_response :
    let limits : Limits := ⟨1000, 2, 500, 5⟩
    let events : List Event := [
      ⟨7, ⟨0⟩, .start "gpt" "openai" none⟩,
      ⟨7, ⟨5⟩, .turn true (.set (.output (some "done") none))⟩]
    let first := (ofConfig { limits }).run (retimed Moment.mk events)
    let second := (ofConfig {}).run events
    (limits.Within ({} : Config).limits ∧ Shortened limits first second)
      ∧ (7, .setAttribute .outputMessage (.text "do")) ∈ first.view Signal.call?
      ∧ (7, .setAttribute .outputMessage (.text "done")) ∈ second.view Signal.call? := by
  intro limits events first second
  have hwithin : limits.Within ({} : Config).limits :=
    ⟨by decide, by decide, by decide, by decide⟩
  exact ⟨⟨hwithin, (run_shortened hwithin events Moment.mk 0).1⟩, by decide +kernel,
    by decide +kernel⟩

end Pool
end CallScope
