import CallScope.LogFilter.Directive

/-!
# Log filters

A filter says which trace spans are let through. It is a list of directives
with commas between them. Who starts a program may ask for a filter, and that
one wins over the configured one, but only if every directive in it can be read.
Of the configured ones, a directive that cannot be read is ignored. Without any
directive, only errors are let through.

A directive with a span or a field is **dynamic**: it lets through the spans
that it matches whatever its level, as long as some directive reaches the
level of the span at all. Of the other directives that match, the most
specific one decides: the one with the longest target, of those one with a
field before one without, and of those the one whose field comes last. A
dynamic directive that names no span and no value takes part in that too.
-/

namespace CallScope

/-- **A filter**: its directives in order. -/
structure LogFilter where
  directives : List Directive

namespace LogFilter

/-- The filter that lets errors through and nothing else. -/
def errorsOnly : LogFilter := ⟨[⟨.error, none, none, none⟩]⟩

/-- The filter of some directives. -/
def ofDirectives (directives : List Directive) : LogFilter :=
  if directives.isEmpty then errorsOnly else ⟨directives⟩

/-- The texts of the directives in a text. -/
def parts (s : String) : List (List Char) := (s.toList.splitOn ',').filter fun part => !part.isEmpty

/-- The directives that some texts are, those left out that are none. -/
def directivesOf? : List (List Char) → Option (List Directive)
  | [] => some []
  | text :: rest =>
    match Directive.ofText text with
    | .ok directive => (directivesOf? rest).map (directive :: ·)
    | .error .unreadable => directivesOf? rest
    | .error .torn => none

/-- **The filter of a text**, if its directives can be taken apart. -/
def ofText? (s : String) : Option LogFilter := (directivesOf? (parts s)).map ofDirectives

/-- The filter of a text in which every directive can be read, or the trouble
with the first one that cannot. -/
def ofWholeText (s : String) : Except Directive.Trouble LogFilter :=
  ((parts s).mapM Directive.ofText).map ofDirectives

/-- **The filter that holds**, if the directives that decide about it can be
taken apart: the one asked for if it can be read in whole, and the configured
one otherwise. -/
def effective? (asked : Option String) (configured : String) : Option LogFilter :=
  match asked.map ofWholeText with
  | some (.ok filter) => some filter
  | some (.error .torn) => none
  | some (.error .unreadable) | none => ofText? configured

/-- The highest level that any directive reaches; one that asks for a value
may need anything. -/
def ceiling (f : LogFilter) : Nat :=
  f.directives.foldl (fun top d =>
    max top (if d.field.any (·.hasValue) then Verbosity.trace.rank else d.level.rank)) 0

/-- The directive that decides about trace spans where none is dynamic. Of
two that are equally specific the later one replaces the other. -/
def deciding? (f : LogFilter) : Option Directive :=
  let plain := f.directives.filter fun d => d.isStatic && !d.isDynamic
  let fielded := f.directives.filter fun d => d.isStatic && d.isDynamic
  ((plain ++ fielded).filter Directive.meansTarget).foldl (fun best d =>
    match best with
    | none => some d
    | some b => if d.covers b then some d else some b) none

/-- **Whether trace spans are let through**; theirs is the level `info`. -/
def letsSpansThrough (f : LogFilter) : Bool :=
  let info := Verbosity.info.rank
  info ≤ f.ceiling &&
    (f.directives.any (fun d => d.isDynamic && d.meansSpan)
      || f.deciding?.any fun d => info ≤ d.level.rank)

end LogFilter
end CallScope
