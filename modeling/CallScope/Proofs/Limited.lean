import CallScope.Span.Setter

/-!
# What is shown under smaller limits

The limits bound what is shown of a message, of a response, and of tool
calls. What a handle is told under smaller limits can be read off what it is
told under larger ones: texts are cut shorter, and attributes of calls at
higher positions are left out (`HandleCall.shorten`). Everything else a
handle is told is the same, and so is whatever goes to the metrics or to the
log.
-/

namespace CallScope

/-- Whether the position in a key is below a bound; keys without a position
are within any. -/
def AttrKey.isWithin (bound : Nat) : AttrKey → Bool
  | .toolCallName index | .toolCallArguments index => decide (index < bound)
  | _ => true

/-- **How many characters are shown** of a text under a key, if there is a
limit. -/
def AttrKey.charLimit? (limits : Limits) : AttrKey → Option Nat
  | .inputMessage => some limits.inputChars.toNat
  | .outputMessage => some limits.outputChars.toNat
  | .toolCallArguments _ => some limits.toolArgumentChars.toNat
  | _ => none

/-- A value of which so many characters are shown, all if there is no
limit. -/
def AttrValue.shorten : Option Nat → AttrValue → AttrValue
  | some limit, .text s => .text (Text.excerpt limit s)
  | _, value => value

/-- **What is left of a call under smaller limits**: texts are cut, and
attributes at a position beyond the limit are gone. -/
def HandleCall.shorten (limits : Limits) : HandleCall → Option HandleCall
  | .setAttribute key value =>
    if key.isWithin limits.indexedToolCalls.toNat then
      some (.setAttribute key (value.shorten (key.charLimit? limits)))
    else none
  | call => some call

/-- What is left of a signal under smaller limits; they concern the handle
only. -/
def Signal.shorten (limits : Limits) : Signal → Option Signal
  | .handle call => (call.shorten limits).map .handle
  | signal => some signal

theorem Signal.shorten_attribute (limits : Limits) (key : AttrKey) (value : AttrValue) :
    Signal.shorten limits (.attribute key value)
      = if key.isWithin limits.indexedToolCalls.toNat then
          some (.attribute key (value.shorten (key.charLimit? limits)))
        else none := by
  show Option.map _ (if _ then _ else _) = _
  split <;> rfl

/-- **Every limit is at most another one.** -/
structure Limits.Within (limits others : Limits) : Prop where
  inputChars : limits.inputChars ≤ others.inputChars
  outputChars : limits.outputChars ≤ others.outputChars
  toolArgumentChars : limits.toolArgumentChars ≤ others.toolArgumentChars
  indexedToolCalls : limits.indexedToolCalls ≤ others.indexedToolCalls

theorem Limits.Within.refl (limits : Limits) : limits.Within limits :=
  ⟨UInt64.le_refl _, UInt64.le_refl _, UInt64.le_refl _, UInt64.le_refl _⟩

/-- An excerpt is cut down to a shorter one. -/
theorem Text.excerpt_of_le {limit other : UInt64} (h : limit ≤ other) (s : String) :
    excerpt limit.toNat (excerpt other.toNat s) = excerpt limit.toNat s := by
  rw [excerpt_excerpt, Nat.min_eq_left (UInt64.le_iff_toNat_le.mp h)]

/-- A span under other limits. -/
def Span.limitedTo (limits : Limits) (span : Span) : Span := { span with limits }

end CallScope
