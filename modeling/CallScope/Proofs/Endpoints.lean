import Mathlib.Data.List.Forall2
import CallScope.Proofs.Schema

/-!
# Providers and the endpoints that tell them

The provider of an endpoint is that of the first host of the table that occurs in
its URL, wherever it occurs and in whatever case its letters are
(`Provider.ofUrl_of_first`). What stands around a text takes no host away from it,
though it may bring in others, also such as begin in the one and end in the other.
So the first host of a text that is put in a context either remains the first or
gives way to one that stands before it in the table (`Provider.IsFirst.exists_of_mono`).

A span that is opened for an endpoint goes by the identifier of that provider for
all its life (`Instrumentor.lifeAt`): no identifier is blank, and no turn changes
the names that a span keeps.
-/

namespace CallScope

/-! ## The case of letters -/

namespace Text

/-- A capital letter of ASCII, and the same letter as a small one. -/
def IsCapitalOf (capital small : Char) : Prop :=
  'A'.toNat ≤ capital.toNat ∧ capital.toNat ≤ 'Z'.toNat ∧ small.toNat = capital.toNat + 32

/-- **The same character up to the case of ASCII letters.** -/
def SameLetter (c d : Char) : Prop := c = d ∨ IsCapitalOf c d ∨ IsCapitalOf d c

/-- **The same text up to the case of ASCII letters**, character by character. -/
def SameLetters (s t : String) : Prop := List.Forall₂ SameLetter s.toList t.toList

/-- **A text occurs in another** in whatever case of letters. -/
def Occurs (part whole : String) : Prop :=
  ∃ before there after : String, whole = before ++ there ++ after ∧ SameLetters there part

/-- The small letters of ASCII stand 32 places behind the capital ones. -/
theorem toNat_toLower (c : Char) :
    c.toLower.toNat
      = if 'A'.toNat ≤ c.toNat ∧ c.toNat ≤ 'Z'.toNat then c.toNat + 32 else c.toNat := by
  have hcapital : (c.val ≥ 'A'.val ∧ c.val ≤ 'Z'.val)
      ↔ ('A'.toNat ≤ c.toNat ∧ c.toNat ≤ 'Z'.toNat) := Iff.rfl
  unfold Char.toLower
  split
  case isTrue h =>
    have hle : c.toNat ≤ 90 := h.2
    rw [if_pos (hcapital.mp h)]
    show (c.val + 32).toNat = c.toNat + 32
    rw [UInt32.toNat_add]
    exact Nat.mod_eq_of_lt (Nat.lt_of_le_of_lt (Nat.add_le_add_right hle 32) (by decide))
  case isFalse h => rw [if_neg (mt hcapital.mpr h)]

/-- **What is the same in small letters** is the same up to the case of letters. -/
theorem toLower_eq_iff {c d : Char} : c.toLower = d.toLower ↔ SameLetter c d := by
  have hA : 'A'.toNat = 65 := rfl
  have hZ : 'Z'.toNat = 90 := rfl
  unfold SameLetter IsCapitalOf
  rw [← Char.toNat_inj, ← Char.toNat_inj (c := c), toNat_toLower, toNat_toLower]
  split <;> split <;> omega

theorem map_toLower_eq_iff {s t : String} :
    s.toList.map Char.toLower = t.toList.map Char.toLower ↔ SameLetters s t := by
  unfold SameLetters
  rw [← List.forall₂_eq_eq_eq, List.forall₂_map_left_iff, List.forall₂_map_right_iff]
  simp only [toLower_eq_iff]

/-- **To occur in whatever case** is to occur in small letters. -/
theorem occurs_iff {part whole : String} :
    Occurs part whole ↔ part.toList.map Char.toLower <:+: whole.toList.map Char.toLower := by
  constructor
  · rintro ⟨before, there, after, rfl, hsame⟩
    rw [String.toList_append, String.toList_append, List.map_append, List.map_append,
      map_toLower_eq_iff.mpr hsame]
    exact List.infix_append _ _ _
  · rintro ⟨before, after, heq⟩
    obtain ⟨front, tail, hwhole, hfront, -⟩ := List.map_eq_append_iff.mp heq.symm
    obtain ⟨head, there, rfl, -, hthere⟩ := List.map_eq_append_iff.mp hfront
    refine ⟨.ofList head, .ofList there, .ofList tail, ?_, map_toLower_eq_iff.mp ?_⟩
    · rw [← String.toList_inj, String.toList_append, String.toList_append, hwhole]
      simp only [String.toList_ofList]
    · rw [String.toList_ofList, hthere]

/-- **What occurs in a text occurs in any context**, in whatever case. -/
theorem Occurs.in_context {part u u' : String} (h : Occurs part u) (hsame : SameLetters u u')
    (s t : String) : Occurs part (s ++ u' ++ t) := by
  rw [occurs_iff] at h ⊢
  rw [map_toLower_eq_iff.mpr hsame] at h
  rw [String.toList_append, String.toList_append, List.map_append, List.map_append]
  exact h.trans (List.infix_append _ _ _)

end Text

/-! ## The first host -/

namespace Provider

/-- **Searching a text** finds what occurs in it. -/
theorem occursIn_eq_true_iff {part text : List Char} :
    occursIn part text = true ↔ part <:+: text := by
  induction text with
  | nil => rw [occursIn, List.isEmpty_iff, List.infix_nil]
  | cons c rest ih =>
    rw [occursIn, Bool.or_eq_true, List.isPrefixOf_iff_prefix, ih, List.infix_cons_iff]

/-- Hosts are in small letters. -/
theorem toLower_hosts :
    ∀ entry ∈ hosts, entry.1.toList.map Char.toLower = entry.1.toList := by decide

/-- Whether the host of an entry is found in a URL. -/
def isFoundIn (url : String) (entry : String × Provider) : Bool :=
  occursIn entry.1.toList (url.toList.map Char.toLower)

theorem ofUrl_eq (url : String) :
    ofUrl url = ((hosts.find? (isFoundIn url)).map Prod.snd).getD .openAi := rfl

/-- **A host is found** in a URL exactly if it occurs there in whatever case. -/
theorem isFoundIn_iff {entry : String × Provider} (h : entry ∈ hosts) (url : String) :
    isFoundIn url entry = true ↔ Text.Occurs entry.1 url := by
  rw [isFoundIn, occursIn_eq_true_iff, Text.occurs_iff, toLower_hosts entry h]

/-- What is found in a URL does not depend on the case of its letters. -/
theorem isFoundIn_congr {url other : String} (h : Text.SameLetters url other) :
    isFoundIn url = isFoundIn other := by
  funext entry
  rw [isFoundIn, isFoundIn, Text.map_toLower_eq_iff.mpr h]

/-- **The first host that occurs in a text**, by its place in the table. -/
structure IsFirst (url : String) (place : Fin hosts.length) : Prop where
  occurs : Text.Occurs hosts[place].1 url
  none_before : ∀ earlier < place, ¬Text.Occurs hosts[earlier].1 url

/-- **The first entry whose host is found** is the one of the first host. -/
theorem find?_isFoundIn_iff {url : String} {entry : String × Provider} :
    hosts.find? (isFoundIn url) = some entry
      ↔ ∃ place, IsFirst url place ∧ hosts[place] = entry := by
  rw [List.find?_eq_some_iff_getElem]
  constructor
  · rintro ⟨hfound, place, hlt, rfl, hbefore⟩
    refine ⟨⟨place, hlt⟩, ⟨(isFoundIn_iff (List.getElem_mem _) url).mp hfound,
      fun earlier hearlier hoccurs => ?_⟩, rfl⟩
    have hnone := hbefore earlier hearlier
    rw [(isFoundIn_iff (List.getElem_mem _) url).mpr hoccurs] at hnone
    cases hnone
  · rintro ⟨place, hfirst, rfl⟩
    refine ⟨(isFoundIn_iff (List.getElem_mem _) url).mpr hfirst.occurs, place, place.isLt, rfl,
      fun earlier hearlier => ?_⟩
    rw [Bool.not_eq_true', ← Bool.not_eq_true, isFoundIn_iff (List.getElem_mem _)]
    exact hfirst.none_before ⟨earlier, Nat.lt_trans hearlier place.isLt⟩ hearlier

/-- **The provider is that of the first host.** -/
theorem ofUrl_of_first {url : String} {place : Fin hosts.length} (h : IsFirst url place) :
    ofUrl url = hosts[place].2 := by
  rw [ofUrl_eq, find?_isFoundIn_iff.mpr ⟨place, h, rfl⟩]
  rfl

/-- **A text without a host** is taken for OpenAI's. -/
theorem ofUrl_of_no_host {url : String} (h : ∀ entry ∈ hosts, ¬Text.Occurs entry.1 url) :
    ofUrl url = .openAi := by
  have hnone : hosts.find? (isFoundIn url) = none := List.find?_eq_none.mpr
    fun entry hentry hfound => h entry hentry ((isFoundIn_iff hentry url).mp hfound)
  rw [ofUrl_eq, hnone]
  rfl

/-- **If a host occurs, there is a first one.** -/
theorem IsFirst.exists_of_occurs {url : String} {entry : String × Provider} (hentry : entry ∈ hosts)
    (h : Text.Occurs entry.1 url) : ∃ first, IsFirst url first := by
  have hsome : (hosts.find? (isFoundIn url)).isSome = true :=
    List.find?_isSome.mpr ⟨entry, hentry, (isFoundIn_iff hentry url).mpr h⟩
  obtain ⟨found, hfound⟩ := Option.isSome_iff_exists.mp hsome
  obtain ⟨first, hfirst, -⟩ := find?_isFoundIn_iff.mp hfound
  exact ⟨first, hfirst⟩

/-- **The first host does not come later** in a text in which all hosts of another
occur; it is the same one exactly if none occurs that stands before it. -/
theorem IsFirst.exists_of_mono {url larger : String} {first : Fin hosts.length}
    (h : IsFirst url first)
    (hmono : ∀ part, Text.Occurs part url → Text.Occurs part larger) :
    ∃ found ≤ first, IsFirst larger found
      ∧ (found = first ↔ ∀ earlier < first, ¬Text.Occurs hosts[earlier].1 larger) := by
  have hoccurs := hmono _ h.occurs
  obtain ⟨found, hfound⟩ := exists_of_occurs (List.getElem_mem first.isLt) hoccurs
  have hle : found ≤ first := Fin.not_lt.mp fun hlt => hfound.none_before first hlt hoccurs
  refine ⟨found, hle, hfound, fun heq => heq ▸ hfound.none_before, fun hnone => ?_⟩
  exact (Fin.lt_or_eq_of_le hle).resolve_left fun hlt => hnone found hlt hfound.occurs

end Provider

/-! ## Spans for an endpoint -/

/-- No identifier of a provider is blank. -/
theorem Provider.isBlank_name (p : Provider) : Text.isBlank p.name = false := by
  cases p <;> decide

/-- Signals make those calls to the handle that they contain. -/
theorem Signal.mem_calls_iff {call : HandleCall} {signals : List Signal} :
    call ∈ signals.filterMap Signal.call? ↔ Signal.handle call ∈ signals := by
  rw [List.mem_filterMap]
  constructor
  · rintro ⟨signal, hmem, hcall⟩
    cases signal <;> cases hcall
    exact hmem
  · exact fun hmem => ⟨_, hmem, rfl⟩

namespace Span

/-- **A span goes by an identifier of its provider** in whatever it sends. -/
structure GoesBy (name : String) (span : Span) (signals : List Signal) : Prop where
  provider : span.provider = name
  operation : span.operation = "llm." ++ name ++ ".chat"
  /-- The handle is started under the name of the operation, and no other. -/
  started : ∀ operation kind, Signal.handle (.start operation kind) ∈ signals
    ↔ operation = "llm." ++ name ++ ".chat" ∧ kind = .client
  /-- It is told the identifier, and no other. -/
  told : ∀ value, Signal.attribute .provider value ∈ signals ↔ value = .text name
  /-- Every sample is tagged with it. -/
  tagged : ∀ sample ∈ signals.filterMap Signal.sample?, sample.tags? = some ⟨span.model, name⟩
  /-- There are samples to be tagged. -/
  booked : signals.filterMap Signal.sample? ≠ []

/-- After a span was opened, its handle is not started again. -/
theorem start_notMem_run_drop {span : Span} (h : span.isOpen = true) (turns : List SpanTurn)
    (panicking : Bool) (dropped : Moment) (operation : String) (kind : SpanKind) :
    Signal.handle (.start operation kind) ∉ (span.run turns).signals
      ++ ((span.run turns).span.drop panicking dropped).signals := by
  obtain ⟨-, settings, hsettings, heq⟩ := signals_run_drop h turns panicking dropped
  rw [heq]
  intro hmem
  rcases List.mem_append.mp hmem with hmem | hmem
  · exact Bool.noConfusion (hsettings _ hmem)
  · have hcall := Signal.mem_calls_iff.mpr hmem
    rw [calls_closingSignals] at hcall
    cases hfailure : (Ending.ofTurns panicking dropped turns).failure <;>
      simp [hfailure, closingCalls] at hcall

end Span

namespace Instrumentor

/-- **What a span sends in its life follows the schema.** -/
theorem followsSchema_life (inst : Instrumentor) (model provider : String)
    (operation : Option String) (opened : Moment) (turns : List SpanTurn) (panicking : Bool)
    (dropped : Moment) :
    let start := inst.start model provider operation opened
    let run := start.span.run turns
    FollowsSchema inst.limits start.span start.signals
      (run.signals ++ (run.span.drop panicking dropped).signals) := by
  intro start run
  refine inst.followsSchema_of_conforms model provider operation opened fun signal h => ?_
  rcases List.mem_append.mp h with h | h
  · exact start.span.conforms_run turns signal h
  · exact (start.span.continues_run turns).conforms (run.span.conforms_conclude _ dropped signal h)

/-- An identifier that is not blank is kept, and an operation without a name is
named for it. -/
theorem names_start {provider : String} (h : Text.isBlank provider = false) (inst : Instrumentor)
    (model : String) (opened : Moment) :
    let span := (inst.start model provider none opened).span
    span.provider = provider ∧ span.operation = "llm." ++ provider ++ ".chat" := by
  intro span
  have hkept : (identifier "provider" provider).1 = provider := by
    rw [identifier, h]
    rfl
  have hprovider : span.provider = (identifier "provider" provider).1 := rfl
  have hoperation : span.operation
      = "llm." ++ (identifier "provider" provider).1 ++ ".chat" := rfl
  rw [hprovider, hoperation, hkept]
  exact ⟨rfl, rfl⟩

/-- **A span goes by the identifier that it is opened with**, whatever is done with
it, if that is not blank and the operation has no name of its own. -/
theorem goesBy_life {provider : String} (h : Text.isBlank provider = false) (inst : Instrumentor)
    (model : String) (opened : Moment) (turns : List SpanTurn) (panicking : Bool)
    (dropped : Moment) :
    (inst.start model provider none opened).span.GoesBy provider
      (inst.life model provider none opened turns panicking dropped).signals := by
  let start := inst.start model provider none opened
  let run := start.span.run turns
  let later := run.signals ++ (run.span.drop panicking dropped).signals
  have hsignals : (inst.life model provider none opened turns panicking dropped).signals
      = start.signals ++ later := List.append_assoc _ _ _
  have hschema : FollowsSchema inst.limits start.span start.signals later :=
    inst.followsSchema_life model provider none opened turns panicking dropped
  obtain ⟨hprovider, hoperation⟩ := names_start h inst model opened
  have hopen : start.span.isOpen = true := rfl
  have hopening : ∀ call, Signal.handle call ∈ start.signals ↔ call ∈ [
      .start start.span.operation .client, .setAttribute .spanKind (.text "LLM"),
      .setAttribute .model (.text start.span.model),
      .setAttribute .provider (.text start.span.provider),
      .setAttribute .spanType (.text "llm")] :=
    fun call => hschema.opening ▸ Signal.mem_calls_iff.symm
  rw [hsignals]
  -- the handle is told these names on being opened, and nothing of them later
  refine ⟨hprovider, hoperation, fun operation kind => ?_, fun value => ?_, ?_, fun hnil => ?_⟩
  · have hlater : Signal.handle (.start operation kind) ∉ later :=
      Span.start_notMem_run_drop hopen turns panicking dropped operation kind
    rw [List.mem_append, or_iff_left hlater, hopening, ← hoperation]
    simp [start]
  · have hlater : Signal.attribute .provider value ∉ later :=
      fun h => Bool.noConfusion (hschema.once _ _ h)
    rw [List.mem_append, or_iff_left hlater, Signal.attribute, hopening, ← hprovider]
    simp [start]
  · intro sample hsample
    have htags : (⟨start.span.model, start.span.provider⟩ : MetricTags)
        = ⟨start.span.model, provider⟩ := congrArg _ hprovider
    exact (hschema.samples sample hsample).trans (congrArg some htags)
  · obtain ⟨-, settings, -, heq⟩ := Span.signals_run_drop hopen turns panicking dropped
    rw [show later = _ from heq, List.filterMap_append, List.filterMap_append,
      Span.samples_closingSignals] at hnil
    exact List.cons_ne_nil _ _ (List.append_eq_nil_iff.mp (List.append_eq_nil_iff.mp hnil).2).2

/-- **The life of a span that is opened for an endpoint.** -/
def lifeAt (inst : Instrumentor) (model url : String) (opened : Moment) (turns : List SpanTurn)
    (panicking : Bool) (dropped : Moment) : SpanRun :=
  let start := inst.startAt model url opened
  let run := start.span.run turns
  let drop := run.span.drop panicking dropped
  ⟨drop.span, run.answers, start.signals ++ run.signals ++ drop.signals⟩

/-- **A span for an endpoint goes by the identifier of its provider**, whatever is
done with it. -/
theorem goesBy_lifeAt (inst : Instrumentor) (model url : String) (opened : Moment)
    (turns : List SpanTurn) (panicking : Bool) (dropped : Moment) :
    (inst.startAt model url opened).span.GoesBy (Provider.ofUrl url).name
      (inst.lifeAt model url opened turns panicking dropped).signals :=
  goesBy_life (Provider.isBlank_name _) inst model opened turns panicking dropped

end Instrumentor

namespace Provider

/-- **The provider of an endpoint is told in any case and any context.** It is the
same for texts that are the same up to the case of letters. If a host occurs in a
text, then in any text around it the first host is the same one, unless one that
stands before it in the table occurs there, which then takes its place. A text
without a host is taken for OpenAI's. And a span for the endpoint goes by the
identifier of just that provider: as the provider that it keeps and shows, as the
tag of every sample, and in the name of its operation. -/
theorem ofUrl_in_context {u u' : String} (h : Text.SameLetters u u') (s t : String) :
    ofUrl u' = ofUrl u
      ∧ ((∃ entry ∈ hosts, Text.Occurs entry.1 u) → ∃ first found : Fin hosts.length,
        IsFirst u first ∧ ofUrl u = hosts[first].2
          ∧ IsFirst (s ++ u' ++ t) found ∧ ofUrl (s ++ u' ++ t) = hosts[found].2
          ∧ found ≤ first
          ∧ (found = first
            ↔ ∀ earlier < first, ¬Text.Occurs hosts[earlier].1 (s ++ u' ++ t)))
      ∧ ((∀ entry ∈ hosts, ¬Text.Occurs entry.1 u) → ofUrl u = .openAi)
      ∧ ∀ (inst : Instrumentor) (model : String) (opened : Moment) (turns : List SpanTurn)
        (panicking : Bool) (dropped : Moment),
        (inst.startAt model u opened).span.GoesBy (ofUrl u).name
          (inst.lifeAt model u opened turns panicking dropped).signals := by
  refine ⟨?_, fun ⟨entry, hentry, hoccurs⟩ => ?_, ofUrl_of_no_host,
    fun inst model opened turns panicking dropped =>
      inst.goesBy_lifeAt model u opened turns panicking dropped⟩
  · rw [ofUrl_eq, ofUrl_eq, isFoundIn_congr h]
  · obtain ⟨first, hfirst⟩ := IsFirst.exists_of_occurs hentry hoccurs
    have hmono : ∀ part, Text.Occurs part u → Text.Occurs part (s ++ u' ++ t) :=
      fun part hpart => hpart.in_context h s t
    obtain ⟨found, hle, hfound, hsame⟩ := hfirst.exists_of_mono hmono
    exact ⟨first, found, hfirst, ofUrl_of_first hfirst, hfound, ofUrl_of_first hfound, hle, hsame⟩

/-- A host that begins in front of a text and ends in it takes the place of the one
that the text contains, and the span goes by its provider. A local endpoint contains
none. -/
theorem ofUrl_in_context_across :
    let u := "com/api.cohere.ai"
    let u' := "COM/Api.Cohere.AI"
    let whole := "https://API.OpenAI." ++ u' ++ "/v1"
    let plain := "http://localhost:11434/api/chat"
    let inst := Instrumentor.ofConfig {}
    Text.SameLetters u u'
      ∧ (∃ entry ∈ hosts, Text.Occurs entry.1 u)
      ∧ (∀ entry ∈ hosts, ¬Text.Occurs entry.1 plain)
      ∧ ofUrl u' = .cohere
      ∧ (∃ first found, IsFirst u first ∧ IsFirst whole found ∧ found < first)
      ∧ ofUrl whole = .openAi
      ∧ ofUrl plain = .openAi
      ∧ (inst.startAt "gpt" whole ⟨0⟩).span.GoesBy "openai"
        (inst.lifeAt "gpt" whole ⟨0⟩ [⟨true, ⟨1⟩, .close⟩] false ⟨2⟩).signals := by
  intro u u' whole plain inst
  have hsame : Text.SameLetters u u' := Text.map_toLower_eq_iff.mp (by decide)
  have hrefl : ∀ s, Text.SameLetters s s := fun s => Text.map_toLower_eq_iff.mp rfl
  have hhost : ("api.cohere.ai", Provider.cohere) ∈ hosts := by decide
  have hoccurs : ∃ entry ∈ hosts, Text.Occurs entry.1 u :=
    ⟨_, hhost, (isFoundIn_iff hhost u).mp (by decide)⟩
  have hsearch : ∀ entry ∈ hosts, isFoundIn plain entry = false := by decide
  have hnone : ∀ entry ∈ hosts, ¬Text.Occurs entry.1 plain := fun entry hentry hoccurs =>
    Bool.eq_false_iff.mp (hsearch entry hentry) ((isFoundIn_iff hentry plain).mpr hoccurs)
  have hopenAi : ofUrl whole = .openAi := by decide
  obtain ⟨hcase, hcontext, -, -⟩ := ofUrl_in_context hsame "https://API.OpenAI." "/v1"
  obtain ⟨first, found, hfirst, hu, hfound, hwhole, hle, -⟩ := hcontext hoccurs
  have hne : found ≠ first := by
    rintro rfl
    exact absurd ((hu.trans hwhole.symm).trans hopenAi) (by decide)
  have hgoes := (ofUrl_in_context (hrefl whole) "" "").2.2.2 inst "gpt" ⟨0⟩
    [⟨true, ⟨1⟩, .close⟩] false ⟨2⟩
  rw [hopenAi] at hgoes
  exact ⟨hsame, hoccurs, hnone, hcase.trans (by decide),
    ⟨first, found, hfirst, hfound, (Fin.lt_or_eq_of_le hle).resolve_right hne⟩, hopenAi,
    (ofUrl_in_context (hrefl plain) "" "").2.2.1 hnone, hgoes⟩

end Provider
end CallScope
