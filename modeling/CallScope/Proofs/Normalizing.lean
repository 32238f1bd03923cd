import CallScope.Proofs.CallEntries
import CallScope.Proofs.Replaying

/-!
# Calls in one shape stay as they are

Reading a list of calls brings them into the OpenAI shape. Whatever entry a call was
read of, it reads back (`IsCall.readable`), so that bringing calls into one shape a
second time changes nothing: no call is lost, none is taken for a compact one, and
arguments that are text are not written into another text.

The same holds of the text that the program prints when it converts compact calls.
It is printed line by line, and the lines put together again are the text of the
converted calls (`Program.printed_linesOf`), which reads back as any text does whose
items stand on lines of their own (`Json.Value.Fits.ofText_indented`).
-/

namespace CallScope

open Json Decode CommandLine

/-! ## Reading calls twice -/

/-- A converted call reads back: its arguments are text. -/
theorem CompactCall.readable_toOpenAi (c : CompactCall) : c.toOpenAi.Readable where
  notNull := nofun
  distinctKeys v hv := by
    cases hv
    rfl

/-- An entry that is a call is one that reads back. -/
theorem IsCall.readable {entry : Value} {call : OpenAiCall} (h : IsCall entry call) :
    call.Readable := by
  cases h with
  | openAi h => exact OpenAiCall.readable_of_decode h
  | compact _ _ => exact CompactCall.readable_toOpenAi _

namespace AnyCall

/-- The calls that are read of entries. -/
theorem read_array (entries : List Value) :
    read (.array entries) = .ok (entries.filterMap ofEntry?) :=
  congrArg Except.ok (map_snd_readEntries entries 0)

/-- **Calls that read back are read as they are**, without a gap between their
places. -/
theorem read_toValue {calls : List OpenAiCall} (h : ∀ c ∈ calls, c.Readable) :
    read (.array (calls.map OpenAiCall.toValue)) = .ok calls := by
  have hzip : (Span.enumerate calls).map Prod.snd = calls :=
    List.map_snd_zip (Nat.le_of_eq List.length_range.symm)
  rw [read, readIndexed_toValue h, Except.map, hzip]

end AnyCall

/-! ## Converted calls -/

namespace CompactCall

/-- The arguments of converted calls are text. -/
theorem arguments_of_mem_convert {raw : Value} {call : OpenAiCall} (h : call ∈ convert raw) :
    ∃ s, call.function.arguments = some (.string s) := by
  obtain ⟨c, -, rfl⟩ := List.mem_map.mp h
  exact ⟨_, rfl⟩

/-- Converted calls read back. -/
theorem readable_of_mem_convert {raw : Value} {call : OpenAiCall} (h : call ∈ convert raw) :
    call.Readable := by
  obtain ⟨c, -, rfl⟩ := List.mem_map.mp h
  exact c.readable_toOpenAi

/-- The JSON of converted calls can be read from a text. -/
theorem fits_convert (raw : Value) :
    (Value.array ((convert raw).map OpenAiCall.toValue)).Fits nestingLimit := by
  refine Value.Fits.array fun item hitem => ?_
  obtain ⟨call, hcall, rfl⟩ := List.mem_map.mp hitem
  obtain ⟨c, -, rfl⟩ := List.mem_map.mp hcall
  -- there is no number among texts
  exact ⟨OpenAiCall.distinctKeys_toValue c.readable_toOpenAi,
    fun _ hn => absurd hn List.not_mem_nil, show 2 ≤ 126 by decide⟩

end CompactCall

/-! ## What is printed -/

namespace Program

/-- **The text that a run prints**, each line with its end. -/
def Outcome.printed (o : Outcome) : String :=
  String.ofList (o.lines.flatMap fun line => line.written.toList ++ ['\n'])

/-- Lines with their ends are lines with an end between them and one more. -/
theorem flatMap_lineEnd {lines : List (List Char)} (h : lines ≠ []) :
    lines.flatMap (· ++ ['\n']) = List.intercalate ['\n'] lines ++ ['\n'] := by
  induction lines with
  | nil => exact absurd rfl h
  | cons line rest ih =>
    cases rest with
    | nil => simp
    | cons next rest =>
      have hrest := List.cons_ne_nil next rest
      rw [List.flatMap_cons, ih hrest, List.intercalate_cons_of_ne_nil hrest,
        List.append_assoc, List.append_assoc, List.append_assoc]

/-- **A text that is printed line by line** is printed as it is. -/
theorem printed_linesOf (text : String) : (prints (linesOf text)).printed = text ++ "\n" := by
  have hlines : (prints (linesOf text)).lines.flatMap (fun line => line.written.toList ++ ['\n'])
      = (text.toList.splitOn '\n').flatMap (· ++ ['\n']) := by
    unfold prints linesOf
    rw [List.map_map, List.flatMap_map]
    simp only [Function.comp_apply, Line.written, String.toList_ofList]
  rw [Outcome.printed, hlines, flatMap_lineEnd (List.splitOn_ne_nil _ _),
    List.intercalate_splitOn, String.ofList_append, String.ofList_toList]

/-- **What is printed of compact calls reads back** as the JSON of the converted
calls. -/
theorem ofText_printCalls (raw : Value) :
    Value.ofText (printCalls raw).printed
      = .ok (.array ((CompactCall.convert raw).map OpenAiCall.toValue)) := by
  unfold printCalls
  rw [printed_linesOf]
  exact (CompactCall.fits_convert raw).ofText_indented

/-- Any value is decoded from a text as it is read from it. -/
theorem any_ofText (text : String) : any.ofText text = flawed (Value.ofText text) := by
  unfold Decoder.ofText Value.ofText any
  obtain ⟨draft, more⟩ := Draft.ofText text
  dsimp only [Mode.room]
  cases draft.value (some nestingLimit) with
  | error flaw => rfl
  | ok v => cases more <;> rfl

/-- **A command line that converts the calls of a value**: the configuration and its
log filter can be read, and at the path there is a text that the value can be read
from. -/
def Converts (s : Surroundings) (args : List String) (raw : Value) : Prop :=
  ∃ configPath path config filter text,
    CommandLine.read args = .ok (.run configPath (.convertTools path))
      ∧ configAt s configPath = .ok config
      ∧ filterUnder s config = some filter
      ∧ textAt s path = .ok text ∧ Value.ofText text = .ok raw

/-- Such a command line prints the converted calls. -/
theorem run_of_converts {s : Surroundings} {args : List String} {raw : Value}
    (h : Converts s args raw) : run s args = printCalls raw := by
  obtain ⟨configPath, path, config, filter, text, hargs, hconfig, hfilter, htext, hraw⟩ := h
  have hdecode : any.ofText text = .ok raw := by
    rw [any_ofText, hraw]
    rfl
  rw [run_of_command hargs hconfig hfilter]
  show withInput s path any printCalls = _
  unfold withInput
  rw [htext]
  dsimp only
  rw [hdecode]

end Program

/-- **Bringing calls into one shape is idempotent.** The calls that are read of a list
of entries, whatever these are, written as JSON are read as the same calls, under the
places from zero on without a gap, and so with the same canonical forms. And whatever
value the program converts the calls of, it prints a text from which a value is read
whose calls are the converted ones, again without a gap and with the same arguments,
which are text before and after. -/
theorem AnyCall.read_idempotent (entries : List Value) (raw : Value) :
    (∃ calls, read (.array entries) = .ok calls
      ∧ (let again : Value := .array (calls.map OpenAiCall.toValue)
        read again = .ok calls
          ∧ readIndexed again = .ok ((List.range calls.length).zip calls)
          ∧ (read again).map (List.map OpenAiCall.canonical)
            = .ok (calls.map OpenAiCall.canonical)))
    ∧ (let converted := CompactCall.convert raw
      (Program.printCalls raw).code = 0
        ∧ ∃ again, Value.ofText (Program.printCalls raw).printed = .ok again
          ∧ read again = .ok converted
          ∧ readIndexed again = .ok ((List.range converted.length).zip converted)
          ∧ ∀ call ∈ converted, ∃ s, call.function.arguments = some (.string s)
            ∧ call.canonical.arguments = some s)
    ∧ ∀ s args, Program.Converts s args raw → Program.run s args = Program.printCalls raw := by
  refine ⟨⟨_, read_array entries, ?_⟩,
    ⟨rfl, _, Program.ofText_printCalls raw, ?_, ?_, fun call hcall => ?_⟩,
    fun s args => Program.run_of_converts⟩
  · have hreadable : ∀ call ∈ entries.filterMap ofEntry?, call.Readable := by
      intro call hcall
      obtain ⟨entry, -, hentry⟩ := List.mem_filterMap.mp hcall
      exact (ofEntry?_eq_some_iff.mp hentry).readable
    have hagain := read_toValue hreadable
    exact ⟨hagain, readIndexed_toValue hreadable,
      congrArg (Except.map (List.map OpenAiCall.canonical)) hagain⟩
  · exact read_toValue fun _ => CompactCall.readable_of_mem_convert
  · exact readIndexed_toValue fun _ => CompactCall.readable_of_mem_convert
  · obtain ⟨s, hs⟩ := CompactCall.arguments_of_mem_convert hcall
    refine ⟨s, hs, ?_⟩
    rw [OpenAiCall.canonical, hs]
    rfl

/-- Calls of both shapes, each written as an array of its fields, and one with a field
that is null. The compact ones are converted from standard input. -/
theorem AnyCall.read_idempotent_arrays :
    let search : Value := .object [("q", .null)]
    let compact : List Value := [.array [.string "ls", .string "x"],
      .object [("name", .string "stop"), ("parameters", .null)]]
    let raw : Value := .array compact
    let entries : List Value :=
      .array [.null, .string "function", .array [.string "search", search]] :: compact
    let converted : List OpenAiCall := [.ofFunction "ls" "\"x\"", .ofFunction "stop" "\x7b\x7d"]
    let calls := ⟨none, "function", ⟨some "search", some search⟩⟩ :: converted
    let s : Program.Surroundings := ⟨fun _ => none, Text.Utf8.bytes raw.spaced, none, ⟨0⟩⟩
    let printed := (Program.run s ["convert-tools"]).printed
    Program.Converts s ["convert-tools"] raw
      ∧ (read (.array entries) = .ok calls
        ∧ read (.array (calls.map OpenAiCall.toValue)) = .ok calls)
      ∧ ∃ again, Value.ofText printed = .ok again ∧ read again = .ok converted := by
  intro search compact raw entries converted calls s printed
  obtain ⟨⟨found, hfound, hagain, -⟩, ⟨-, again, hprinted, hread, -⟩, hrun⟩ :=
    read_idempotent entries raw
  have hraw : Value.ofText raw.spaced = .ok raw :=
    Value.Fits.ofText_write Layout.readable_spaced ⟨by decide, by decide, by decide⟩
  have hconverts : Program.Converts s ["convert-tools"] raw :=
    ⟨none, none, {}, _, raw.spaced, by cbv, rfl, rfl, Program.textAt_spaced _ raw _ _, hraw⟩
  have hconverted : CompactCall.convert raw = converted := rfl
  have hcalls : read (.array entries) = .ok calls := rfl
  cases hfound.symm.trans hcalls
  refine ⟨hconverts, ⟨hcalls, hagain⟩, again, ?_, hread.trans (congrArg _ hconverted)⟩
  show Value.ofText (Program.run s ["convert-tools"]).printed = _
  rw [hrun s _ hconverts]
  exact hprinted

end CallScope
