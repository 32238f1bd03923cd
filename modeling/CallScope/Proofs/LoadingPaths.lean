import Mathlib.Data.List.TakeWhile
import CallScope.Config.Load
import CallScope.Proofs.TextBytes

/-!
# The ways of loading a configuration

The extension of a file's name decides whether its text is read as JSON, as TOML,
or as JSON and failing that as TOML. `Config.load_under_names` relates the three
readings of one text: the third is the first one, unless that fails to decode, and
the second one in that case. So a text that decodes as JSON and is then found to
leave an instrument without a name is not tried as TOML.

It also says what no way of loading lets through: a configuration with a blank name,
and bytes that are not text.
-/

namespace CallScope

open Json Decode

/-! ## Blank texts -/

namespace Text

/-- Nothing is left of a text exactly if every character of it is blank. -/
theorem trim_eq_nil_iff (s : List Char) : trim s = [] ↔ ∀ c ∈ s, isBlankChar c = true := by
  rw [trim, List.reverse_eq_nil_iff, List.dropWhile_eq_nil_iff]
  constructor
  · intro hall
    refine List.dropWhile_eq_nil_iff.1 (Classical.not_not.1 fun hleft => ?_)
    -- What is left begins with a character that is not blank.
    have hfirst := List.head_dropWhile_not isBlankChar hleft
    rw [hall _ (List.mem_reverse.2 (List.head_mem hleft))] at hfirst
    cases hfirst
  · intro hall c hc
    exact hall c ((List.dropWhile_sublist _).subset (List.mem_reverse.1 hc))

theorem isBlank_iff (s : String) : isBlank s = true ↔ trim s.toList = [] := by
  rw [trim_eq_nil_iff, isBlank, List.all_eq_true]

end Text

namespace Config

/-! ## Extensions -/

/-- The last part of a path is a stem, a point and the extension, which is what stands
behind the last point. A name that begins with its only point has no extension. -/
def HasExtension (path ext : String) : Prop :=
  ∃ stem : List Char, stem ≠ [] ∧ fileName path = stem ++ '.' :: ext.toList ∧ '.' ∉ ext.toList

/-- An extension stands behind the last point, and something in front of that. -/
theorem exists_of_extension? {name ext : List Char} (h : extension? name = some ext) :
    ∃ stem, stem ≠ [] ∧ name = stem ++ '.' :: ext ∧ '.' ∉ ext := by
  simp only [extension?] at h
  split at h
  case isTrue => cases h
  case isFalse hlong =>
    obtain rfl := Option.some.inj h
    -- What stands in front of the extension ends in a point.
    have hparts := List.takeWhile_append_dropWhile (p := (· != '.')) (l := name.reverse)
    have hlength := congrArg List.length hparts
    rw [List.length_append, List.length_reverse] at hlength
    rw [List.length_reverse] at hlong
    obtain ⟨point, front, hfront⟩ :
        ∃ point front, name.reverse.dropWhile (· != '.') = point :: front :=
      List.exists_cons_of_length_pos (by omega)
    have hpoint : point = '.' := by
      have := List.head_dropWhile_not (· != '.') (l := name.reverse) (by simp [hfront])
      simpa [hfront] using this
    subst hpoint
    rw [hfront, List.length_cons] at hlength
    refine ⟨front.reverse, fun hnil => ?_, ?_, fun hmem => ?_⟩
    · have := congrArg List.length hnil
      rw [List.length_reverse, List.length_nil] at this
      omega
    · rw [hfront] at hparts
      simpa using congrArg List.reverse hparts.symm
    · have := List.mem_takeWhile_imp (List.mem_reverse.1 hmem)
      simp at this

theorem extension?_append {stem ext : List Char} (hstem : stem ≠ []) (hext : '.' ∉ ext) :
    extension? (stem ++ '.' :: ext) = some ext := by
  have hbehind : ((stem ++ '.' :: ext).reverse.takeWhile (· != '.')).reverse = ext := by
    have hreverse : (stem ++ '.' :: ext).reverse = ext.reverse ++ '.' :: stem.reverse := by simp
    rw [hreverse, List.takeWhile_append_of_pos, List.takeWhile_cons_of_neg (by simp),
      List.append_nil, List.reverse_reverse]
    intro c hc
    have hne : c ≠ '.' := fun heq => hext (heq ▸ List.mem_reverse.1 hc)
    simpa using hne
  have hpos : 0 < stem.length := List.length_pos_iff.2 hstem
  simp only [extension?, hbehind, List.length_append, List.length_cons]
  rw [if_neg (by omega)]

/-- **What it is to have an extension** is what is read off a name. -/
theorem hasExtension_iff (path ext : String) :
    HasExtension path ext ↔ extension? (fileName path) = some ext.toList := by
  refine ⟨fun ⟨stem, hstem, hname, hext⟩ => ?_, exists_of_extension?⟩
  rw [hname, extension?_append hstem hext]

theorem HasExtension.ofPath_json {path : String} (h : HasExtension path "json") :
    Format.ofPath path = .json := by
  rw [Format.ofPath, (hasExtension_iff _ _).1 h]
  rfl

theorem HasExtension.ofPath_toml {path : String} (h : HasExtension path "toml") :
    Format.ofPath path = .toml := by
  rw [Format.ofPath, (hasExtension_iff _ _).1 h]
  rfl

theorem ofPath_of_not_hasExtension {path : String} (hjson : ¬HasExtension path "json")
    (htoml : ¬HasExtension path "toml") : Format.ofPath path = .either := by
  rw [hasExtension_iff] at hjson htoml
  unfold Format.ofPath
  cases hext : extension? (fileName path) with
  | none => rfl
  | some ext =>
    rw [hext] at hjson htoml
    show (if ext = "json".toList then Format.json
      else if ext = "toml".toList then .toml else .either) = .either
    rw [if_neg fun heq => hjson (congrArg some heq), if_neg fun heq => htoml (congrArg some heq)]

/-! ## Loading a text -/

/-- A configuration that is read is checked, whichever way it was read. -/
theorem load_bytes (path text : String) :
    load path (some (Text.Utf8.bytes text)) = (ofText (.ofPath path) text).bind check := by
  simp only [load, Text.Utf8.decode_bytes]
  cases ofText (.ofPath path) text <;> rfl

/-- Bytes that are no text cannot be loaded under any name. -/
theorem load_of_no_text (path : String) {bs : List UInt8} (h : ∀ s, bs ≠ Text.Utf8.bytes s) :
    ∃ reason, load path (some bs) = .error (.config reason) := by
  cases hdecode : Text.Utf8.decode bs with
  | ok s => exact absurd (Text.Utf8.decode_eq_ok_iff.1 hdecode) (h s)
  | error fault => exact ⟨path ++ ": " ++ fault.message, by simp only [load, hdecode]⟩

/-- The names of the instruments. -/
def names (c : Config) : List String := [c.metrics.requests, c.metrics.tokens, c.metrics.duration]

theorem allNamed_iff (c : Config) :
    c.metrics.allNamed = true ↔ ∀ name ∈ c.names, Text.trim name.toList ≠ [] := by
  simp only [MetricNames.allNamed, names, List.all_eq_true, Bool.not_eq_true', ← Bool.not_eq_true,
    Text.isBlank_iff, ne_eq]

theorem check_of_named {c : Config} (h : ∀ name ∈ c.names, Text.trim name.toList ≠ []) :
    c.check = .ok c :=
  if_pos (c.allNamed_iff.2 h)

theorem check_of_blank {c : Config} {name : String} (hname : name ∈ c.names)
    (hblank : Text.trim name.toList = []) :
    c.check = .error (.config "metric names must not be empty") :=
  if_neg fun hall => c.allNamed_iff.1 hall name hname hblank

theorem check_ne_decode (c : Config) (fault : Fault) : c.check ≠ .error (.decode fault) := by
  unfold check
  split <;> simp

/-- **Only a configuration that passes the check is loaded.** -/
theorem names_of_load {path : String} {bs : List UInt8} {c : Config}
    (h : load path (some bs) = .ok c) :
    ∀ name ∈ c.names, Text.trim name.toList ≠ [] := by
  cases hdecode : Text.Utf8.decode bs with
  | error fault => simp [load, hdecode] at h
  | ok text =>
    obtain rfl := Text.Utf8.decode_eq_ok_iff.1 hdecode
    rw [load_bytes] at h
    cases hread : ofText (.ofPath path) text with
    | error e => simp [hread, Except.bind] at h
    | ok c' =>
      simp only [hread, Except.bind, check] at h
      split at h
      case isTrue hnamed =>
        obtain rfl := Except.ok.inj h
        exact c'.allNamed_iff.1 hnamed
      case isFalse => cases h

/-! ## Three readings of one text -/

theorem checked_ofToml_ne_decode (text : String) (fault : Fault) :
    (ofToml text).bind check ≠ .error (.decode fault) := by
  unfold ofToml
  split
  · simp [notToml, Except.bind]
  · split
    · exact check_ne_decode _ fault
    · simp [notToml, Except.bind]

/-- **One text under three kinds of names**, and what is loaded under any name. -/
theorem load_under_names (text : String) {json toml other : String}
    (hjson : HasExtension json "json") (htoml : HasExtension toml "toml")
    (hother : ¬HasExtension other "json" ∧ ¬HasExtension other "toml") :
    let asJson := load json (some (Text.Utf8.bytes text))
    let asToml := load toml (some (Text.Utf8.bytes text))
    let asEither := load other (some (Text.Utf8.bytes text))
    ((∃ fault, asJson = .error (.decode fault)) → asEither = asToml)
      ∧ ((¬∃ fault, asJson = .error (.decode fault)) → asEither = asJson)
      ∧ (∀ c, Config.decode.ofText text = .ok c →
          ∀ name ∈ c.names, Text.trim name.toList = [] →
            asEither = .error (.config "metric names must not be empty"))
      ∧ (∀ fault, asToml ≠ .error (.decode fault) ∧ asEither ≠ .error (.decode fault))
      ∧ (∀ path bs c, load path (some bs) = .ok c →
          ∀ name ∈ c.names, Text.trim name.toList ≠ [])
      ∧ ∀ path bs, (∀ s, bs ≠ Text.Utf8.bytes s) →
          ∃ reason, load path (some bs) = .error (.config reason) := by
  intro asJson asToml asEither
  have hasJson : asJson = (ofJson text).bind check := by
    rw [show asJson = _ from load_bytes json text, hjson.ofPath_json, ofText]
  have hasToml : asToml = (ofToml text).bind check := by
    rw [show asToml = _ from load_bytes toml text, htoml.ofPath_toml, ofText]
  have hasEither : asEither = (ofText .either text).bind check := by
    rw [show asEither = _ from load_bytes other text, ofPath_of_not_hasExtension hother.1 hother.2]
  have hbytes : ∀ path bs, (∀ s, bs ≠ Text.Utf8.bytes s) →
      ∃ reason, load path (some bs) = .error (.config reason) :=
    fun path bs => load_of_no_text path
  have htomlFault : ∀ fault, asToml ≠ .error (.decode fault) :=
    fun fault => hasToml ▸ checked_ofToml_ne_decode text fault
  cases hread : Config.decode.ofText text with
  | ok c =>
    -- The text is JSON for a configuration, which both readings check.
    have hjsonCheck : asJson = c.check := by rw [hasJson, ofJson, hread]; rfl
    have heitherCheck : asEither = c.check := by rw [hasEither, ofText, ofJson, hread]; rfl
    have heitherFault : ∀ fault, asEither ≠ .error (.decode fault) :=
      fun fault => heitherCheck ▸ check_ne_decode c fault
    refine ⟨fun ⟨fault, hfault⟩ => ?_, fun _ => heitherCheck.trans hjsonCheck.symm, ?_,
      fun fault => ⟨htomlFault fault, heitherFault fault⟩, fun _ _ _ => names_of_load, hbytes⟩
    · exact absurd (hjsonCheck.symm.trans hfault) (check_ne_decode c fault)
    · intro c' hc' name hname hblank
      obtain rfl := Except.ok.inj hc'
      exact heitherCheck.trans (check_of_blank hname hblank)
  | error fault =>
    have hjsonFault : asJson = .error (.decode fault) := by rw [hasJson, ofJson, hread]; rfl
    have heitherToml : asEither = asToml := by
      rw [hasEither, hasToml, ofText, ofJson, hread]
    refine ⟨fun _ => heitherToml, fun hno => absurd ⟨fault, hjsonFault⟩ hno, nofun,
      fun fault => ⟨htomlFault fault, heitherToml ▸ htomlFault fault⟩, fun _ _ _ => names_of_load,
      hbytes⟩

/-- A text that is TOML only, under three such names. -/
theorem load_under_names_toml :
    (∃ fault, load "llm.json" (some (Text.Utf8.bytes "logging.ansi = false"))
        = .error (.decode fault))
      ∧ load "llm" (some (Text.Utf8.bytes "logging.ansi = false"))
          = load "llm.toml" (some (Text.Utf8.bytes "logging.ansi = false"))
      ∧ load "llm.toml" (some (Text.Utf8.bytes "logging.ansi = false"))
          = .ok { logging := { ansi := false } } := by
  have hjson : HasExtension "llm.json" "json" := by rw [hasExtension_iff]; decide
  have htoml : HasExtension "llm.toml" "toml" := by rw [hasExtension_iff]; decide
  have hother : ¬HasExtension "llm" "json" ∧ ¬HasExtension "llm" "toml" := by
    rw [hasExtension_iff, hasExtension_iff]; decide
  have hdraft : Draft.ofText "logging.ansi = false"
      = (.broken .malformed .malformed .malformed, false) := by
    rw [Draft.ofText, Scan.value]; rfl
  have hfault : load "llm.json" (some (Text.Utf8.bytes "logging.ansi = false"))
      = .error (.decode (.flaw .malformed)) := by
    rw [load_bytes, hjson.ofPath_json, ofText, ofJson, Decoder.ofText, hdraft]
    rfl
  have hread : ofToml "logging.ansi = false" = .ok { logging := { ansi := false } } := by
    decide +kernel
  have hloaded : load "llm.toml" (some (Text.Utf8.bytes "logging.ansi = false"))
      = .ok { logging := { ansi := false } } := by
    rw [load_bytes, htoml.ofPath_toml, ofText, hread]
    decide
  exact ⟨⟨_, hfault⟩, (load_under_names _ hjson htoml hother).1 ⟨_, hfault⟩, hloaded⟩

end Config
end CallScope
