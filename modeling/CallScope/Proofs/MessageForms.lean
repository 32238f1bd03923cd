import CallScope.Proofs.RecordFields
import CallScope.Proofs.Run

/-!
# Messages, decoded or as they came

Of the messages of a request, the last one of the user is shown. If the
messages come decoded, it is chosen among decoded messages, and if they come
as JSON, it is chosen among the entries and then decoded, so that the other
entries need not be messages at all.

Both paths choose the same message, because which role a message has is read
off the one member that the choice among entries looks at
(`Message.decode_object`), and the one role that counts is read from its name
and from no other (`Role.ofName_eq_user_iff`). The choice itself is a search
from the end, which looks at nothing in front of what it finds
(`find?_reverse_of_last`).
-/

namespace CallScope

open Json Decode

/-! ## The last one of a list -/

/-- The last one of a list is found from the end. -/
theorem find?_reverse_of_last {α : Type} {p : α → Bool} {a : α} (ha : p a = true)
    (before : List α) {after : List α} (hafter : ∀ b ∈ after, p b = false) :
    (before ++ a :: after).reverse.find? p = some a := by
  have hnone : after.reverse.find? p = none :=
    List.find?_eq_none.mpr fun b hb => by
      rw [hafter b (List.mem_reverse.mp hb)]
      exact Bool.false_ne_true
  rw [List.reverse_append, List.reverse_cons, List.append_assoc, List.find?_append, hnone,
    Option.none_or, List.singleton_append, List.find?_cons_of_pos ha]

/-- In lists that correspond item by item, the same place is found. -/
theorem find?_of_forall₂ {α β : Type} {r : α → β → Prop} {p : α → Bool} {q : β → Bool}
    (hpq : ∀ a b, r a b → p a = q b) {as : List α} {bs : List β} (h : List.Forall₂ r as bs) :
    (as.find? p = none ∧ bs.find? q = none)
      ∨ ∃ a b, r a b ∧ as.find? p = some a ∧ bs.find? q = some b := by
  induction h with
  | nil => exact .inl ⟨rfl, rfl⟩
  | @cons a b as bs hab _ ih =>
    rw [List.find?_cons, List.find?_cons, hpq a b hab]
    cases q b with
    | true => exact .inr ⟨a, b, hab, rfl, rfl⟩
    | false => exact ih

/-! ## Reading a message -/

/-- **Only one name is read as the user.** -/
theorem Role.ofName_eq_user_iff (name : String) : Role.ofName name = .user ↔ name = "user" := by
  constructor
  · intro h
    unfold ofName at h
    cases hfind : [Role.system, .developer, .user, .assistant, .tool].find?
        (fun r => r.name == name) with
    | none =>
      rw [hfind] at h
      cases h
    | some role =>
      rw [hfind] at h
      cases h
      have hname : (Role.user.name == name) = true := by
        simpa using List.find?_some hfind
      exact (eq_of_beq hname).symm
  · rintro rfl
    exact ofName_name .user

namespace Message

theorem field_role : record.Field "role" Role.decode (·.role) :=
  Record.field_of_slots [] [_] rfl rfl (fun _ _ => rfl)
    (List.forall_mem_singleton.mpr (Record.leaves_slot (by decide) fun _ _ => rfl))

theorem field_content : record.Field "content" (option Content.decode) (·.content) :=
  Record.field_of_slots [_] [] rfl rfl (fun _ _ => rfl)
    (List.forall_mem_singleton.mpr (Record.leaves_slot (by decide) fun _ _ => rfl))

/-- **The role of a message** is the one that its object names. -/
theorem role_of_decode {members : List (String × Value)} {name : String} {m : Message}
    (hrole : members.lookup "role" = some (.string name))
    (h : decode.ofValue (.object members) = .ok m) : m.role = Role.ofName name := by
  obtain ⟨kept, hkept, hbuild⟩ := Record.exists_of_decode_object h
  obtain ⟨role, hrequired, rfl⟩ := Draft.exists_of_map_eq_ok hbuild
  rcases field_role.read hkept with ⟨hnone, -⟩ | ⟨v, b, hv, hb, hentry⟩
  · rw [hnone] at hrole
    cases hrole
  · rw [hv] at hrole
    cases hrole
    cases hb
    exact Option.some.inj ((eq_some_of_required hrequired).symm.trans hentry)

/-- **A message whose object has no content**, or `null` for it, has none. -/
theorem content_of_decode {members : List (String × Value)} {m : Message}
    (hcontent : members.lookup "content" = none ∨ members.lookup "content" = some .null)
    (h : decode.ofValue (.object members) = .ok m) : m.content = none := by
  obtain ⟨kept, hkept, hbuild⟩ := Record.exists_of_decode_object h
  obtain ⟨role, -, rfl⟩ := Draft.exists_of_map_eq_ok hbuild
  rcases field_content.read hkept with ⟨-, hentry⟩ | ⟨v, b, hv, hb, hentry⟩
  · exact congrArg (Option.getD · none) hentry
  · rcases hcontent with hnone | hnull
    · rw [hnone] at hv
      cases hv
    · rw [hnull] at hv
      cases hv
      cases hb
      exact congrArg (Option.getD · none) hentry

end Message

/-! ## Choosing a message -/

/-- **An entry with a role**: an object whose member `role` is a string. -/
def HasRole (entry : Value) : Prop :=
  ∃ members role, entry = .object members ∧ members.lookup "role" = some (.string role)

/-- **An entry of the user**: an object whose member `role` is the string
`user`. -/
def FromUser (entry : Value) : Prop :=
  ∃ members, entry = .object members ∧ members.lookup "role" = some (.string "user")

namespace Span

theorem isFromUser_iff (entry : Value) : isFromUser entry = true ↔ FromUser entry := by
  unfold isFromUser
  rw [beq_iff_eq, Option.bind_eq_some_iff]
  constructor
  · rintro ⟨v, hv, hname⟩
    cases entry with
    | object members =>
      cases v with
      | string role =>
        cases hname
        exact ⟨members, rfl, hv⟩
      | _ => cases hname
    | _ => cases hv
  · rintro ⟨members, rfl, hrole⟩
    exact ⟨.string "user", hrole, rfl⟩

/-- **The choice among entries is the choice among messages.** -/
theorem isFromUser_of_decode {entry : Value} {m : Message} (hrole : HasRole entry)
    (h : Message.decode.ofValue entry = .ok m) : isFromUser entry = (m.role == .user) := by
  obtain ⟨members, role, rfl, hrole⟩ := hrole
  rw [Bool.eq_iff_iff, isFromUser_iff, beq_iff_eq, Message.role_of_decode hrole h,
    Role.ofName_eq_user_iff]
  constructor
  · rintro ⟨others, heq, huser⟩
    cases heq
    rw [hrole] at huser
    cases huser
    rfl
  · rintro rfl
    exact ⟨members, rfl, hrole⟩

/-! ## Setting messages -/

/-- **Messages that are set as JSON** are recorded as if they came decoded. -/
theorem record_inputPayload (span : Span) {entries : List Value} {messages : List Message}
    (hroles : ∀ entry ∈ entries, HasRole entry)
    (h : (list Message.decode).ofValue (.array entries) = .ok messages) :
    span.record (.inputPayload (.array entries)) = span.record (.input messages) := by
  have hitems : List.Forall₂ (fun entry m => HasRole entry ∧ Message.decode.ofValue entry = .ok m)
      entries messages := (List.forall₂_and_left _ _).mpr ⟨hroles, listItems_ofItems h⟩
  have hfound := find?_of_forall₂ (p := isFromUser) (q := fun m : Message => m.role == .user)
    (fun _ _ hitem => isFromUser_of_decode hitem.1 hitem.2) (List.forall₂_reverse_iff.mpr hitems)
  unfold record recordInputPayload recordInput
  dsimp only
  rcases hfound with ⟨hentries, hmessages⟩ | ⟨entry, m, ⟨-, hm⟩, hentry, hmessage⟩
  · rw [hentries, hmessages]
  · rw [hentry, hmessage]
    dsimp only
    rw [hm]

/-- What is recorded of an entry that was chosen: the message that it is, if it
is one. -/
def recordEntry (span : Span) (entry : Value) : Recorded :=
  match Message.decode.ofValue entry with
  | .ok message => span.recordMessage message
  | .error fault => span.send [span.warning "set_input" (.decode fault)]

/-- **Only the last entry of the user is recorded**, whatever the others
are. -/
theorem record_inputPayload_of_last (span : Span) {entry : Value} (hentry : FromUser entry)
    (before : List Value) {after : List Value} (hafter : ∀ other ∈ after, ¬FromUser other) :
    span.record (.inputPayload (.array (before ++ entry :: after))) = span.recordEntry entry := by
  have hlast := find?_reverse_of_last ((isFromUser_iff entry).mpr hentry) before
    fun other hother => Bool.eq_false_iff.mpr
      (mt (isFromUser_iff other).mp (hafter other hother))
  unfold record recordInputPayload
  dsimp only
  rw [hlast]
  rfl

/-- Without an entry of the user nothing is recorded. -/
theorem record_inputPayload_of_none (span : Span) {entries : List Value}
    (h : ∀ entry ∈ entries, ¬FromUser entry) :
    span.record (.inputPayload (.array entries)) = span.unchanged := by
  have hnone : entries.reverse.find? isFromUser = none :=
    List.find?_eq_none.mpr fun entry hentry =>
      mt (isFromUser_iff entry).mp (h entry (List.mem_reverse.mp hentry))
  unfold record recordInputPayload
  dsimp only
  rw [hnone]

/-- A message without content is shown empty. -/
theorem excerpt_toText_of_no_content {entry : Value} {m : Message} (hentry : FromUser entry)
    (h : Message.decode.ofValue entry = .ok m)
    (hcontent : entry.get? "content" = none ∨ entry.get? "content" = some .null) (limit : Nat) :
    Text.excerpt limit m.toText = "" := by
  obtain ⟨members, rfl, -⟩ := hentry
  have htext : m.toText = "" := by
    unfold Message.toText
    rw [Message.content_of_decode hcontent h]
    rfl
  rw [htext]
  exact Text.excerpt_of_length_le (Nat.zero_le limit)

/-- **Messages may be set decoded or as JSON**: in every state, a list of
objects with a string role does the same either way, if all of it decodes. Of
whatever list, only the last entry of the user counts. Without one, nothing
happens; one that decodes is shown, once, and empty if it has no content; and
one that does not decode is warned of, and nothing is shown instead. -/
theorem step_messages_of_payload (span : Span) (recording : Bool) (now : Moment)
    (entries : List Value) :
    let done := span.step recording now (.set (.inputPayload (.array entries)))
    (∀ messages, (∀ entry ∈ entries, HasRole entry) →
        (list Message.decode).ofValue (.array entries) = .ok messages →
        done = span.step recording now (.set (.input messages)))
      ∧ ((∀ entry ∈ entries, ¬FromUser entry) → done = ⟨span, none, []⟩)
      ∧ ∀ before entry after, entries = before ++ entry :: after → FromUser entry →
        (∀ other ∈ after, ¬FromUser other) →
        done = span.step recording now (.set (.inputPayload (.array [entry])))
          ∧ (span.isOpen = true → recording = true →
            (∀ message, Message.decode.ofValue entry = .ok message →
              let shown := Text.excerpt span.limits.inputChars.toNat message.toText
              done = ⟨span, none, [.attribute .inputMessage (.text shown)]⟩
                ∧ (entry.get? "content" = none ∨ entry.get? "content" = some .null →
                  shown = ""))
            ∧ ∀ fault, Message.decode.ofValue entry = .error fault →
              done = ⟨span, none, [span.warning "set_input" (.decode fault)]⟩) := by
  intro done
  refine ⟨fun messages hroles h => step_set_congr (span.record_inputPayload hroles h) recording now,
    fun h => ?_, fun before entry after heq hentry hafter => ?_⟩
  · show span.step recording now _ = _
    rw [step_set, span.record_inputPayload_of_none h, ite_self]
    rfl
  · subst heq
    have hrecord := span.record_inputPayload_of_last hentry before hafter
    have halone := span.record_inputPayload_of_last hentry [] (List.forall_mem_nil _)
    refine ⟨step_set_congr (hrecord.trans halone.symm) recording now, fun hopen hrecording => ?_⟩
    subst hrecording
    have hdone : done
        = ⟨(span.recordEntry entry).span, none, (span.recordEntry entry).signals⟩ := by
      show span.step true now _ = _
      rw [step_set, hopen, hrecord]
      rfl
    unfold recordEntry at hdone
    refine ⟨fun message hmessage => ?_, fun fault hfault => ?_⟩
    · rw [hmessage] at hdone
      exact ⟨hdone, fun hcontent => excerpt_toText_of_no_content hentry hmessage hcontent _⟩
    · rw [hfault] at hdone
      exact hdone

/-- A list that decodes, whose last message of the user has no content, and a list
whose last message of the user has a number for content. No earlier message stands
in for either. -/
theorem step_messages_of_payload_last :
    let span := ((Instrumentor.ofConfig {}).start "gpt" "openai" none ⟨0⟩).span
    let earlier : Value := .object [("role", .string "user"), ("content", .string "earlier")]
    let reply : Value := .object [("role", .string "agent"), ("content", .string "and now?")]
    let bare : Value := .object [("content", .null), ("role", .string "user")]
    let number : Value := .number (.integer ⟨42, by decide, by decide⟩)
    let odd : Value := .object [("role", .string "user"), ("content", number)]
    let messages : List Message :=
      [.ofText .user "earlier", .ofText .other "and now?", ⟨.user, none⟩]
    let set := fun setter => span.step true ⟨1⟩ (.set setter)
    (list Message.decode).ofValue (.array [earlier, reply, bare]) = .ok messages
      ∧ set (.inputPayload (.array [earlier, reply, bare])) = set (.input messages)
      ∧ set (.input messages) = ⟨span, none, [.attribute .inputMessage (.text "")]⟩
      ∧ ∃ fault, Message.decode.ofValue odd = .error fault
        ∧ set (.inputPayload (.array [earlier, odd, reply]))
          = ⟨span, none, [span.warning "set_input" (.decode fault)]⟩ := by
  intro span earlier reply bare number odd messages set
  have hdecode : (list Message.decode).ofValue (.array [earlier, reply, bare]) = .ok messages := rfl
  have hroles : ∀ entry ∈ [earlier, reply, bare], HasRole entry := by
    simp only [List.forall_mem_cons]
    exact ⟨⟨_, _, rfl, rfl⟩, ⟨_, _, rfl, rfl⟩, ⟨_, _, rfl, rfl⟩, nofun⟩
  have hreply : ¬FromUser reply := mt (isFromUser_iff reply).mpr (by decide)
  obtain ⟨hboth, -, hlast⟩ :=
    step_messages_of_payload span true ⟨1⟩ [earlier, reply, bare]
  obtain ⟨-, hshown⟩ := hlast [earlier, reply] bare [] rfl ⟨_, rfl, rfl⟩ nofun
  obtain ⟨hdone, hempty⟩ := (hshown rfl rfl).1 ⟨.user, none⟩ rfl
  rw [hempty (.inr rfl)] at hdone
  have hset := hboth messages hroles hdecode
  refine ⟨hdecode, hset, hset.symm.trans hdone, _, rfl, ?_⟩
  obtain ⟨-, -, hlast⟩ := step_messages_of_payload span true ⟨1⟩ [earlier, odd, reply]
  obtain ⟨-, hwarned⟩ :=
    hlast [earlier] odd [reply] rfl ⟨_, rfl, rfl⟩ (List.forall_mem_singleton.mpr hreply)
  exact (hwarned rfl rfl).2 _ rfl

end Span
end CallScope
