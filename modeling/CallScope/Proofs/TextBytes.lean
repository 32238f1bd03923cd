import CallScope.Text.Utf8

/-!
# Texts and their bytes

Reading bytes undoes writing a text, for every text, and bytes that are read as a
text are the bytes of that text (`Text.Utf8.decode_eq_ok_iff`). So whether a file
holds a text, and which, does not depend on how it is read.

Between the two stand the well-formed sequences of bytes, each of which makes up
one character (`Text.Utf8.Sequence`): a sequence is what is read of the beginning
of a text, and the sequences are exactly the bytes of characters.
-/

namespace CallScope.Text.Utf8

/-- The bytes of a text. -/
def bytes (s : String) : List UInt8 := s.toByteArray.data.toList

theorem bytes_ofList (s : List Char) :
    bytes (String.ofList s) = s.flatMap String.utf8EncodeChar := by
  rw [bytes, String.toByteArray_ofList, List.utf8Encode, List.data_toByteArray]

/-! ## Sequences -/

/-- **The bytes of one character** and its number: a byte of ASCII, or a lead byte
and continuation bytes. The second byte is such that the character is not written
longer than need be, is no surrogate, and is not beyond the last one. -/
inductive Sequence : List UInt8 → Nat → Prop
  | one {b : UInt8} (hb : b.toNat < 0x80) : Sequence [b] b.toNat
  | two {b c : UInt8} (hb : 0xC2 ≤ b.toNat ∧ b.toNat ≤ 0xDF)
    (hc : 0x80 ≤ c.toNat ∧ c.toNat ≤ 0xBF) :
    Sequence [b, c] (b.toNat % 32 * 64 + c.toNat % 64)
  | three {b c d : UInt8} (hb : 0xE0 ≤ b.toNat ∧ b.toNat ≤ 0xEF)
    (hc : 0x80 ≤ c.toNat ∧ c.toNat ≤ 0xBF) (hshortest : b.toNat = 0xE0 → 0xA0 ≤ c.toNat)
    (hsurrogate : b.toNat = 0xED → c.toNat ≤ 0x9F) (hd : 0x80 ≤ d.toNat ∧ d.toNat ≤ 0xBF) :
    Sequence [b, c, d] (b.toNat % 16 * 4096 + c.toNat % 64 * 64 + d.toNat % 64)
  | four {b c d e : UInt8} (hb : 0xF0 ≤ b.toNat ∧ b.toNat ≤ 0xF4)
    (hc : 0x80 ≤ c.toNat ∧ c.toNat ≤ 0xBF) (hshortest : b.toNat = 0xF0 → 0x90 ≤ c.toNat)
    (hlast : b.toNat = 0xF4 → c.toNat ≤ 0x8F) (hd : 0x80 ≤ d.toNat ∧ d.toNat ≤ 0xBF)
    (he : 0x80 ≤ e.toNat ∧ e.toNat ≤ 0xBF) :
    Sequence [b, c, d, e]
      (b.toNat % 8 * 262144 + c.toNat % 64 * 4096 + d.toNat % 64 * 64 + e.toNat % 64)

/-! ## Reading a sequence -/

/-- **What a lead byte admits**: how many bytes there are, and the range of the
second one. -/
theorem lead?_eq_some_iff {b low high width : Nat} :
    lead? b = some (low, high, width)
      ↔ (width = 2 ∧ 0xC2 ≤ b ∧ b ≤ 0xDF ∧ low = 0x80 ∧ high = 0xBF)
        ∨ (width = 3 ∧ 0xE0 ≤ b ∧ b ≤ 0xEF ∧ low = (if b = 0xE0 then 0xA0 else 0x80)
          ∧ high = if b = 0xED then 0x9F else 0xBF)
        ∨ (width = 4 ∧ 0xF0 ≤ b ∧ b ≤ 0xF4 ∧ low = (if b = 0xF0 then 0x90 else 0x80)
          ∧ high = if b = 0xF4 then 0x8F else 0xBF) := by
  unfold lead?
  grind

theorem isContinuation_iff (b : Nat) : isContinuation b = true ↔ 0x80 ≤ b ∧ b ≤ 0xBF := by
  unfold isContinuation
  rw [Bool.and_eq_true, decide_eq_true_eq, decide_eq_true_eq]

/-- **A sequence is read**, whatever follows it. -/
theorem first_of_sequence {seq : List UInt8} {n : Nat} (h : Sequence seq n) (rest : List UInt8)
    (index : Nat) : first index (seq ++ rest) = .ok (Char.ofNat n, seq.length) := by
  cases h with
  | one hb => exact if_pos hb
  | @two b c hb hc =>
    have hlead : lead? b.toNat = _ := lead?_eq_some_iff.mpr (.inl ⟨rfl, hb.1, hb.2, rfl, rfl⟩)
    show first index (b :: c :: rest) = _
    unfold first
    dsimp only
    rw [if_neg (by omega), hlead]
    dsimp only
    rw [if_neg (not_not_intro hc)]
    rfl
  | @three b c d hb hc hshortest hsurrogate hd =>
    have hlead : lead? b.toNat = _ :=
      lead?_eq_some_iff.mpr (.inr (.inl ⟨rfl, hb.1, hb.2, rfl, rfl⟩))
    show first index (b :: c :: d :: rest) = _
    unfold first
    dsimp only
    rw [if_neg (by omega), hlead]
    dsimp only
    rw [if_neg (by split <;> split <;> omega), if_neg (by decide),
      if_neg (not_not_intro ((isContinuation_iff _).mpr hd))]
    rfl
  | @four b c d e hb hc hshortest hlast hd he =>
    have hlead : lead? b.toNat = _ :=
      lead?_eq_some_iff.mpr (.inr (.inr ⟨rfl, hb.1, hb.2, rfl, rfl⟩))
    show first index (b :: c :: d :: e :: rest) = _
    unfold first
    dsimp only
    rw [if_neg (by omega), hlead]
    dsimp only
    rw [if_neg (by split <;> split <;> omega), if_neg (by decide),
      if_neg (not_not_intro ((isContinuation_iff _).mpr hd)), if_neg (by decide),
      if_neg (not_not_intro ((isContinuation_iff _).mpr he))]
    rfl

/-- **What is read is a sequence** that the bytes begin with. -/
theorem sequence_of_first {bs : List UInt8} {index width : Nat} {c : Char}
    (h : first index bs = .ok (c, width)) :
    ∃ seq rest n, bs = seq ++ rest ∧ Sequence seq n ∧ c = Char.ofNat n ∧ width = seq.length := by
  unfold first at h
  cases bs with
  | nil => cases h
  | cons b₁ rest =>
    dsimp only at h
    split at h
    · rename_i hascii
      cases h
      exact ⟨[b₁], rest, _, rfl, .one hascii, rfl, rfl⟩
    split at h
    · cases h
    rename_i low high size hlead
    rw [lead?_eq_some_iff] at hlead
    cases rest with
    | nil => cases h
    | cons b₂ rest =>
      dsimp only at h
      split at h
      · cases h
      rename_i h₂
      split at h
      · cases h
        exact ⟨[b₁, b₂], rest, _, rfl, .two (by grind) (by grind), rfl, rfl⟩
      cases rest with
      | nil => cases h
      | cons b₃ rest =>
        dsimp only at h
        split at h
        · cases h
        rename_i h₃
        rw [Decidable.not_not, isContinuation_iff] at h₃
        split at h
        · cases h
          exact ⟨[b₁, b₂, b₃], rest, _, rfl,
            .three (by grind) (by grind) (by grind) (by grind) h₃, rfl, rfl⟩
        cases rest with
        | nil => cases h
        | cons b₄ rest =>
          dsimp only at h
          split at h
          · cases h
          rename_i h₄
          rw [Decidable.not_not, isContinuation_iff] at h₄
          cases h
          exact ⟨[b₁, b₂, b₃, b₄], rest, _, rfl,
            .four (by grind) (by grind) (by grind) (by grind) h₃ h₄, rfl, rfl⟩

/-! ## Sequences of characters -/

/-- A number below 256 as a byte. -/
theorem toNat_byte {n : Nat} (h : n < 256) : (UInt8.ofNat n).toNat = n :=
  UInt8.toNat_ofNat_of_lt' h

/-- **The bytes of a character are its sequence.** -/
theorem sequence_utf8EncodeChar (c : Char) : Sequence (String.utf8EncodeChar c) c.toNat := by
  -- no character is a surrogate, or lies beyond the last one
  have hvalid : c.val.toNat < 0xD800 ∨ 0xDFFF < c.val.toNat ∧ c.val.toNat < 0x110000 := c.valid
  unfold String.utf8EncodeChar
  show Sequence _ c.val.toNat
  generalize c.val.toNat = n at hvalid ⊢
  dsimp only
  split
  · have hb := toNat_byte (n := n) (by omega)
    have hseq := Sequence.one (b := .ofNat n) (by omega)
    rwa [hb] at hseq
  split
  · have hb := toNat_byte (n := n / 64 % 32 + 192) (by omega)
    have hc := toNat_byte (n := n % 64 + 128) (by omega)
    have hseq := Sequence.two (b := .ofNat (n / 64 % 32 + 192)) (c := .ofNat (n % 64 + 128))
      (by omega) (by omega)
    rwa [hb, hc, show (n / 64 % 32 + 192) % 32 * 64 + (n % 64 + 128) % 64 = n by omega] at hseq
  split
  · have hb := toNat_byte (n := n / 4096 % 16 + 224) (by omega)
    have hc := toNat_byte (n := n / 64 % 64 + 128) (by omega)
    have hd := toNat_byte (n := n % 64 + 128) (by omega)
    have hseq := Sequence.three (b := .ofNat (n / 4096 % 16 + 224))
      (c := .ofNat (n / 64 % 64 + 128)) (d := .ofNat (n % 64 + 128))
      (by omega) (by omega) (by omega) (by omega) (by omega)
    rwa [hb, hc, hd, show (n / 4096 % 16 + 224) % 16 * 4096 + (n / 64 % 64 + 128) % 64 * 64
      + (n % 64 + 128) % 64 = n by omega] at hseq
  · have hb := toNat_byte (n := n / 262144 % 8 + 240) (by omega)
    have hc := toNat_byte (n := n / 4096 % 64 + 128) (by omega)
    have hd := toNat_byte (n := n / 64 % 64 + 128) (by omega)
    have he := toNat_byte (n := n % 64 + 128) (by omega)
    have hseq := Sequence.four (b := .ofNat (n / 262144 % 8 + 240))
      (c := .ofNat (n / 4096 % 64 + 128)) (d := .ofNat (n / 64 % 64 + 128))
      (e := .ofNat (n % 64 + 128)) (by omega) (by omega) (by omega) (by omega) (by omega) (by omega)
    rwa [hb, hc, hd, he, show (n / 262144 % 8 + 240) % 8 * 262144
      + (n / 4096 % 64 + 128) % 64 * 4096 + (n / 64 % 64 + 128) % 64 * 64 + (n % 64 + 128) % 64 = n
      by omega] at hseq

/-- **A sequence makes up a character**, whose bytes it is. -/
theorem utf8EncodeChar_of_sequence {seq : List UInt8} {n : Nat} (h : Sequence seq n) :
    String.utf8EncodeChar (Char.ofNat n) = seq := by
  have hbyte : ∀ {b : UInt8} {k : Nat}, k = b.toNat → UInt8.ofNat k = b := by
    rintro b k rfl
    exact UInt8.ofNat_toNat
  have hnumber : ∀ {n : Nat}, n < 0xD800 ∨ 0xDFFF < n ∧ n < 0x110000 →
      (Char.ofNat n).val.toNat = n := fun {n} hn => by
    rw [Char.ofNat, dif_pos hn]
    rfl
  unfold String.utf8EncodeChar
  dsimp only
  cases h with
  | @one b hb => rw [hnumber (.inl (by omega)), if_pos (by omega), hbyte rfl]
  | @two b c hb hc =>
    rw [hnumber (.inl (by omega)), if_neg (by omega), if_pos (by omega), hbyte (b := b) (by omega),
      hbyte (b := c) (by omega)]
  | @three b c d hb hc hshortest hsurrogate hd =>
    rw [hnumber (by omega), if_neg (by omega), if_neg (by omega), if_pos (by omega),
      hbyte (b := b) (by omega), hbyte (b := c) (by omega), hbyte (b := d) (by omega)]
  | @four b c d e hb hc hshortest hlast hd he =>
    rw [hnumber (by omega), if_neg (by omega), if_neg (by omega), if_neg (by omega),
      hbyte (b := b) (by omega), hbyte (b := c) (by omega), hbyte (b := d) (by omega),
      hbyte (b := e) (by omega)]

/-! ## Texts -/

/-- The bytes of a character that was read are passed over. -/
theorem decodeFrom_append (skipped rest : List UInt8) (index : Nat) :
    decodeFrom index skipped.length (skipped ++ rest)
      = decodeFrom (index + skipped.length) 0 rest := by
  induction skipped generalizing index with
  | nil => rfl
  | cons b skipped ih =>
    rw [List.cons_append, List.length_cons, decodeFrom, ih, Nat.add_right_comm, Nat.add_assoc]

/-- **A sequence is a character of the text**, and the rest is read behind it. -/
theorem decodeFrom_of_sequence {seq : List UInt8} {n : Nat} (h : Sequence seq n)
    (rest : List UInt8) (index : Nat) :
    decodeFrom index 0 (seq ++ rest)
      = match decodeFrom (index + seq.length) 0 rest with
        | .error fault => .error fault
        | .ok cs => .ok (Char.ofNat n :: cs) := by
  have hfirst := first_of_sequence h rest index
  obtain ⟨b, others, rfl⟩ : ∃ b others, seq = b :: others := by
    cases h <;> exact ⟨_, _, rfl⟩
  rw [List.cons_append] at hfirst ⊢
  rw [decodeFrom, hfirst]
  dsimp only
  rw [List.length_cons, Nat.add_sub_cancel, decodeFrom_append]
  have hindex : index + 1 + others.length = index + (others.length + 1) := by omega
  cases hrest : decodeFrom (index + (others.length + 1)) 0 rest <;> simp only [hindex, hrest]

/-- Characters are read back from their bytes. -/
theorem decodeFrom_utf8EncodeChar (s : List Char) (index : Nat) :
    decodeFrom index 0 (s.flatMap String.utf8EncodeChar) = .ok s := by
  induction s generalizing index with
  | nil => rfl
  | cons c s ih =>
    rw [List.flatMap_cons, decodeFrom_of_sequence (sequence_utf8EncodeChar c), ih,
      Char.ofNat_toNat]

/-- Bytes that are read as characters are those of the characters. -/
theorem eq_of_decodeFrom {bs : List UInt8} {index : Nat} {s : List Char}
    (h : decodeFrom index 0 bs = .ok s) : bs = s.flatMap String.utf8EncodeChar := by
  induction hlength : bs.length using Nat.strongRecOn generalizing bs index s with
  | ind length ih =>
    subst hlength
    cases bs with
    | nil =>
      cases h
      rfl
    | cons b others =>
      cases hfirst : first index (b :: others) with
      | error fault =>
        rw [decodeFrom, hfirst] at h
        cases h
      | ok read =>
        obtain ⟨seq, rest, n, heq, hseq, -, -⟩ := sequence_of_first hfirst
        have hpos : 0 < seq.length := by
          cases hseq <;> exact Nat.succ_pos _
        rw [heq] at h ih ⊢
        rw [decodeFrom_of_sequence hseq] at h
        split at h
        · cases h
        · rename_i cs hrest
          cases h
          have hlater := ih rest.length (by rw [List.length_append]; omega) hrest rfl
          rw [List.flatMap_cons, utf8EncodeChar_of_sequence hseq, ← hlater]

/-- **Bytes hold a text exactly if they are its bytes.** -/
theorem decode_eq_ok_iff {bs : List UInt8} {s : String} : decode bs = .ok s ↔ bs = bytes s := by
  have hbytes : bytes s = s.toList.flatMap String.utf8EncodeChar := by
    rw [← bytes_ofList, String.ofList_toList]
  rw [hbytes]
  constructor
  · intro h
    unfold decode at h
    cases hchars : decodeFrom 0 0 bs with
    | error fault =>
      rw [hchars] at h
      cases h
    | ok cs =>
      rw [hchars] at h
      cases h
      rw [String.toList_ofList]
      exact eq_of_decodeFrom hchars
  · rintro rfl
    rw [decode, decodeFrom_utf8EncodeChar]
    exact congrArg Except.ok (String.ofList_toList)

/-- The bytes of a text hold it. -/
theorem decode_bytes (s : String) : decode (bytes s) = .ok s := decode_eq_ok_iff.mpr rfl

end CallScope.Text.Utf8
