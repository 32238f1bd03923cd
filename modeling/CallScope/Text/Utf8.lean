/-!
# Bytes as text

A file holds bytes, and what is read from it is the text they encode in
UTF-8. Where they encode none, the fault says at which byte the first bad
sequence begins and how many bytes of it can be told to be bad, or that the
bytes end in the middle of a character.

The ranges are those of the standard: a lead byte admits a range for the
second byte that rules out overlong forms, surrogates and values above
`10FFFF`, and every later byte is a continuation byte.
-/

namespace CallScope.Text.Utf8

/-- Why bytes are not UTF-8. -/
inductive Fault where
  /-- `length` bytes from `index` on cannot begin or continue a character. -/
  | invalid (index length : Nat)
  /-- The bytes end within the character that begins at `index`. -/
  | incomplete (index : Nat)
deriving DecidableEq

/-- The wording of a fault. -/
def Fault.message : Fault → String
  | .invalid index length =>
    "invalid utf-8 sequence of " ++ toString length ++ " bytes from index " ++ toString index
  | .incomplete index => "incomplete utf-8 byte sequence from index " ++ toString index

/-- The range of the second byte after a lead byte, and how many bytes the
character has. -/
def lead? (b : Nat) : Option (Nat × Nat × Nat) :=
  if 0xC2 ≤ b ∧ b ≤ 0xDF then some (0x80, 0xBF, 2)
  else if b = 0xE0 then some (0xA0, 0xBF, 3)
  else if b = 0xED then some (0x80, 0x9F, 3)
  else if 0xE1 ≤ b ∧ b ≤ 0xEF then some (0x80, 0xBF, 3)
  else if b = 0xF0 then some (0x90, 0xBF, 4)
  else if 0xF1 ≤ b ∧ b ≤ 0xF3 then some (0x80, 0xBF, 4)
  else if b = 0xF4 then some (0x80, 0x8F, 4)
  else none

/-- A byte that continues a character. -/
def isContinuation (b : Nat) : Bool := 0x80 ≤ b && b ≤ 0xBF

/-- The first character of the bytes and how many of them it takes. -/
def first (index : Nat) : List UInt8 → Except Fault (Char × Nat)
  | [] => .error (.incomplete index)
  | b :: rest =>
    let b₁ := b.toNat
    if b₁ < 0x80 then .ok (Char.ofNat b₁, 1)
    else match lead? b₁ with
      | none => .error (.invalid index 1)
      | some (low, high, width) =>
        match rest with
        | [] => .error (.incomplete index)
        | c :: rest =>
          let b₂ := c.toNat
          if ¬ (low ≤ b₂ ∧ b₂ ≤ high) then .error (.invalid index 1)
          else if width = 2 then .ok (Char.ofNat (b₁ % 32 * 64 + b₂ % 64), 2)
          else match rest with
            | [] => .error (.incomplete index)
            | d :: rest =>
              let b₃ := d.toNat
              if ¬ isContinuation b₃ then .error (.invalid index 2)
              else if width = 3 then
                .ok (Char.ofNat (b₁ % 16 * 4096 + b₂ % 64 * 64 + b₃ % 64), 3)
              else match rest with
                | [] => .error (.incomplete index)
                | e :: _ =>
                  let b₄ := e.toNat
                  if ¬ isContinuation b₄ then .error (.invalid index 3)
                  else .ok (Char.ofNat
                    (b₁ % 8 * 262144 + b₂ % 64 * 4096 + b₃ % 64 * 64 + b₄ % 64), 4)

/-- The characters of the bytes after the first `skipped`, which belong to
a character already read. -/
def decodeFrom (index : Nat) : Nat → List UInt8 → Except Fault (List Char)
  | _, [] => .ok []
  | skipped + 1, _ :: rest => decodeFrom (index + 1) skipped rest
  | 0, b :: rest =>
    match first index (b :: rest) with
    | .error fault => .error fault
    | .ok (c, width) =>
      match decodeFrom (index + 1) (width - 1) rest with
      | .error fault => .error fault
      | .ok cs => .ok (c :: cs)

/-- **The text of the bytes**, or the first place where they encode none. -/
def decode (bytes : List UInt8) : Except Fault String :=
  (decodeFrom 0 0 bytes).map String.ofList

/-! ## Places in a text -/

/-- How many bytes a text takes. -/
def size : List Char → Nat
  | [] => 0
  | c :: s => c.utf8Size + size s

@[simp] theorem size_nil : size [] = 0 := rfl

@[simp] theorem size_cons (c : Char) (s : List Char) : size (c :: s) = c.utf8Size + size s := rfl

theorem size_append (s rest : List Char) : size (s ++ rest) = size s + size rest := by
  induction s with
  | nil => rw [List.nil_append, size_nil, Nat.zero_add]
  | cons c s ih => rw [List.cons_append, size_cons, size_cons, ih, Nat.add_assoc]

/-- The text behind the first `count` bytes, unless they end within a
character. -/
def drop? : (count : Nat) → List Char → Option (List Char)
  | 0, s => some s
  | _ + 1, [] => none
  | count + 1, c :: s => if c.utf8Size ≤ count + 1 then drop? (count + 1 - c.utf8Size) s else none

/-- The first `count` bytes of a text, unless they end within a character. -/
def take? : (count : Nat) → List Char → Option (List Char)
  | 0, _ => some []
  | _ + 1, [] => none
  | count + 1, c :: s =>
    if c.utf8Size ≤ count + 1 then (take? (count + 1 - c.utf8Size) s).map (c :: ·) else none

/-- **The part of a text** from one byte on and up to another, if characters
begin at both. -/
def part? (start stop : Nat) (s : List Char) : Option (List Char) :=
  (drop? start s).bind (take? (stop - start))

theorem drop?_size_append (s rest : List Char) : drop? (size s) (s ++ rest) = some rest := by
  induction s with
  | nil => rw [size_nil, drop?, List.nil_append]
  | cons c s ih =>
    obtain ⟨n, hn⟩ : ∃ n, c.utf8Size + size s = n + 1 :=
      Nat.exists_eq_succ_of_ne_zero (by have := c.utf8Size_pos; omega)
    rw [size_cons, List.cons_append, hn, drop?, if_pos (by omega), ← hn, Nat.add_sub_cancel_left,
      ih]

theorem take?_size_append (s rest : List Char) : take? (size s) (s ++ rest) = some s := by
  induction s with
  | nil => rw [size_nil, take?]
  | cons c s ih =>
    obtain ⟨n, hn⟩ : ∃ n, c.utf8Size + size s = n + 1 :=
      Nat.exists_eq_succ_of_ne_zero (by have := c.utf8Size_pos; omega)
    rw [size_cons, List.cons_append, hn, take?, if_pos (by omega), ← hn, Nat.add_sub_cancel_left,
      ih, Option.map_some]

/-- A part whose two places are those of a piece of the text is that piece. -/
theorem part?_append (before piece after : List Char) :
    part? (size before) (size before + size piece) (before ++ (piece ++ after)) = some piece := by
  rw [part?, drop?_size_append, Option.bind_some, Nat.add_sub_cancel_left, take?_size_append]

end CallScope.Text.Utf8
