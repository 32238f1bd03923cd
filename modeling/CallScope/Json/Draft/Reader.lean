import CallScope.Json.Draft.Scan

/-!
# Reading a JSON text

`Draft.ofText` reads the value a text begins with into a draft and says
whether anything but blanks follows it. It fails on no text: where the
text is no JSON, the draft holds the flaw and ends there.
-/

namespace CallScope.Json

namespace Scan

/-- The ending of a container in which `flaw` was met. -/
def cutAt (afterComma : Bool) (flaw : Flaw) : Ending :=
  .cut afterComma flaw flaw

/-- A draft read from a text, and what is left of it, shorter than `bound`.
Nothing is left where the draft holds a flaw that stops every reader. -/
inductive DraftRead (bound : Nat) where
  | done (draft : Draft) (rest : List Char) (shorter : rest.length < bound)
  | stuck (draft : Draft)

/-- A literal or number that begins with `c`, followed by `r`. -/
def scalar (c : Char) (r : List Char) : DraftRead (r.length + 1) :=
  let literal (letters : List Char) (draft : Draft) : DraftRead (r.length + 1) :=
    match word letters r with
    | .error flaw => .stuck (.broken flaw flaw .malformed)
    | .ok rest => .done draft rest.1 (Nat.lt_succ_of_le rest.2)
  if c = 'n' then literal ['u', 'l', 'l'] .null
  else if c = 't' then literal ['r', 'u', 'e'] (.bool true)
  else if c = 'f' then literal ['a', 'l', 's', 'e'] (.bool false)
  else if c = '-' then
    match unsignedNumber true r with
    | .error (reading, skipping) => .stuck (.broken reading skipping .malformed)
    | .ok (n, rest) => .done (.number n) rest.1 (Nat.lt_succ_of_lt rest.2)
  else if Text.Numeral.isDigit c then
    match unsignedNumber false (c :: r) with
    | .error (reading, skipping) => .stuck (.broken reading skipping .malformed)
    | .ok (n, rest) => .done (.number n) rest.1 rest.2
  else .stuck (.broken .malformed .malformed .malformed)

mutual
/-- **The value a text begins with.** -/
def value (s : List Char) : DraftRead s.length :=
  match h : skipBlank s with
  | [] => .stuck (.broken .truncated .truncated .truncated)
  | c :: r =>
    have shorter : r.length < s.length := by
      have := length_skipBlank_le s
      rw [h, List.length_cons] at this
      omega
    if c = '"' then
      match string s.length true [] r shorter with
      | .done text rest h => .done (.string text) rest h
      | .broken reading skipping => .stuck (.broken reading skipping reading)
    else if c = '[' then
      match h : skipBlank r with
      | [] => .stuck (.array [] (cutAt false .truncated))
      | ']' :: rest => .done (.array [] .closed) rest (by
          have := length_skipBlank_le r
          rw [h, List.length_cons] at this
          omega)
      | _ => items s.length [] r shorter
    else if c = '\x7b' then
      match h : skipBlank r with
      | [] => .stuck (.object [] (cutAt false .truncated))
      | '\x7d' :: rest => .done (.object [] .closed) rest (by
          have := length_skipBlank_le r
          rw [h, List.length_cons] at this
          omega)
      | '"' :: key => members s.length [] key (by
          have := length_skipBlank_le r
          rw [h, List.length_cons] at this
          omega)
      | _ => .stuck (.object [] (cutAt false .malformed))
    else
      match scalar c r with
      | .done draft rest h => .done draft rest (by omega)
      | .stuck draft => .stuck draft
termination_by (s.length, 0)
decreasing_by
  all_goals
    first
    | exact Prod.Lex.left _ _ shorter
    | exact Prod.Lex.left _ _ (by
        have := length_skipBlank_le r
        rw [h, List.length_cons] at this
        omega)

/-- The rest of an array from a place on where an item is wanted. `before`
are the items read so far, last first. -/
def items (bound : Nat) (before : List Draft) (s : List Char) (h : s.length < bound) :
    DraftRead bound :=
  match value s with
  | .stuck item => .stuck (.array (item :: before).reverse .closed)
  | .done item s₁ h₁ =>
    match h₂ : skipBlank s₁ with
    | [] => .stuck (.array (item :: before).reverse (cutAt false .truncated))
    | c :: s₂ =>
      have shorter : s₂.length < s.length := by
        have := length_skipBlank_le s₁
        rw [h₂, List.length_cons] at this
        omega
      if c = ']' then
        .done (.array (item :: before).reverse .closed) s₂ (Nat.lt_trans shorter h)
      else if c = ',' then
        match skipBlank s₂ with
        | [] => .stuck (.array (item :: before).reverse (cutAt true .truncated))
        | ']' :: _ => .stuck (.array (item :: before).reverse (cutAt true .malformed))
        | _ => items bound (item :: before) s₂ (Nat.lt_trans shorter h)
      else .stuck (.array (item :: before).reverse (cutAt false .malformed))
termination_by (s.length, 1)
decreasing_by
  · exact Prod.Lex.right _ (by decide)
  · exact Prod.Lex.left _ _ shorter

/-- The rest of an object from behind the opening quote of a key on.
`before` are the members read so far, last first. -/
def members (bound : Nat) (before : List (Option String × Draft)) (s : List Char)
    (h : s.length < bound) : DraftRead bound :=
  match string (s.length + 1) true [] s (Nat.lt_succ_self _) with
  | .broken reading skipping =>
    .stuck (.object before.reverse (.cut (!before.isEmpty) reading skipping))
  | .done key s₁ h₁ =>
    let stuckWith (value : Draft) : DraftRead bound :=
      .stuck (.object ((key, value) :: before).reverse .closed)
    match h₂ : skipBlank s₁ with
    | [] => stuckWith (.broken .truncated .truncated .truncated)
    | c :: s₂ =>
      have shorter₂ : s₂.length < s.length := by
        have := length_skipBlank_le s₁
        rw [h₂, List.length_cons] at this
        omega
      if c = ':' then
        match value s₂ with
        | .stuck draft => stuckWith draft
        | .done draft s₃ h₃ =>
          let all := (key, draft) :: before
          match h₄ : skipBlank s₃ with
          | [] => .stuck (.object all.reverse (cutAt false .truncated))
          | c :: s₄ =>
            have shorter₄ : s₄.length < s.length := by
              have := length_skipBlank_le s₃
              rw [h₄, List.length_cons] at this
              omega
            if c = '\x7d' then
              .done (.object all.reverse .closed) s₄ (Nat.lt_trans shorter₄ h)
            else if c = ',' then
              match h₅ : skipBlank s₄ with
              | [] => .stuck (.object all.reverse (cutAt true .truncated))
              | '"' :: s₅ =>
                have shorter₅ : s₅.length < s.length := by
                  have := length_skipBlank_le s₄
                  rw [h₅, List.length_cons] at this
                  omega
                members bound all s₅ (Nat.lt_trans shorter₅ h)
              | _ => .stuck (.object all.reverse (cutAt true .malformed))
            else .stuck (.object all.reverse (cutAt false .malformed))
      else stuckWith (.broken .malformed .malformed .malformed)
termination_by (s.length, 1)
decreasing_by
  · exact Prod.Lex.left _ _ shorter₂
  · exact Prod.Lex.left _ _ shorter₅
end

end Scan

/-- **The draft of a text**, and whether something other than blanks follows
the value. -/
def Draft.ofText (text : String) : Draft × Bool :=
  match Scan.value text.toList with
  | .done draft rest _ => (draft, ! (Scan.skipBlank rest).isEmpty)
  | .stuck draft => (draft, false)

/-- How many containers a text may nest. -/
def nestingLimit : Nat := 127

/-- **The value of a text**, or the first flaw in it. -/
def Value.ofText (text : String) : Except Flaw Value :=
  let (draft, more) := Draft.ofText text
  match draft.value (some nestingLimit) with
  | .error flaw => .error flaw
  | .ok v => if more then .error .malformed else .ok v

end CallScope.Json
