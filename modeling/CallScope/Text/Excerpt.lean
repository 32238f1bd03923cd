/-!
# Excerpts

Messages and tool arguments are shown up to a number of characters. A
character is a Unicode scalar value: an accent written as its own character
counts for itself, and no character is cut in two.
-/

namespace CallScope.Text

/-- **The first `limit` characters** of a text. -/
def excerpt (limit : Nat) (s : String) : String := String.ofList (s.toList.take limit)

@[simp] theorem toList_excerpt (limit : Nat) (s : String) :
    (excerpt limit s).toList = s.toList.take limit := by
  simp [excerpt]

/-- A text within the limit is shown whole. -/
theorem excerpt_of_length_le {limit : Nat} {s : String} (h : s.toList.length ≤ limit) :
    excerpt limit s = s := by
  rw [excerpt, List.take_of_length_le h, String.ofList_toList]

/-- An excerpt of an excerpt is the shorter of the two. -/
theorem excerpt_excerpt (m n : Nat) (s : String) :
    excerpt m (excerpt n s) = excerpt (min m n) s := by
  simp [excerpt, List.take_take]

end CallScope.Text
