/-!
Blank characters, and texts without blanks at their ends.

Blank is the Unicode property White_Space.
-/

namespace FeedMonitor.Text

def isBlank (c : Char) : Bool :=
  let code := c.toNat
  (9 ≤ code && code ≤ 13) || code == 0x20 || code == 0x85 || code == 0xa0 || code == 0x1680
    || (0x2000 ≤ code && code ≤ 0x200a) || code == 0x2028 || code == 0x2029 || code == 0x202f
    || code == 0x205f || code == 0x3000

def trimStart (cs : List Char) : List Char := cs.dropWhile isBlank

def trimEnd (cs : List Char) : List Char := (cs.reverse.dropWhile isBlank).reverse

def trimChars (cs : List Char) : List Char := trimEnd (trimStart cs)

def trim (s : String) : String := String.ofList (trimChars s.toList)

/-- The trimmed text, when something is left of it. -/
def nonBlank? (s : String) : Option String :=
  let trimmed := trim s
  if trimmed.isEmpty then none else some trimmed

theorem head?_trimStart (cs : List Char) : ∀ c ∈ (trimStart cs).head?, isBlank c = false := by
  intro c member
  have h := List.head?_dropWhile_not isBlank cs
  simp only [trimStart] at member
  rw [Option.mem_def] at member
  rw [member] at h
  simpa using h

theorem trimStart_eq_self {cs : List Char} (h : ∀ c ∈ cs.head?, isBlank c = false) :
    trimStart cs = cs := by
  cases cs with
  | nil => rfl
  | cons c rest => simp [trimStart, h c (by simp)]

theorem all_trimStart (cs : List Char) : (trimStart cs).all isBlank = cs.all isBlank := by
  induction cs with
  | nil => rfl
  | cons c rest ih => cases blank : isBlank c <;> simp_all [trimStart]

theorem isEmpty_trimStart (cs : List Char) : (trimStart cs).isEmpty = cs.all isBlank := by
  induction cs with
  | nil => rfl
  | cons c rest ih => cases blank : isBlank c <;> simp_all [trimStart]

/-- Nothing is left of a text if all of it is blank. -/
theorem isEmpty_trim (s : String) : (trim s).isEmpty = s.toList.all isBlank := by
  have chars : (trim s).isEmpty = (trimChars s.toList).isEmpty := by
    rw [Bool.eq_iff_iff, String.isEmpty_iff, List.isEmpty_iff, trim, String.ofList_eq_empty_iff]
  have ends : trimEnd (trimStart s.toList) = (trimStart (trimStart s.toList).reverse).reverse := rfl
  rw [chars, trimChars, ends, List.isEmpty_reverse, isEmpty_trimStart, List.all_reverse,
    all_trimStart]

end FeedMonitor.Text
