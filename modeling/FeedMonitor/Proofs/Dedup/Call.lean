import FeedMonitor.Dedup.Limiter
import FeedMonitor.Proofs.Lookup
import Mathlib.Data.List.Dedup
import Mathlib.Data.List.DropRight
import Mathlib.Data.List.Induction

/-!
Sequences of calls of a limiter, and what one call does to one key.

What is held of a key changes by attempts at that key only, unless the key is forgotten.
-/

namespace FeedMonitor.Limiter

/-- An emission that asks whether it may go on. -/
structure Attempt where
  now : Span
  key : Key
  context : Context

inductive Call
  | attempt (attempt : Attempt)
  | reconfigure (window : Span) (threshold : Nat)

def Call.keys : Call → List Key
  | .attempt tried => [tried.key]
  | .reconfigure _ _ => []

/-- What becomes of an emission. -/
def answer (limiter : Limiter) (attempt : Attempt) : Option Context :=
  (limiter.offer attempt.now attempt.key attempt.context).1

def take (limiter : Limiter) : Call → Limiter
  | .attempt attempt => (limiter.offer attempt.now attempt.key attempt.context).2.1
  | .reconfigure window threshold => limiter.reconfigure window threshold

def after (limiter : Limiter) (calls : List Call) : Limiter := calls.foldl take limiter

theorem after_append (limiter : Limiter) (calls more : List Call) :
    limiter.after (calls ++ more) = (limiter.after calls).after more := List.foldl_append

theorem after_concat (limiter : Limiter) (calls : List Call) (call : Call) :
    limiter.after (calls ++ [call]) = (limiter.after calls).take call := limiter.after_append ..

/-- What is held of a key. -/
def held? (limiter : Limiter) (key : Key) : Option Entry := limiter.entries.lookup key.text

def tracks (limiter : Limiter) (key : Key) : Bool := (limiter.held? key).isSome

/-- The texts of the keys that are tracked, the one attempted longest ago first. -/
def texts (limiter : Limiter) : List String := limiter.entries.map Prod.fst

/-! ### Keys -/

theorem colon_notMem_name (severity : Severity) : ':' ∉ severity.name.toList := by
  cases severity <;> decide

/-- No name of a severity has the colon that ends it, so that a text has one severity. -/
theorem Key.text_injective : Function.Injective Key.text := by
  rintro ⟨severity, subject⟩ ⟨severity', subject'⟩ same
  have letters : severity.name.toList ++ ':' :: subject.toList =
      severity'.name.toList ++ ':' :: subject'.toList := by
    simpa [Key.text] using congrArg String.toList same
  have names : severity.name.toList = severity'.name.toList := by
    rcases List.append_eq_append_iff.mp letters with ⟨rest, split, behind⟩ | ⟨rest, split, behind⟩
    · cases rest with
      | nil => simpa using split.symm
      | cons letter rest =>
        have colon := (List.cons.inj behind).1
        have absent := colon_notMem_name severity'
        simp [split, ← colon] at absent
    · cases rest with
      | nil => simpa using split
      | cons letter rest =>
        have colon := (List.cons.inj behind).1
        have absent := colon_notMem_name severity
        simp [split, ← colon] at absent
  rw [names, List.append_cancel_left_eq] at letters
  rw [Severity.name_injective (String.toList_injective names),
    String.toList_injective (List.cons.inj letters).2]

/-! ### Attempts -/

/-- The verdict on an attempt, by what is held of its key, and what is held of it afterwards. -/
def meet (window : Span) (threshold : Nat) (held : Option Entry) (now : Span) : Verdict × Entry :=
  held.elim (.pass, ⟨now, 0⟩) fun entry => judge window threshold entry now

/-- The context with which an emission goes on after a verdict. -/
def Verdict.apply (window : Span) (context : Context) : Verdict → Option Context
  | .suppress => none
  | .pass => some context
  | .mark suppressed => some (annotate context suppressed window)

theorem attempt_of_tracked {limiter : Limiter} {text : String} {entry : Entry}
    (found : limiter.entries.lookup text = some entry) (now : Span) :
    limiter.attempt now text =
      ((judge limiter.window limiter.threshold entry now).1,
        { limiter with
          entries := without text limiter.entries ++
            [(text, (judge limiter.window limiter.threshold entry now).2)] }, none) := by
  simp only [attempt, found]

theorem attempt_of_untracked {limiter : Limiter} {text : String}
    (absent : limiter.entries.lookup text = none) (now : Span) :
    limiter.attempt now text =
      (.pass, { limiter with entries := limiter.makeRoom.1 ++ [(text, ⟨now, 0⟩)] },
        limiter.makeRoom.2) := by
  simp only [attempt, absent]

theorem answer_eq (limiter : Limiter) (attempt : Attempt) :
    limiter.answer attempt =
      (meet limiter.window limiter.threshold (limiter.held? attempt.key) attempt.now).1.apply
        limiter.window attempt.context := by
  unfold answer offer held?
  cases held : limiter.entries.lookup attempt.key.text with
  | none => simp only [attempt_of_untracked held, meet, Option.elim_none, Verdict.apply]
  | some entry =>
    simp only [attempt_of_tracked held, meet, Option.elim_some]
    cases (judge limiter.window limiter.threshold entry attempt.now).1 <;> rfl

theorem mem_texts_iff {limiter : Limiter} {text : String} :
    text ∈ limiter.texts ↔ (limiter.entries.lookup text).isSome := by
  simp [texts]

theorem take_attempt (limiter : Limiter) (attempt : Attempt) :
    limiter.take (.attempt attempt) = (limiter.attempt attempt.now attempt.key.text).2.1 := rfl

/-- An attempt leaves the settings as they are. -/
theorem settings_take_attempt (limiter : Limiter) (attempt : Attempt) :
    (limiter.take (.attempt attempt)).window = limiter.window ∧
      (limiter.take (.attempt attempt)).threshold = limiter.threshold ∧
      (limiter.take (.attempt attempt)).mostKeys = limiter.mostKeys := by
  rw [take_attempt]
  cases held : limiter.entries.lookup attempt.key.text with
  | none => simp only [attempt_of_untracked held, and_self]
  | some entry => simp only [attempt_of_tracked held, and_self]

theorem lookup_without_self (text : String) (entries : List (String × Entry)) :
    (without text entries).lookup text = none := by
  refine List.lookup_eq_none_iff.mpr fun other member => ?_
  have differ : (other.1 != text) = true := (List.mem_filter.mp member).2
  rwa [bne_comm]

theorem lookup_without {text other : String} (differ : other ≠ text)
    (entries : List (String × Entry)) :
    (without text entries).lookup other = entries.lookup other :=
  lookup_filter_ne differ entries

theorem sublist_makeRoom (limiter : Limiter) : limiter.makeRoom.1.Sublist limiter.entries := by
  unfold makeRoom
  split
  · exact List.drop_sublist ..
  · exact List.Sublist.refl _

/-- An attempt leaves of its key what the verdict leaves. -/
theorem held?_take_self (limiter : Limiter) (attempt : Attempt) :
    (limiter.take (.attempt attempt)).held? attempt.key =
      some (meet limiter.window limiter.threshold (limiter.held? attempt.key) attempt.now).2 := by
  rw [take_attempt]
  unfold held?
  cases held : limiter.entries.lookup attempt.key.text with
  | none =>
    have absent := limiter.sublist_makeRoom.lookup_eq_none held
    simp [attempt_of_untracked held, List.lookup_append, absent, meet]
  | some entry =>
    simp [attempt_of_tracked held, List.lookup_append, lookup_without_self, meet]

/-- An attempt at one key leaves what is held of another one, unless that is forgotten. -/
theorem held?_take_other {limiter : Limiter} (distinct : limiter.texts.Nodup)
    {attempt : Attempt} {key : Key} (differ : key ≠ attempt.key)
    (kept : (limiter.take (.attempt attempt)).tracks key) :
    (limiter.take (.attempt attempt)).held? key = limiter.held? key := by
  have apart : key.text ≠ attempt.key.text := fun same => differ (Key.text_injective same)
  have unlike (entry : Entry) : [(attempt.key.text, entry)].lookup key.text = none := by
    simpa [List.lookup_eq_none_iff] using apart
  rw [take_attempt] at kept ⊢
  unfold tracks held? at kept
  unfold held?
  cases held : limiter.entries.lookup attempt.key.text with
  | none =>
    rw [attempt_of_untracked held] at kept ⊢
    simp only [List.lookup_append, unlike, Option.or_none] at kept ⊢
    obtain ⟨entry, found⟩ := Option.isSome_iff_exists.mp kept
    rw [found, lookup_of_sublist distinct limiter.sublist_makeRoom found]
  | some entry =>
    rw [attempt_of_tracked held]
    simp only [List.lookup_append, unlike, Option.or_none, lookup_without apart]

end FeedMonitor.Limiter
