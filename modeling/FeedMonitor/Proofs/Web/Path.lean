import FeedMonitor.Web.Url

/-!
What is appended to the text of a URL stays at the end of the part that it falls into: of the path,
if neither a query nor a fragment begins before it, else of the query or the fragment.
-/

namespace FeedMonitor

theorem Text.splitOn_append (separator : Char) (cs ds : List Char) :
    splitOn separator (cs ++ separator :: ds) = splitOn separator cs ++ splitOn separator ds := by
  induction cs with
  | nil => simp [splitOn]
  | cons c rest ih =>
    rw [List.cons_append]
    simp only [splitOn, ih]
    split
    · rfl
    · cases parts : splitOn separator rest with
      | nil => exact absurd parts (splitOn_ne_nil separator rest)
      | cons part more => rfl

theorem Text.joinWith_append {separator : Char} {parts others : List (List Char)}
    (some : parts ≠ []) (more : others ≠ []) :
    joinWith separator (parts ++ others) =
      joinWith separator parts ++ separator :: joinWith separator others := by
  induction parts with
  | nil => contradiction
  | cons part rest ih =>
    cases rest with
    | nil =>
      cases others with
      | nil => contradiction
      | cons other others => rfl
    | cons next rest =>
      have later := ih (List.cons_ne_nil _ _)
      simp only [List.cons_append, joinWith] at later ⊢
      rw [later, List.append_assoc, List.cons_append]

namespace Web

theorem percentEncode_append (reserved : Char → Bool) (cs ds : List Char) :
    percentEncode reserved (cs ++ ds) = percentEncode reserved cs ++ percentEncode reserved ds :=
  List.flatMap_append

namespace Url

/-- A segment that is neither one dot nor two, in any spelling. -/
def Named (segment : List Char) : Prop :=
  plainDots segment ≠ ['.'] ∧ plainDots segment ≠ ['.', '.']

theorem followSegments_named {names : List (List Char)} (named : ∀ name ∈ names, Named name)
    (done : List (List Char)) : followSegments done names = names.reverse ++ done := by
  induction names generalizing done with
  | nil => rfl
  | cons name rest ih =>
    obtain ⟨one, two⟩ := named name List.mem_cons_self
    have later :=
      ih (fun other member => named other (List.mem_cons_of_mem _ member)) (name :: done)
    simp only [followSegments, one, two, if_false, decide_false, Bool.or_self, Bool.false_and,
      Bool.false_eq_true, later]
    simp

/-- Segments in front of others leave some of theirs. -/
theorem exists_followSegments {names : List (List Char)} (some : names ≠ [])
    (done segments : List (List Char)) :
    ∃ kept, followSegments done (segments ++ names) = followSegments kept names := by
  induction segments generalizing done with
  | nil => exact ⟨done, rfl⟩
  | cons segment rest ih =>
    have filled : (rest ++ names).isEmpty = false := by
      rw [List.isEmpty_eq_false_iff]
      exact fun nothing => some (List.append_eq_nil_iff.mp nothing).2
    simp only [List.cons_append, followSegments, filled, Bool.and_false, Bool.false_eq_true,
      if_false]
    exact ih _

/-- Names after a slash stand at the end of the path. -/
theorem exists_pathText {names : List (List Char)} (some : names ≠ [])
    (named : ∀ name ∈ names, Named name) {special : Bool} {cs : List Char}
    {front : List (List Char)} (segmented : segments special cs = front ++ names) :
    ∃ start, pathText special cs =
      String.ofList (start ++ '/' :: Text.joinWith '/' (names.map (percentEncode inPath))) := by
  obtain ⟨kept, follow⟩ := exists_followSegments some [] front
  have followed : (followSegments [] (segments special cs)).reverse = kept.reverse ++ names := by
    rw [segmented, follow, followSegments_named named, List.reverse_append, List.reverse_reverse]
  rw [pathText, followed, List.map_append]
  cases ends : kept.reverse.map (percentEncode inPath) with
  | nil => exact ⟨[], rfl⟩
  | cons first more =>
    have filled : names.map (percentEncode inPath) ≠ [] := fun nothing =>
      some (List.map_eq_nil_iff.mp nothing)
    rw [Text.joinWith_append (List.cons_ne_nil _ _) filled]
    exact ⟨'/' :: Text.joinWith '/' (first :: more), by simp⟩

/-- A route: names that are written as they are in every part of a URL, each after a slash. -/
structure Route (route : List Char) (names : List (List Char)) : Prop where
  filled : names ≠ []
  joined : route = '/' :: Text.joinWith '/' names
  segmented : segments true (Text.joinWith '/' names) = names
  named : ∀ name ∈ names, Named name
  plain : ∀ c ∈ route, 0x20 < c.toNat ∧ c ≠ '?' ∧ c ≠ '#'
  inPath : names.map (percentEncode inPath) = names
  inQuery : percentEncode inSpecialQuery route = route
  inFragment : percentEncode inFragment route = route

/-- A route that is appended to a path stands at its end. -/
theorem Route.suffix_path {route : List Char} {names : List (List Char)} (known : Route route names)
    (cs : List Char) : route <:+ (hierarchicalPath true (cs ++ route)).toList := by
  have ends {ds : List Char} {front : List (List Char)}
      (segmented : segments true ds = front ++ names) : route <:+ (pathText true ds).toList := by
    obtain ⟨start, path⟩ := exists_pathText known.filled known.named segmented
    rw [path, String.toList_ofList, known.inPath, ← known.joined]
    exact List.suffix_append start route
  have appended (ds : List Char) : segments true (ds ++ route) = segments true ds ++ names := by
    rw [known.joined, segments, List.map_append, List.map_cons]
    exact (Text.splitOn_append '/' _ _).trans (congrArg _ known.segmented)
  cases cs with
  | nil =>
    have root : hierarchicalPath true route = pathText true (Text.joinWith '/' names) := by
      rw [known.joined]
      rfl
    have segmented : segments true (Text.joinWith '/' names) = [] ++ names := known.segmented
    rw [List.nil_append, root]
    exact ends segmented
  | cons c rest =>
    rw [List.cons_append, hierarchicalPath]
    split
    · exact ends (appended rest)
    · exact ends (appended (c :: rest))

end Url

end Web

end FeedMonitor
