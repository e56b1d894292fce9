import FeedMonitor.Proofs.Number.Numeral
import FeedMonitor.Proofs.Web.Domain
import FeedMonitor.Web.Url
import Mathlib.Data.List.TakeWhile

/-!
The authority of a URL of a special scheme is read alike whatever comes after it, so such a URL is
its host and port with a tail. Control characters or spaces right behind an authority are read as
part of it, and then it names nothing.
-/

namespace FeedMonitor.Web.Url

/-- Nothing in the text ends an authority. -/
def Inside (special : Bool) (cs : List Char) : Prop := ∀ c ∈ cs, endsAuthority special c = false

/-- The text is over, or ends an authority that stands before it. -/
def Ends (special : Bool) (cs : List Char) : Prop := ∀ c ∈ cs.head?, endsAuthority special c = true

variable {special : Bool} {cs authority tail blanks : List Char}

theorem Inside.append {ds : List Char} (inside : Inside special cs) (more : Inside special ds) :
    Inside special (cs ++ ds) := by
  intro c member
  rcases List.mem_append.mp member with here | there
  · exact inside c here
  · exact more c there

theorem Inside.of_suffix {ds : List Char} (inside : Inside special cs) (suffix : ds <:+ cs) :
    Inside special ds := fun c member => inside c (suffix.subset member)

/-- A text is characters of one kind up to the first one of another. -/
theorem exists_split (p : Char → Bool) (cs : List Char) : ∃ front back, cs = front ++ back ∧
    (∀ c ∈ front, p c = true) ∧ ∀ c ∈ back.head?, p c = false := by
  refine ⟨cs.takeWhile p, cs.dropWhile p, List.takeWhile_append_dropWhile.symm,
    fun c => List.mem_takeWhile_imp, fun c first => ?_⟩
  have stopped := List.head?_dropWhile_not p cs
  rw [Option.mem_def.mp first] at stopped
  exact stopped

theorem exists_authority (cs : List Char) : ∃ authority tail, cs = authority ++ tail ∧
    Inside special authority ∧ Ends special tail := by
  obtain ⟨authority, tail, whole, inside, ends⟩ :=
    exists_split (fun c => !endsAuthority special c) cs
  refine ⟨authority, tail, whole, fun c member => ?_, fun c first => ?_⟩
  · simpa using inside c member
  · simpa using ends c first

theorem takeWhile_inside (inside : Inside special authority) (ends : Ends special tail) :
    (authority ++ tail).takeWhile (fun c => !endsAuthority special c) = authority := by
  have none : tail.takeWhile (fun c => !endsAuthority special c) = [] := by
    cases tail with
    | nil => rfl
    | cons c rest => simp [ends c rfl]
  rw [List.takeWhile_append_of_pos (fun c member => by simp [inside c member]), none,
    List.append_nil]

/-- The user information of an authority, and what comes after it. -/
def userinfo (authority : List Char) : Option (List Char) × List Char :=
  let after := (authority.reverse.takeWhile (· != '@')).reverse
  if after.length < authority.length then
    (some (authority.take (authority.length - after.length - 1)), after)
  else (none, authority)

theorem suffix_after (authority : List Char) :
    (authority.reverse.takeWhile (· != '@')).reverse <:+ authority := by
  rcases Text.split_last '@' authority with same | split
  · exact ⟨[], same.symm⟩
  · exact ⟨_ ++ ['@'], (List.append_assoc ..).trans split.symm⟩

theorem suffix_userinfo (authority : List Char) : (userinfo authority).2 <:+ authority := by
  simp only [userinfo]
  split
  · exact suffix_after authority
  · exact List.suffix_rfl

theorem splitUserinfo_append (inside : Inside special authority) (ends : Ends special tail) :
    splitUserinfo special (authority ++ tail) =
      ((userinfo authority).1, (userinfo authority).2 ++ tail) := by
  simp only [splitUserinfo, takeWhile_inside inside ends, userinfo]
  split
  · rename_i shorter
    have split := List.suffix_iff_eq_drop.mp (suffix_after authority)
    generalize (authority.reverse.takeWhile (· != '@')).reverse = after at shorter split
    have count : (authority.take (authority.length - after.length - 1)).length + 1 =
        authority.length - after.length := by
      rw [List.length_take]
      omega
    rw [count, List.drop_append_of_le_length (by omega), ← split]
  · rfl

/-- What is no user information stays behind it. -/
theorem userinfo_append (apart : '@' ∉ blanks) (authority : List Char) :
    userinfo (authority ++ blanks) =
      ((userinfo authority).1, (userinfo authority).2 ++ blanks) := by
  have plain : ∀ c ∈ blanks.reverse, (c != '@') = true := by
    intro c member
    simp only [bne_iff_ne]
    rintro rfl
    exact apart (List.mem_reverse.mp member)
  have after : ((authority ++ blanks).reverse.takeWhile (· != '@')).reverse =
      (authority.reverse.takeWhile (· != '@')).reverse ++ blanks := by
    rw [List.reverse_append, List.takeWhile_append_of_pos plain, List.reverse_append,
      List.reverse_reverse]
  simp only [userinfo, after, List.length_append, Nat.add_lt_add_iff_right]
  split
  · rename_i shorter
    have count : authority.length + blanks.length -
        ((authority.reverse.takeWhile (· != '@')).reverse.length + blanks.length) - 1 =
          authority.length - (authority.reverse.takeWhile (· != '@')).reverse.length - 1 := by omega
    rw [count, List.take_append_of_le_length (by omega)]
  · rfl

/-- A host that ends in front of something stays as it is. -/
theorem takeHost_append (bracketed : Bool)
    (stays : (takeHost special bracketed cs).2 = [] → Ends special tail) :
    takeHost special bracketed (cs ++ tail) =
      ((takeHost special bracketed cs).1, (takeHost special bracketed cs).2 ++ tail) := by
  induction cs generalizing bracketed with
  | nil =>
    have ends := stays rfl
    cases tail with
    | nil => rfl
    | cons c rest => simp [takeHost, ends c rfl]
  | cons c rest ih =>
    simp only [List.cons_append, takeHost] at stays ⊢
    split
    · rfl
    · rename_i inner
      rw [if_neg inner] at stays
      rw [ih _ stays]

/-- Text without a colon that follows a host in the authority is part of the host. -/
theorem takeHost_blanks (blank : Inside special blanks) (apart : ':' ∉ blanks) (bracketed : Bool)
    (whole : (takeHost special bracketed cs).2 = []) :
    takeHost special bracketed (cs ++ blanks) = (cs ++ blanks, []) := by
  induction cs generalizing bracketed with
  | nil =>
    rw [List.nil_append]
    clear whole
    induction blanks generalizing bracketed with
    | nil => rfl
    | cons c rest ih =>
      have colon : c ≠ ':' := fun same => apart (same ▸ List.mem_cons_self)
      have later := ih (fun other member => blank other (List.mem_cons_of_mem _ member))
        (fun member => apart (List.mem_cons_of_mem _ member))
      simp [takeHost, blank c List.mem_cons_self, colon, later]
  | cons c rest ih =>
    simp only [takeHost] at whole
    split at whole
    · contradiction
    · rename_i inner
      simp only [List.cons_append, takeHost, if_neg inner, ih _ whole]

/-- A host ends with its authority or at a colon. -/
theorem takeHost_rest (inside : Inside special cs) (bracketed : Bool) :
    (takeHost special bracketed cs).2 <:+ cs ∧
      ∀ c ∈ (takeHost special bracketed cs).2.head?, c = ':' := by
  induction cs generalizing bracketed with
  | nil => exact ⟨List.suffix_rfl, fun _ => nofun⟩
  | cons c rest ih =>
    have later := ih fun other member => inside other (List.mem_cons_of_mem _ member)
    simp only [takeHost]
    split
    · rename_i outer
      refine ⟨List.suffix_rfl, fun other first => ?_⟩
      obtain rfl := Option.some.inj first
      simp only [inside c List.mem_cons_self, Bool.false_or, Bool.and_eq_true,
        decide_eq_true_eq] at outer
      exact outer.1
    · exact ⟨(later _).1.trans (List.suffix_cons _ _), (later _).2⟩

theorem not_isDigit_of_ends {c : Char} (ends : endsAuthority true c = true) :
    c.isDigit = false := by
  simp only [endsAuthority, Bool.or_eq_true, Bool.true_and, decide_eq_true_eq] at ends
  rcases ends with ((rfl | rfl) | rfl) | rfl <;> rfl

theorem Ends.stops (ends : Ends true tail) : Numeral.Stops tail :=
  fun c first => not_isDigit_of_ends (ends c first)

/-- A port is read from the digits after its colon, and nothing but the end may follow them. -/
theorem takePort_digits {digits rest : List Char} (all : ∀ c ∈ digits, c.isDigit = true)
    (stops : Numeral.Stops rest) :
    takePort (':' :: (digits ++ rest)) =
      if 65535 < Nat.ofDigitChars 10 digits 0 ||
          rest.head?.any (fun c => !endsAuthority true c) then
        .error .invalidPort
      else .ok (if digits.isEmpty then none else some (Nat.ofDigitChars 10 digits 0), rest) := by
  simp only [takePort, Numeral.takeWhile_digits all stops, Numeral.dropWhile_digits all stops]

theorem takePort_append (ends : Ends true tail) (start : ∀ c ∈ cs.head?, c = ':') :
    takePort (cs ++ tail) = (takePort cs).map fun read => (read.1, read.2 ++ tail) := by
  cases cs with
  | nil =>
    cases tail with
    | nil => rfl
    | cons c rest =>
      have colon : c ≠ ':' := by
        rintro rfl
        exact absurd (ends ':' rfl) (by decide)
      rw [List.nil_append, takePort]
      · rfl
      · intro more same
        exact colon (List.cons.inj same).1
  | cons c rest =>
    obtain rfl := start c rfl
    obtain ⟨digits, more, rfl, all, stops⟩ := exists_split Char.isDigit rest
    -- What follows the digits is the same with and without the tail, or the tail, which ends them.
    have follow : Numeral.Stops (more ++ tail) ∧
        (more ++ tail).head?.any (fun c => !endsAuthority true c) =
          more.head?.any fun c => !endsAuthority true c := by
      cases more with
      | nil =>
        refine ⟨ends.stops, ?_⟩
        cases tail with
        | nil => rfl
        | cons d more => simp [ends d rfl]
      | cons d more => exact ⟨Numeral.Stops.cons (stops d rfl) _, rfl⟩
    rw [List.cons_append, List.append_assoc, takePort_digits all follow.1,
      takePort_digits all stops, follow.2]
    by_cases refused : (decide (65535 < Nat.ofDigitChars 10 digits 0) ||
        more.head?.any fun c => !endsAuthority true c) = true
    · rw [if_pos refused, if_pos refused]
      rfl
    · rw [if_neg refused, if_neg refused]
      rfl

/-- A port that is read takes the authority to its end. -/
theorem takePort_rest (inside : Inside true cs) (start : ∀ c ∈ cs.head?, c = ':')
    {port : Option Nat} {rest : List Char} (read : takePort cs = .ok (port, rest)) : rest = [] := by
  cases cs with
  | nil =>
    cases read
    rfl
  | cons c cs =>
    obtain rfl := start c rfl
    obtain ⟨digits, more, rfl, all, stops⟩ := exists_split Char.isDigit cs
    rw [takePort_digits all stops] at read
    split at read
    · contradiction
    · rename_i last
      obtain ⟨-, rfl⟩ := Prod.mk.inj (Except.ok.inj read)
      cases more with
      | nil => rfl
      | cons d more =>
        have within := inside d (by simp)
        simp [within] at last

/-- No port is followed by a text that neither goes on with a digit nor ends the authority. -/
theorem takePort_blanks (start : ∀ c ∈ cs.head?, c = ':') (filled : cs ≠ [])
    {port : Option Nat} (read : takePort cs = .ok (port, [])) (some : blanks ≠ [])
    (plain : ∀ c ∈ blanks, c.isDigit = false) (blank : Inside true blanks) :
    takePort (cs ++ blanks) = .error .invalidPort := by
  obtain ⟨c, rest, rfl⟩ := List.exists_cons_of_ne_nil filled
  obtain ⟨d, more, rfl⟩ := List.exists_cons_of_ne_nil some
  obtain rfl := start c rfl
  obtain ⟨digits, after, rfl, all, stops⟩ := exists_split Char.isDigit rest
  have last : after = [] := by
    rw [takePort_digits all stops] at read
    split at read
    · contradiction
    · exact congrArg Prod.snd (Except.ok.inj read)
  have stopped : Numeral.Stops (d :: more) := Numeral.Stops.cons (plain d List.mem_cons_self) _
  rw [last, List.append_nil, List.cons_append, takePort_digits all stopped,
    if_pos (by simp [blank d List.mem_cons_self])]

/-! ### Host and port -/

/-- The text of the host of an authority, and what comes after it. -/
def hostText (authority : List Char) : List Char × List Char :=
  takeHost true false (userinfo authority).2

/-- The host and the port that an authority names, the usual port of the scheme apart. -/
def site (scheme : String) (authority : List Char) : Except Fault (Host × Option Nat) :=
  if (hostText authority).1.isEmpty then .error .emptyHost
  else do
    let host ← Host.parse (hostText authority).1
    let (port, _) ← takePort (hostText authority).2
    return (host, if port == usualPort? scheme then none else port)

theorem hostText_rest (inside : Inside true authority) :
    Inside true (hostText authority).2 ∧ ∀ c ∈ (hostText authority).2.head?, c = ':' := by
  have behind := inside.of_suffix (suffix_userinfo authority)
  obtain ⟨suffix, start⟩ := takeHost_rest behind false
  exact ⟨behind.of_suffix suffix, start⟩

/-- A URL of a special scheme is a site with a tail. -/
theorem afterSlashes_append {scheme : String} (special : isSpecial scheme = true)
    (inside : Inside true authority) (ends : Ends true tail) :
    afterSlashes scheme (authority ++ tail) = (site scheme authority).map fun named =>
      withTail scheme (some named.1) named.2 (hierarchicalPath true) tail := by
  obtain ⟨within, start⟩ := hostText_rest inside
  have host : takeHost true false ((userinfo authority).2 ++ tail) =
      ((hostText authority).1, (hostText authority).2 ++ tail) :=
    takeHost_append false fun _ => ends
  have port := takePort_append ends start
  by_cases empty : (hostText authority).1.isEmpty = true
  · have refused : afterSlashes scheme (authority ++ tail) = .error .emptyHost := by
      simp only [afterSlashes, special, splitUserinfo_append inside ends, host, empty,
        Bool.true_and, if_true]
      split <;> rfl
    rw [refused, site, if_pos empty]
    rfl
  · -- A host in front of the tail: what comes after the user information does not end at once.
    have going : ((userinfo authority).2 ++ tail).head?.any (endsAuthority true) = false := by
      have behind := inside.of_suffix (suffix_userinfo authority)
      cases text : (userinfo authority).2 with
      | nil =>
        rw [hostText, text] at empty
        exact absurd rfl empty
      | cons c rest => exact behind c (by simp [text])
    rw [site, if_neg empty]
    rw [Bool.not_eq_true] at empty
    simp only [afterSlashes, special, splitUserinfo_append inside ends, host, port, empty, going,
      Bool.and_false, Bool.false_and, Bool.false_eq_true, if_false, if_true]
    cases Host.parse (hostText authority).1 with
    | error fault => rfl
    | ok host =>
      cases read : takePort (hostText authority).2 with
      | error fault => rfl
      | ok named =>
        obtain ⟨number, rest⟩ := named
        obtain rfl := takePort_rest within start read
        rfl

theorem inside_of_control (control : ∀ c ∈ blanks, Control c) : Inside true blanks := by
  intro c member
  simp [endsAuthority, (control c member).ne (d := '/') (by decide),
    (control c member).ne (d := '?') (by decide), (control c member).ne (d := '#') (by decide),
    (control c member).ne (d := '\\') (by decide)]

theorem exists_takePort {scheme : String} {named : Host × Option Nat}
    (read : site scheme authority = .ok named) :
    ∃ port rest, takePort (hostText authority).2 = .ok (port, rest) := by
  simp only [site] at read
  split at read
  · contradiction
  · cases host : Host.parse (hostText authority).1 with
    | error fault =>
      rw [host] at read
      contradiction
    | ok host' =>
      cases port : takePort (hostText authority).2 with
      | error fault =>
        rw [host, port] at read
        contradiction
      | ok pair => exact ⟨pair.1, pair.2, rfl⟩

/-- An authority that control characters or spaces follow names nothing. -/
theorem site_control {scheme : String} {named : Host × Option Nat} (inside : Inside true authority)
    (read : site scheme authority = .ok named) (some : blanks ≠ [])
    (control : ∀ c ∈ blanks, Control c) :
    ∃ fault, site scheme (authority ++ blanks) = .error fault := by
  have apart : ∀ d, 0x20 < d.toNat → d ∉ blanks := fun d above member =>
    (control d member).ne above rfl
  have behind : (userinfo (authority ++ blanks)).2 = (userinfo authority).2 ++ blanks := by
    rw [userinfo_append (apart '@' (by decide))]
  by_cases whole : (hostText authority).2 = []
  · -- No port: they are read as the end of the host.
    have host : hostText (authority ++ blanks) = ((userinfo authority).2 ++ blanks, []) := by
      rw [hostText, behind]
      exact takeHost_blanks (inside_of_control control) (apart ':' (by decide)) false whole
    have filled : ((userinfo authority).2 ++ blanks).isEmpty = false :=
      List.isEmpty_eq_false_iff.mpr (List.append_ne_nil_of_right_ne_nil _ some)
    have last := List.dropLast_concat_getLast some
    obtain ⟨fault, refused⟩ := Host.parse_control (control _ (List.getLast_mem some))
      ((userinfo authority).2 ++ blanks.dropLast)
    rw [List.append_assoc, last] at refused
    refine ⟨fault, ?_⟩
    rw [site, host, filled, refused]
    rfl
  · have host : hostText (authority ++ blanks) =
        ((hostText authority).1, (hostText authority).2 ++ blanks) := by
      rw [hostText, behind]
      exact takeHost_append false fun same => absurd same whole
    obtain ⟨within, start⟩ := hostText_rest inside
    obtain ⟨port, rest, number⟩ := exists_takePort read
    obtain rfl := takePort_rest within start number
    have refused : takePort ((hostText authority).2 ++ blanks) = .error .invalidPort :=
      takePort_blanks start whole number some (fun c member => (control c member).not_isDigit)
        (inside_of_control control)
    rw [site, host]
    simp only [refused]
    split
    · exact ⟨_, rfl⟩
    · cases Host.parse (hostText authority).1 with
      | error fault => exact ⟨fault, rfl⟩
      | ok named => exact ⟨.invalidPort, rfl⟩

end FeedMonitor.Web.Url
