import FeedMonitor.Proofs.Web.Authority
import FeedMonitor.Proofs.Web.Path

/-!
A route that is appended to the text of a URL: which URL the two texts make together.

The text of the URL is its scheme, slashes, an authority and a tail. What is appended goes on with
the tail, so it falls into the fragment if there is one, else into the query if there is one, and
only else into the path.
-/

namespace FeedMonitor.Web.Url

variable {p : Char → Bool} {cs ds : List Char}

theorem takeWhile_append_stop (stop : ∃ c ∈ cs, p c = false) (ds : List Char) :
    (cs ++ ds).takeWhile p = cs.takeWhile p := by
  obtain ⟨c, member, stops⟩ := stop
  rw [List.takeWhile_append, if_neg]
  intro same
  have whole := (List.takeWhile_prefix p).eq_of_length same
  rw [List.takeWhile_eq_self_iff] at whole
  rw [whole c member] at stops
  contradiction

theorem dropWhile_append_stop (stop : ∃ c ∈ cs, p c = false) (ds : List Char) :
    (cs ++ ds).dropWhile p = cs.dropWhile p ++ ds := by
  obtain ⟨c, member, stops⟩ := stop
  rw [List.dropWhile_append, if_neg]
  rw [List.isEmpty_iff, List.dropWhile_eq_nil_iff]
  intro all
  rw [all c member] at stops
  contradiction

theorem all_of_not_stop (none : ¬∃ c ∈ cs, p c = false) : ∀ c ∈ cs, p c = true := by
  simpa using none

theorem exists_dropWhile (stop : ∃ c ∈ cs, p c = false) :
    ∃ c rest, cs.dropWhile p = c :: rest ∧ p c = false := by
  obtain ⟨c, member, stops⟩ := stop
  have first := List.head?_dropWhile_not p cs
  cases dropped : cs.dropWhile p with
  | nil =>
    rw [List.dropWhile_eq_nil_iff.mp dropped c member] at stops
    contradiction
  | cons d rest =>
    rw [dropped] at first
    exact ⟨d, rest, rfl, first⟩

/-! ### Blanks around a text -/

def isEdge (c : Char) : Bool := c.toNat ≤ 0x20

/-- Tabs and line breaks are passed over wherever they stand. -/
def isKept (c : Char) : Bool := c != '\t' && c != '\n' && c != '\r'

/-- The characters at the end of a text that are passed over as long as nothing follows them. -/
def loose (cs : List Char) : List Char := (cs.reverse.takeWhile isEdge).reverse.filter isKept

theorem cleaned_eq (cs : List Char) :
    cleaned cs = ((cs.dropWhile isEdge).reverse.dropWhile isEdge).reverse.filter isKept := rfl

theorem control_of_mem_loose : ∀ c ∈ loose cs, Control c := by
  intro c member
  have edge : isEdge c = true :=
    List.mem_takeWhile_imp (List.mem_reverse.mp (List.mem_filter.mp member).1)
  exact of_decide_eq_true edge

theorem isKept_of_visible {c : Char} (plain : isEdge c = false) : isKept c = true := by
  have above : ¬Control c := of_decide_eq_false plain
  simp only [isKept, Bool.and_eq_true, bne_iff_ne]
  refine ⟨⟨?_, ?_⟩, ?_⟩ <;> exact fun same => above (same ▸ by decide)

theorem dropWhile_visible (plain : ∀ c ∈ ds, isEdge c = false) : ds.dropWhile isEdge = ds := by
  rw [List.dropWhile_eq_self_iff]
  intro inside
  rw [plain _ (List.getElem_mem inside)]
  exact Bool.false_ne_true

/-- A text that ends in visible characters is cleaned at its start only. -/
theorem cleaned_append (some : ds ≠ []) (plain : ∀ c ∈ ds, isEdge c = false) :
    cleaned (cs ++ ds) = (cs.dropWhile isEdge).filter isKept ++ ds := by
  have kept : ds.filter isKept = ds :=
    List.filter_eq_self.mpr fun c member => isKept_of_visible (plain c member)
  have start : (cs ++ ds).dropWhile isEdge = cs.dropWhile isEdge ++ ds := by
    rw [List.dropWhile_append]
    split
    · rename_i nothing
      rw [dropWhile_visible plain, List.isEmpty_iff.mp nothing, List.nil_append]
    · rfl
  obtain ⟨c, member⟩ := List.exists_mem_of_ne_nil ds some
  have stop : ∃ c ∈ ds.reverse, isEdge c = false := ⟨c, List.mem_reverse.mpr member, plain c member⟩
  have reversed : ds.reverse.dropWhile isEdge = ds.reverse :=
    dropWhile_visible fun c member => plain c (List.mem_reverse.mp member)
  rw [cleaned_eq, start, List.reverse_append, dropWhile_append_stop stop, reversed,
    List.reverse_append, List.reverse_reverse, List.reverse_reverse, List.filter_append, kept]

/-- With something behind it, a text keeps its loose end. -/
theorem filter_dropWhile (visible : ∃ c ∈ cs, isEdge c = false) :
    (cs.dropWhile isEdge).filter isKept = cleaned cs ++ loose cs := by
  have whole := List.takeWhile_append_dropWhile (p := isEdge) (l := cs)
  obtain ⟨c, member, plain⟩ := visible
  have stop : ∃ c ∈ (cs.dropWhile isEdge).reverse, isEdge c = false := by
    rw [← whole] at member
    rcases List.mem_append.mp member with front | inner
    · rw [List.mem_takeWhile_imp front] at plain
      contradiction
    · exact ⟨c, List.mem_reverse.mpr inner, plain⟩
  have back : cs.reverse.takeWhile isEdge = (cs.dropWhile isEdge).reverse.takeWhile isEdge := by
    conv => lhs; rw [← whole, List.reverse_append]
    exact takeWhile_append_stop stop _
  rw [cleaned_eq, loose, back, ← List.filter_append, ← List.reverse_append,
    List.takeWhile_append_dropWhile, List.reverse_reverse]

/-! ### Schemes -/

theorem takeScheme?_append (stops : ∀ c ∈ ds.head?, isSchemeChar c = false ∧ c ≠ ':') :
    takeScheme? (cs ++ ds) = (takeScheme? cs).map fun found => (found.1, found.2 ++ ds) := by
  by_cases stop : ∃ c ∈ cs, isSchemeChar c = false
  · obtain ⟨c, rest, dropped, -⟩ := exists_dropWhile stop
    have start : (cs ++ ds).head?.any Char.isAlpha = cs.head?.any Char.isAlpha := by
      cases cs with
      | nil =>
        obtain ⟨_, member, -⟩ := stop
        exact absurd member List.not_mem_nil
      | cons first more => rfl
    rw [takeScheme?, dropWhile_append_stop stop, takeWhile_append_stop stop, start, takeScheme?,
      dropped]
    by_cases colon : c = ':'
    · subst colon
      generalize cs.head?.any Char.isAlpha = letter
      cases letter <;> rfl
    · simp [colon]
  · -- No colon in the text, nor right after it.
    have all : ∀ c ∈ cs, isSchemeChar c = true := all_of_not_stop stop
    have none : takeScheme? cs = none := by
      rw [takeScheme?, List.dropWhile_eq_nil_iff.mpr all]
    rw [none, takeScheme?, List.dropWhile_append_of_pos all]
    cases ds with
    | nil => rfl
    | cons d more =>
      obtain ⟨other, colon⟩ := stops d rfl
      rw [List.dropWhile_cons_of_neg (by simp [other])]
      split
      · rename_i same
        exact absurd (List.cons.inj same).1 colon
      · rfl

theorem not_isSchemeChar_of_control {c : Char} (control : Control c) : isSchemeChar c = false :=
  control.each (P := fun c => isSchemeChar c = false) (by decide)

theorem afterSlashes_scheme {scheme : String} {url : Url}
    (read : afterSlashes scheme cs = .ok url) : url.scheme = scheme := by
  simp only [afterSlashes, bind, Except.bind, pure, Except.pure, throw, throwThe,
    MonadExceptOf.throw] at read
  repeat' split at read
  all_goals cases read <;> rfl

theorem fileUrl_scheme {url : Url} (read : fileUrl cs = .ok url) : url.scheme = "file" := by
  simp only [fileUrl, bind, Except.bind, pure, Except.pure] at read
  repeat' split at read
  all_goals cases read <;> rfl

theorem parse_scheme {text : String} {url : Url} (read : parse text = .ok url) :
    ∃ rest, takeScheme? (cleaned text.toList) = some (url.scheme, rest) := by
  simp only [parse] at read
  split at read
  · contradiction
  · rename_i rest found
    exact ⟨rest, fileUrl_scheme read ▸ found⟩
  · rename_i scheme rest _ found
    refine ⟨rest, ?_⟩
    split at read
    · exact afterSlashes_scheme read ▸ found
    · split at read
      · exact afterSlashes_scheme read ▸ found
      · cases read
        exact found
      · cases read
        exact found

/-- A URL of the web has its authority behind any number of slashes. -/
theorem parse_of_scheme {text scheme : String} {rest : List Char} (web : scheme ∈ ["http", "https"])
    (found : takeScheme? (cleaned text.toList) = some (scheme, rest)) :
    parse text = afterSlashes scheme (rest.dropWhile (isSlash true)) := by
  rw [parse, found]
  rcases List.mem_pair.mp web with rfl | rfl
  · rfl
  · rfl

/-! ### Tails -/

/-- The texts of path, query and fragment with something more at the end of the last one. -/
def attach (more : List Char) :
    List Char × Option (List Char) × Option (List Char) →
      List Char × Option (List Char) × Option (List Char)
  | (path, query, some fragment) => (path, query, some (fragment ++ more))
  | (path, some query, none) => (path, some (query ++ more), none)
  | (path, none, none) => (path ++ more, none, none)

theorem splitTail_append (plain : ∀ c ∈ ds, c ≠ '?' ∧ c ≠ '#') :
    splitTail (cs ++ ds) = attach ds (splitTail cs) := by
  have noMark : ∀ c ∈ ds, (c != '?' && c != '#') = true := fun c member => by
    simp [plain c member]
  have noHash : ∀ c ∈ ds, (c != '#') = true := fun c member => by simp [plain c member]
  by_cases marked : ∃ c ∈ cs, (c != '?' && c != '#') = false
  · obtain ⟨mark, rest, dropped, isMark⟩ := exists_dropWhile marked
    simp only [splitTail, takeWhile_append_stop marked, dropWhile_append_stop marked, dropped,
      List.cons_append]
    obtain rfl | rfl : mark = '?' ∨ mark = '#' := by simpa [or_iff_not_imp_left] using isMark
    · by_cases hash : ∃ c ∈ rest, (c != '#') = false
      · obtain ⟨mark, fragment, behind, isMark⟩ := exists_dropWhile hash
        obtain rfl : mark = '#' := by simpa using isMark
        simp only [takeWhile_append_stop hash, dropWhile_append_stop hash, behind]
        rfl
      · have all : ∀ c ∈ rest, (c != '#') = true := all_of_not_stop hash
        have more : ∀ c ∈ rest ++ ds, (c != '#') = true := fun c member =>
          (List.mem_append.mp member).elim (all c) (noHash c)
        simp only [List.takeWhile_eq_self_iff.mpr all, List.dropWhile_eq_nil_iff.mpr all,
          List.takeWhile_eq_self_iff.mpr more, List.dropWhile_eq_nil_iff.mpr more]
        rfl
    · rfl
  · have all : ∀ c ∈ cs, (c != '?' && c != '#') = true := all_of_not_stop marked
    have more : ∀ c ∈ cs ++ ds, (c != '?' && c != '#') = true := fun c member =>
      (List.mem_append.mp member).elim (all c) (noMark c)
    simp only [splitTail, List.takeWhile_eq_self_iff.mpr all, List.dropWhile_eq_nil_iff.mpr all,
      List.takeWhile_eq_self_iff.mpr more, List.dropWhile_eq_nil_iff.mpr more]
    rfl

/-- Two URLs of one server. -/
structure SameSite (url posted : Url) : Prop where
  scheme : posted.scheme = url.scheme
  host : posted.host = url.host
  port : posted.port = url.port

/-- Where a route stands that is appended to the text of a URL: at the end of its path if it has
neither a query nor a fragment. Else the path stays as it is, and the route is part of the fragment
or of the query. -/
def Lands (route : List Char) (url posted : Url) : Prop :=
  match url.query, url.fragment with
  | none, none =>
    route <:+ posted.path.toList ∧ posted.query = none ∧ posted.fragment = none
  | some _, none =>
    posted.path = url.path ∧ (∃ query, posted.query = some query ∧ route <:+ query.toList) ∧
      posted.fragment = none
  | _, some _ =>
    posted.path = url.path ∧ posted.query = url.query ∧
      ∃ fragment, posted.fragment = some fragment ∧ route <:+ fragment.toList

variable {route tail slashes more : List Char} {names : List (List Char)}

theorem suffix_percentEncode {reserved : Char → Bool} (known : percentEncode reserved route = route)
    (cs : List Char) : route <:+ (String.ofList (percentEncode reserved (cs ++ route))).toList := by
  rw [String.toList_ofList, percentEncode_append, known]
  exact List.suffix_append _ route

theorem lands_withTail {scheme : String} (special : isSpecial scheme = true)
    (known : Route route names) (only : ∀ c ∈ slashes, c = '/') (control : ∀ c ∈ more, Control c)
    (host : Option Host) (port : Option Nat) :
    Lands route (withTail scheme host port (hierarchicalPath true) (tail ++ slashes))
      (withTail scheme host port (hierarchicalPath true) (tail ++ more ++ route)) := by
  have slashesPlain : ∀ c ∈ slashes, c ≠ '?' ∧ c ≠ '#' := by
    intro c member
    rw [only c member]
    decide
  have morePlain : ∀ c ∈ more ++ route, c ≠ '?' ∧ c ≠ '#' := by
    intro c member
    rcases List.mem_append.mp member with before | inside
    · exact ⟨(control c before).ne (by decide), (control c before).ne (by decide)⟩
    · exact (known.plain c inside).2
  rw [List.append_assoc]
  simp only [Lands, withTail, special, splitTail_append slashesPlain, splitTail_append morePlain,
    if_true]
  obtain ⟨path, query, fragment⟩ := splitTail tail
  cases fragment with
  | some fragment =>
    have lands := suffix_percentEncode known.inFragment (fragment ++ more)
    rw [List.append_assoc] at lands
    cases query <;> exact ⟨rfl, rfl, _, rfl, lands⟩
  | none =>
    cases query with
    | some query =>
      have lands := suffix_percentEncode known.inQuery (query ++ more)
      rw [List.append_assoc] at lands
      exact ⟨rfl, ⟨_, rfl, lands⟩, rfl⟩
    | none =>
      have lands := known.suffix_path (path ++ more)
      rw [List.append_assoc] at lands
      exact ⟨lands, rfl, rfl⟩

/-! ### Whole texts -/

/-- A text is a scheme, slashes and, behind them, `cs`. -/
def Behind (text scheme : String) (cs : List Char) : Prop :=
  ∃ rest, takeScheme? (cleaned text.toList) = some (scheme, rest) ∧
    rest.dropWhile (isSlash true) = cs

/-- A text that has nothing behind its authority and a loose end, which the authority takes in as
soon as anything follows. -/
def Frayed (text : String) : Prop :=
  (∃ scheme authority, Behind text scheme authority ∧ Inside true authority) ∧
    loose text.toList ≠ []

theorem Behind.parse_eq {text scheme : String} (behind : Behind text scheme cs)
    (web : scheme ∈ ["http", "https"]) : parse text = afterSlashes scheme cs := by
  obtain ⟨rest, found, rfl⟩ := behind
  exact parse_of_scheme web found

theorem Behind.eq {text scheme other : String} (behind : Behind text scheme cs)
    (known : Behind text other ds) : cs = ds := by
  obtain ⟨rest, found, rfl⟩ := behind
  obtain ⟨_, same, rfl⟩ := known
  rw [found] at same
  rw [(Prod.mk.inj (Option.some.inj same)).2]

theorem isEdge_slash {c : Char} (only : ∀ c ∈ slashes, c = '/') (member : c ∈ slashes) :
    isEdge c = false := by
  rw [only c member]
  decide

/-- What precedes slashes at the end of a text is read alike, its loose end apart, with a route in
their place. -/
theorem exists_start {text batch : String} (known : Route route names)
    (only : ∀ c ∈ slashes, c = '/') (whole : text.toList = cs ++ slashes)
    (appended : batch.toList = cs ++ route) (read : cleaned text.toList ≠ []) :
    ∃ start, cleaned text.toList = start ++ slashes ∧
      cleaned batch.toList = start ++ (loose text.toList ++ route) ∧
        (slashes = [] ∨ loose text.toList = []) := by
  have filled : route ≠ [] := known.joined ▸ List.cons_ne_nil _ _
  have plain : ∀ c ∈ route, isEdge c = false := fun c member =>
    decide_eq_false (Nat.not_le_of_gt (known.plain c member).1)
  by_cases bare : slashes = []
  · subst bare
    rw [List.append_nil] at whole
    have visible : ∃ c ∈ cs, isEdge c = false := by
      by_contra hidden
      apply read
      rw [whole, cleaned_eq, List.dropWhile_eq_nil_iff.mpr (all_of_not_stop hidden)]
      rfl
    refine ⟨cleaned cs, ?_, ?_, Or.inl rfl⟩
    · rw [whole, List.append_nil]
    · rw [appended, cleaned_append filled plain, filter_dropWhile visible, whole, List.append_assoc]
  · have tight : loose text.toList = [] := by
      obtain ⟨c, rest, reversed⟩ := List.exists_cons_of_ne_nil (mt List.reverse_eq_nil_iff.mp bare)
      have last := isEdge_slash only (List.mem_reverse.mp (reversed ▸ List.mem_cons_self))
      rw [loose, whole, List.reverse_append, reversed, List.cons_append,
        List.takeWhile_cons_of_neg (by simp [last])]
      rfl
    refine ⟨(cs.dropWhile isEdge).filter isKept, ?_, ?_, Or.inr tight⟩
    · rw [whole, cleaned_append bare fun c member => isEdge_slash only member]
    · rw [appended, cleaned_append filled plain, tight, List.nil_append]

/-- Slashes at the end of a text and a route in their place follow the same authority and tail. -/
theorem exists_behind {text batch : String} {url : Url} (known : Route route names)
    (only : ∀ c ∈ slashes, c = '/') (whole : text.toList = cs ++ slashes)
    (appended : batch.toList = cs ++ route) (read : parse text = .ok url)
    (web : url.scheme ∈ ["http", "https"]) :
    ∃ scheme ∈ ["http", "https"], ∃ ds, Behind text scheme (ds ++ slashes) ∧
      Behind batch scheme (ds ++ (loose text.toList ++ route)) ∧
        (slashes = [] ∨ loose text.toList = []) := by
  obtain ⟨rest, found⟩ := parse_scheme read
  generalize url.scheme = scheme at found web
  have filled : cleaned text.toList ≠ [] := by
    intro nothing
    rw [nothing] at found
    contradiction
  obtain ⟨start, own, other, apart⟩ := exists_start known only whole appended filled
  have slash : isSchemeChar '/' = false ∧ '/' ≠ ':' := by decide
  have slashesStop : ∀ c ∈ slashes.head?, isSchemeChar c = false ∧ c ≠ ':' := fun c first =>
    only c (List.mem_of_mem_head? first) ▸ slash
  have routeStop : ∀ c ∈ (loose text.toList ++ route).head?, isSchemeChar c = false ∧ c ≠ ':' := by
    cases lost : loose text.toList with
    | nil =>
      rw [known.joined]
      exact fun c first => Option.some.inj first ▸ slash
    | cons d more =>
      intro c first
      obtain rfl := Option.some.inj first
      have control := control_of_mem_loose d (lost ▸ List.mem_cons_self)
      exact ⟨not_isSchemeChar_of_control control, control.ne (by decide)⟩
  have split := found
  rw [own, takeScheme?_append slashesStop] at split
  obtain ⟨⟨name, inner⟩, schemed, same⟩ := Option.map_eq_some_iff.mp split
  obtain ⟨rfl, rfl⟩ : name = scheme ∧ inner ++ slashes = rest := Prod.mk.inj same
  have posted : takeScheme? (cleaned batch.toList) =
      some (name, inner ++ (loose text.toList ++ route)) := by
    rw [other, takeScheme?_append routeStop, schemed]
    rfl
  -- Slashes alone name no server, so those in front of the authority end inside the text.
  have stop : ∃ c ∈ inner, isSlash true c = false := by
    by_contra hidden
    have all : ∀ c ∈ inner ++ slashes, isSlash true c = true := by
      intro c member
      rcases List.mem_append.mp member with before | after
      · exact all_of_not_stop hidden c before
      · exact only c after ▸ rfl
    have refused : afterSlashes name [] = .error .emptyHost := by
      rcases List.mem_pair.mp web with rfl | rfl <;> rfl
    rw [parse_of_scheme web found, List.dropWhile_eq_nil_iff.mpr all, refused] at read
    contradiction
  exact ⟨name, web, inner.dropWhile (isSlash true), ⟨_, found, dropWhile_append_stop stop _⟩,
    ⟨_, posted, dropWhile_append_stop stop _⟩, apart⟩

theorem Ends.append (ends : Ends true tail) (more : tail = [] → Ends true ds) :
    Ends true (tail ++ ds) := by
  cases tail with
  | nil => exact more rfl
  | cons c rest => exact fun d first => ends d first

/-- A route that is appended to the text of a URL, without the slashes at its end, makes a URL of the
same server, unless the text is frayed. -/
theorem parse_appended {text batch : String} {url : Url} (known : Route route names)
    (only : ∀ c ∈ slashes, c = '/') (whole : text.toList = cs ++ slashes)
    (appended : batch.toList = cs ++ route) (read : parse text = .ok url)
    (web : url.scheme ∈ ["http", "https"]) :
    (Frayed text → ∃ fault, parse batch = .error fault) ∧
      (¬Frayed text →
        ∃ posted, parse batch = .ok posted ∧ SameSite url posted ∧ Lands route url posted) := by
  obtain ⟨scheme, web, ds, own, other, apart⟩ := exists_behind known only whole appended read web
  obtain ⟨authority, tail, rfl, inside, ends⟩ := exists_authority ds
  have special : isSpecial scheme = true := by
    rcases List.mem_pair.mp web with rfl | rfl <;> rfl
  have slashesEnd : Ends true slashes := fun c first =>
    only c (List.mem_of_mem_head? first) ▸ rfl
  have routeEnd : Ends true route := by
    rw [known.joined]
    exact fun c first => Option.some.inj first ▸ rfl
  have control : ∀ c ∈ loose text.toList, Control c := control_of_mem_loose
  rw [own.parse_eq web, List.append_assoc,
    afterSlashes_append special inside (ends.append fun _ => slashesEnd)] at read
  cases named : site scheme authority with
  | error fault =>
    rw [named] at read
    contradiction
  | ok found =>
    rw [named] at read
    obtain rfl := Except.ok.inj read
    constructor
    · rintro ⟨⟨_, bare, behind, within⟩, frayed⟩
      obtain rfl := own.eq behind
      have nothing : tail = [] := by
        by_contra some
        obtain ⟨c, rest, rfl⟩ := List.exists_cons_of_ne_nil some
        have ended := ends c rfl
        rw [within c (by simp)] at ended
        contradiction
      obtain ⟨fault, refused⟩ := site_control inside named frayed control
      refine ⟨fault, ?_⟩
      rw [other.parse_eq web, nothing, List.append_nil, ← List.append_assoc,
        afterSlashes_append special (inside.append (inside_of_control control)) routeEnd, refused]
      rfl
    · intro sound
      have follows : tail = [] → loose text.toList = [] := by
        rintro rfl
        by_contra frayed
        refine sound ⟨⟨scheme, _, own, ?_⟩, frayed⟩
        rw [apart.resolve_right frayed, List.append_nil, List.append_nil]
        exact inside
      have moreEnds : Ends true (tail ++ loose text.toList ++ route) := by
        rw [List.append_assoc]
        refine ends.append fun nothing => ?_
        rw [follows nothing]
        exact routeEnd
      refine ⟨withTail scheme (some found.1) found.2 (hierarchicalPath true)
        (tail ++ loose text.toList ++ route), ?_, ⟨rfl, rfl, rfl⟩,
        lands_withTail special known only control (some found.1) found.2⟩
      rw [other.parse_eq web, List.append_assoc, ← List.append_assoc tail,
        afterSlashes_append special inside moreEnds, named]
      rfl

example : (parse "http://localhost:8000 ").isOk = true ∧
    parse "http://localhost:8000 /logs/batch" = .error .invalidPort := ⟨rfl, rfl⟩

end FeedMonitor.Web.Url
