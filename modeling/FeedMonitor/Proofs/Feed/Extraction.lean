import FeedMonitor.Proofs.Feed.Alias
import FeedMonitor.Proofs.Json.Traversal

/-!
Which price is found in a payload.

It is that of the first object, in the order of a walk, that names a wanted symbol and has a price.
All of an update comes from that one object. More symbols can only bring the object forward.
-/

namespace FeedMonitor

def Json.Node.members? : Json.Node → Option Json.Members
  | .object members => some members
  | .scalar _ => none

namespace Feed

/-- An object names a wanted symbol and has a positive number under some name of prices. -/
structure Quoted (symbols : SymbolSet) (members : Json.Members) : Prop where
  symbol : ∃ symbol, Names members symbol ∧ symbol ∈ symbols.names
  price : ∃ value price, some value ∈ under members priceNames ∧ Denotes value price ∧
    price.isPositive = true

/-- An update says what an object says of a wanted symbol. -/
structure Carries (symbols : SymbolSet) (members : Json.Members) (update : PriceUpdate) : Prop where
  symbol : Names members update.symbol
  wanted : update.symbol ∈ symbols.names
  price : FirstRead priceOf? (under members priceNames) update.price
  time : ∀ time, update.time = some time ↔ FirstRead instantOf? (under members timeNames) time

variable {symbols wider : SymbolSet} {members : Json.Members} {update : PriceUpdate}

/-! ### One object -/

theorem updateOf?_of_names {symbol : String} (names : Names members symbol) :
    updateOf? symbols members =
      if symbol ∈ symbols.names then
        (priceNames.findSome? fun name => (members.get? name).bind priceOf?).map fun price =>
          ⟨symbol, price, timeNames.findSome? fun name => (members.get? name).bind instantOf?⟩
      else none := by
  have named := names_iff.mp names
  simp only [updateOf?, named, Option.bind_eq_bind, Option.bind_some, Option.map_eq_bind]
  by_cases wanted : symbol ∈ symbols.names
  · have held : symbols.contains symbol = true := List.contains_iff_mem.mpr wanted
    simp only [held, wanted]
    rfl
  · have missing : symbols.contains symbol = false := by simpa [SymbolSet.contains] using wanted
    simp only [missing, wanted]
    rfl

theorem updateOf?_eq_some_iff :
    updateOf? symbols members = some update ↔ Carries symbols members update := by
  constructor
  · intro found
    cases named : symbolOf? members with
    | none => simp [updateOf?, named] at found
    | some symbol =>
      have names := names_iff.mpr named
      rw [updateOf?_of_names names] at found
      split at found
      · rename_i wanted
        obtain ⟨price, priced, rfl⟩ := Option.map_eq_some_iff.mp found
        exact ⟨names, wanted, firstRead_under_iff.mpr priced, fun time => firstRead_under_iff.symm⟩
      · cases found
  · intro carries
    have priced := firstRead_under_iff.mp carries.price
    have timed : (timeNames.findSome? fun name => (members.get? name).bind instantOf?) =
        update.time := by
      refine Option.ext fun time => ?_
      rw [← firstRead_under_iff, carries.time]
    rw [updateOf?_of_names carries.symbol, if_pos carries.wanted, priced, timed]
    rfl

theorem isSome_updateOf?_iff : (updateOf? symbols members).isSome ↔ Quoted symbols members := by
  constructor
  · intro found
    obtain ⟨update, found⟩ := Option.isSome_iff_exists.mp found
    have carries := updateOf?_eq_some_iff.mp found
    obtain ⟨front, value, back, split, priced, -⟩ := carries.price
    obtain ⟨denotes, positive⟩ := priceOf?_eq_some_iff.mp priced
    have member : some value ∈ under members priceNames := by simp [split]
    exact ⟨⟨_, carries.symbol, carries.wanted⟩, value, _, member, denotes, positive⟩
  · rintro ⟨⟨symbol, names, wanted⟩, value, price, member, denotes, positive⟩
    obtain ⟨name, listed, held⟩ := List.mem_map.mp member
    have priced := priceOf?_eq_some_iff.mpr ⟨denotes, positive⟩
    rw [updateOf?_of_names names, if_pos wanted, Option.isSome_map, List.findSome?_isSome_iff]
    exact ⟨name, listed, by rw [held, Option.bind_some, priced]; rfl⟩

theorem updateOf?_eq_none_iff : updateOf? symbols members = none ↔ ¬Quoted symbols members := by
  rw [← isSome_updateOf?_iff, Bool.not_eq_true, Option.isSome_eq_false_iff,
    Option.isNone_iff_eq_none]

theorem Quoted.mono (contained : ∀ symbol ∈ symbols.names, symbol ∈ wider.names)
    (quoted : Quoted symbols members) : Quoted wider members where
  symbol := by
    obtain ⟨symbol, names, wanted⟩ := quoted.symbol
    exact ⟨symbol, names, contained symbol wanted⟩
  price := quoted.price

/-! ### The objects of a payload -/

/-- The objects of a payload that are not too deep, an object before those inside it. -/
def objects (payload : Json) : List Json.Members :=
  (Json.offerable payload).filterMap fun place => place.2.members?

/-- An update is read from `members`, the first quoted object of a payload, which has the objects of
`front` before it. -/
structure TakenFrom (symbols : SymbolSet) (payload : Json) (front : List Json.Members)
    (members : Json.Members) (update : PriceUpdate) : Prop where
  stands : front ++ [members] <+: objects payload
  carries : Carries symbols members update
  first : ∀ other ∈ front, ¬Quoted symbols other

theorem searchNodes_priceVisitor (symbols : SymbolSet) (nodes : List Json.Node) :
    (Json.searchNodes (priceVisitor symbols) () nodes).1 =
      (nodes.filterMap Json.Node.members?).findSome? (updateOf? symbols) := by
  induction nodes with
  | nil => rfl
  | cons node rest ih =>
    cases node with
    | object members =>
      cases found : updateOf? symbols members with
      | none => simpa [Json.searchNodes, priceVisitor, Json.Node.members?, found] using ih
      | some update => simp [Json.searchNodes, priceVisitor, Json.Node.members?, found]
    | scalar value =>
      have skipped : (Json.Node.scalar value).members? = none := rfl
      rw [List.filterMap_cons_none skipped, ← ih]
      rfl

theorem extractPrice?_eq (symbols : SymbolSet) (payload : Json) :
    extractPrice? symbols payload = (objects payload).findSome? (updateOf? symbols) := by
  rw [extractPrice?, Json.walk_eq, searchNodes_priceVisitor, List.filterMap_map, objects]
  rfl

theorem exists_takenFrom_iff {payload : Json} :
    (∃ front members, TakenFrom symbols payload front members update) ↔
      extractPrice? symbols payload = some update := by
  rw [extractPrice?_eq, List.findSome?_eq_some_iff]
  constructor
  · rintro ⟨front, members, ⟨back, split⟩, carries, first⟩
    refine ⟨front, members, back, by simp [← split], updateOf?_eq_some_iff.mpr carries, ?_⟩
    exact fun other member => updateOf?_eq_none_iff.mpr (first other member)
  · rintro ⟨front, members, back, split, found, unfound⟩
    refine ⟨front, members, ⟨back, by simp [split]⟩, updateOf?_eq_some_iff.mp found, ?_⟩
    exact fun other member => updateOf?_eq_none_iff.mp (unfound other member)

theorem isSome_extractPrice?_iff {payload : Json} :
    (extractPrice? symbols payload).isSome ↔ ∃ members ∈ objects payload, Quoted symbols members := by
  rw [extractPrice?_eq, List.findSome?_isSome_iff]
  simp only [isSome_updateOf?_iff]

/-- With more symbols the object that was taken, if it is reached, is taken again. -/
theorem TakenFrom.widen {payload : Json} {front : List Json.Members}
    (contained : ∀ symbol ∈ symbols.names, symbol ∈ wider.names)
    (taken : TakenFrom symbols payload front members update) :
    ∃ before object other, TakenFrom wider payload before object other ∧
      before ++ [object] <+: front ++ [members] := by
  have quoted : Quoted symbols members := by
    rw [← isSome_updateOf?_iff, updateOf?_eq_some_iff.mpr taken.carries, Option.isSome_some]
  -- The wider search is over at the object that the narrower one took, if not before.
  have reached : ((front ++ [members]).findSome? (updateOf? wider)).isSome := by
    rw [List.findSome?_isSome_iff]
    exact ⟨members, by simp, isSome_updateOf?_iff.mpr (quoted.mono contained)⟩
  obtain ⟨other, found⟩ := Option.isSome_iff_exists.mp reached
  obtain ⟨before, object, back, split, carried, unfound⟩ := List.findSome?_eq_some_iff.mp found
  have start : before ++ [object] <+: front ++ [members] := ⟨back, by simp [split]⟩
  refine ⟨before, object, other, ⟨start.trans taken.stands, ?_, ?_⟩, start⟩
  · exact updateOf?_eq_some_iff.mp carried
  · exact fun earlier member => updateOf?_eq_none_iff.mp (unfound earlier member)

theorem extraction_law (symbols : SymbolSet) (payload : Json) :
    ((extractPrice? symbols payload).isSome ↔
      ∃ members ∈ objects payload, Quoted symbols members) ∧
    (∀ update, extractPrice? symbols payload = some update ↔
      ∃ front members, TakenFrom symbols payload front members update) ∧
    ∀ wider : SymbolSet, (∀ symbol ∈ symbols.names, symbol ∈ wider.names) →
      ∀ front members update, TakenFrom symbols payload front members update →
        ∃ before object other, extractPrice? wider payload = some other ∧
          TakenFrom wider payload before object other ∧
          before ++ [object] <+: front ++ [members] := by
  refine ⟨isSome_extractPrice?_iff, fun update => exists_takenFrom_iff.symm, ?_⟩
  intro wider contained front members update taken
  obtain ⟨before, object, other, takenAgain, start⟩ := taken.widen contained
  exact ⟨before, object, other, exists_takenFrom_iff.mp ⟨_, _, takenAgain⟩, takenAgain, start⟩

/-- Two markets, the first with a blank symbol and without a price under its first names. -/
def markets : Json :=
  .array
    [.object [("last_price", .ofNat 0), ("mark_price", .string "n/a"), ("market", .string " ethusd"),
      ("price", .string "2000.5"), ("symbol", .string " "), ("time", .ofNat 1700000000)],
    .object [("data", .object [("price", .ofNat 64000), ("symbol", .string "BTCUSD")])]]

theorem extraction_law_widened :
    (extractPrice? (.ofNames ["BTCUSD"]) markets).map PriceUpdate.symbol = some "BTCUSD" ∧
    (extractPrice? (.ofNames ["BTCUSD", "ETHUSD"]) markets).map PriceUpdate.symbol =
      some "ETHUSD" ∧
    ∃ front members update before object other,
      TakenFrom (.ofNames ["BTCUSD"]) markets front members update ∧
        extractPrice? (.ofNames ["BTCUSD", "ETHUSD"]) markets = some other ∧
        TakenFrom (.ofNames ["BTCUSD", "ETHUSD"]) markets before object other ∧
        before ++ [object] <+: front ++ [members] := by
  have narrow : (extractPrice? (.ofNames ["BTCUSD"]) markets).map PriceUpdate.symbol =
      some "BTCUSD" := by decide +kernel
  have wide : (extractPrice? (.ofNames ["BTCUSD", "ETHUSD"]) markets).map PriceUpdate.symbol =
      some "ETHUSD" := by decide +kernel
  have contained : ∀ symbol ∈ (SymbolSet.ofNames ["BTCUSD"]).names,
      symbol ∈ (SymbolSet.ofNames ["BTCUSD", "ETHUSD"]).names := by decide +kernel
  obtain ⟨update, found, -⟩ := Option.map_eq_some_iff.mp narrow
  obtain ⟨front, members, taken⟩ := ((extraction_law _ markets).2.1 update).mp found
  obtain ⟨before, object, other, again, takenAgain, start⟩ :=
    (extraction_law _ markets).2.2 _ contained front members update taken
  exact ⟨narrow, wide, front, members, update, before, object, other, taken, again, takenAgain, start⟩

end Feed

end FeedMonitor
