/-!
Room that is set aside in advance.
-/

namespace FeedMonitor

/-- The most bytes that one piece of room has. -/
def Room.mostBytes : Nat := 0x7fffffffffffffff

/-- For how many items room can be set aside. An item takes one byte at least. -/
structure Room where
  grants : Nat → Bool
  bounded : ∀ {count}, grants count = true → count ≤ Room.mostBytes

namespace Room

/-- Room that is bounded by nothing else, for items of one size. -/
def ofSize (bytes : Nat) (positive : 0 < bytes) : Room where
  grants count := count * bytes ≤ mostBytes
  bounded {count} granted :=
    Nat.le_trans (Nat.le_mul_of_pos_right count positive) (of_decide_eq_true granted)

/-- A record takes so many bytes where an address takes eight. -/
def records : Room := ofSize 264 (by decide)

/-- The text of a key alone takes eight bytes each for its place, its length and its capacity. -/
def keys : Room := ofSize 24 (by decide)

/-- A size of zero acts as one, so that there is always room. -/
theorem positive (count : Nat) : 0 < max count 1 := by omega

end Room

end FeedMonitor
