import FeedMonitor.Disk
import FeedMonitor.Proofs.Lookup

/-!
What is written to a file is read back from it.

A path that leads to a file still leads there after a node has been put in the place of anything but
a directory, because only directories are passed on the way.
-/

namespace FeedMonitor.Disk

variable {disk next : Disk} {path : Path} {bytes : List UInt8}

theorem node?_put_of_ne {place other : Path} (differ : other ≠ place) (disk : Disk)
    (node : Node) : (disk.put place node).node? other = disk.node? other := by
  have unlike : (other == place) = false := by simpa using differ
  simp only [node?, put, List.lookup_cons, unlike, lookup_filter_ne differ]

theorem node?_put_self {place : Path} (below : place ≠ []) (disk : Disk) (node : Node) :
    (disk.put place node).node? place = some node := by
  simp [node?, put, below]

theorem ne_nil_of_node? {place : Path}
    (other : ∀ access, disk.node? place ≠ some (.directory access)) : place ≠ [] := by
  rintro rfl
  exact other .full rfl

theorem obstacle?_put {place : Path} (other : ∀ access, disk.node? place ≠ some (.directory access))
    (node : Node) {above path : Path} (free : disk.obstacle? above path = none) :
    (disk.put place node).obstacle? above path = none := by
  induction path generalizing above with
  | nil => cases free
  | cons name below ih =>
    cases below with
    | nil => rfl
    | cons following below =>
      rw [obstacle?] at free ⊢
      split at free
      · contradiction
      · rename_i access unsealed found
        have differ : above.enter name ≠ place := by
          rintro rfl
          exact other access found
        rw [node?_put_of_ne differ, found]
        -- The way goes on past a directory that is not sealed.
        cases access with
        | sealed => exact absurd rfl unsealed
        | full => exact ih free
        | readOnly => exact ih free
      · contradiction
      · contradiction

theorem find_eq_ok {found : Option Node} (way : disk.find path = .ok found) :
    path.isLegal ∧ disk.obstacle? [] path = none ∧ disk.node? path.target = found := by
  unfold find at way
  split at way
  · rename_i legal
    split at way
    · contradiction
    · rename_i free
      exact ⟨legal, free, Except.ok.inj way⟩
  · contradiction

theorem find_put {found : Option Node} (way : disk.find path = .ok found)
    (other : ∀ access, found ≠ some (.directory access)) (node : Node) :
    (disk.put path.target node).find path = .ok (some node) := by
  obtain ⟨legal, free, rfl⟩ := find_eq_ok way
  rw [find, if_pos legal, obstacle?_put other node free]
  simp only [node?_put_self (ne_nil_of_node? other)]

theorem write_eq_ok (written : disk.write path bytes = .ok next) :
    ∃ found, disk.find path = .ok found ∧ (∀ access, found ≠ some (.directory access)) ∧
      next = disk.put path.target (.file .full bytes) := by
  unfold write at written
  split at written
  · contradiction
  · contradiction
  · rename_i way
    split at written
    · exact ⟨_, way, by simp, (Except.ok.inj written).symm⟩
    · contradiction
  · rename_i way
    split at written
    · exact ⟨_, way, by simp, (Except.ok.inj written).symm⟩
    · contradiction

theorem read_write (written : disk.write path bytes = .ok next) : next.read path = .ok bytes := by
  obtain ⟨found, way, other, rfl⟩ := write_eq_ok written
  rw [read, find_put way other]

theorem read_place (placed : disk.place path bytes = (.ok (), next)) :
    next.read path = .ok bytes := by
  unfold place at placed
  split at placed
  · cases placed
  · split at placed
    · cases placed
    · rename_i written
      obtain ⟨-, rfl⟩ := Prod.mk.inj placed
      exact read_write written

end FeedMonitor.Disk
