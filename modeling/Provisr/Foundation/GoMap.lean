import Provisr.Foundation.JsonOrder
import Mathlib.Data.Option.Basic

namespace Provisr.Foundation

-- A map of Go. Its entries are listed in the order in which `range` visits them, which is any order.
structure GoMap (α : Type) where
  entries : List (String × α)
  distinct : (entries.map Prod.fst).Nodup

namespace GoMap

variable {α β : Type} {R : α → α → Prop} {m n : GoMap α} {k : String} {a b : α}

def empty : GoMap α := ⟨[], List.nodup_nil⟩

def get? (m : GoMap α) (key : String) : Option α := m.entries.lookup key

def first (m : GoMap α) (f : String → α → Option β) : Option β := m.entries.findSome? fun e => f e.1 e.2

def Reordered (R : α → α → Prop) (m n : GoMap α) : Prop := ∀ k, Option.Rel R (m.get? k) (n.get? k)

theorem get?_eq_some_iff : m.get? k = some a ↔ (k, a) ∈ m.entries := Json.lookup_eq_some_iff m.distinct

theorem of_first_some {f : String → α → Option β} {c : β} (found : m.first f = some c) :
    ∃ k a, m.get? k = some a ∧ f k a = some c := by
  obtain ⟨⟨k, a⟩, member, answer⟩ := List.exists_of_findSome?_eq_some found
  exact ⟨k, a, get?_eq_some_iff.mpr member, answer⟩

theorem first_eq_none_iff {f : String → α → Option β} :
    m.first f = none ↔ ∀ k a, m.get? k = some a → f k a = none := by
  unfold first
  rw [List.findSome?_eq_none_iff]
  constructor
  · intro none k a member
    exact none (k, a) (get?_eq_some_iff.mp member)
  · rintro none ⟨k, a⟩ member
    exact none k a (get?_eq_some_iff.mpr member)

theorem rel_self (refl : ∀ a, R a a) (x : Option α) : Option.Rel R x x := by
  cases x with
  | none => exact .none
  | some a => exact .some (refl a)

theorem Reordered.refl (refl : ∀ a, R a a) (m : GoMap α) : Reordered R m m := fun _ => rel_self refl _

theorem Reordered.symm (symm : ∀ a b, R a b → R b a) (same : Reordered R m n) : Reordered R n m := by
  intro k
  have here := same k
  revert here
  generalize m.get? k = x
  generalize n.get? k = y
  rintro (⟨related⟩ | _)
  · exact .some (symm _ _ related)
  · exact .none

theorem Reordered.get? (same : Reordered R m n) (here : m.get? k = some a) : ∃ b, n.get? k = some b ∧ R a b := by
  have related := same k
  rw [here] at related
  generalize n.get? k = y at related
  cases related with
  | some r => exact ⟨_, rfl, r⟩

-- m[key] = b, the entry visited first.
def set (m : GoMap α) (key : String) (b : α) : GoMap α where
  entries := (key, b) :: m.entries.filter fun e => e.1 != key
  distinct := by
    rw [List.map_cons, List.nodup_cons]
    constructor
    · rw [List.mem_map]
      rintro ⟨e, member, same⟩
      obtain ⟨-, other⟩ := List.mem_filter.mp member
      simp [same] at other
    · exact m.distinct.sublist (List.filter_sublist.map Prod.fst)

-- delete(m, key)
def erase (m : GoMap α) (key : String) : GoMap α where
  entries := m.entries.filter fun e => e.1 != key
  distinct := m.distinct.sublist (List.filter_sublist.map Prod.fst)

theorem lookup_filter_ne {entries : List (String × α)} {key k : String} (other : k ≠ key) :
    (entries.filter fun e => e.1 != key).lookup k = entries.lookup k := by
  induction entries with
  | nil => rfl
  | cons e entries ih =>
    obtain ⟨l, a⟩ := e
    by_cases same : l = key
    · subst same
      rw [List.filter_cons_of_neg (by simp), ih, List.lookup_cons, beq_false_of_ne other]
    · rw [List.filter_cons_of_pos (by simpa using same), List.lookup_cons, List.lookup_cons, ih]

theorem get?_set (m : GoMap α) (key k : String) (b : α) :
    (m.set key b).get? k = if k = key then some b else m.get? k := by
  unfold get? set
  by_cases same : k = key
  · rw [if_pos same, List.lookup_cons, beq_iff_eq.mpr same]
  · rw [if_neg same, List.lookup_cons, beq_false_of_ne same, lookup_filter_ne same]

theorem set_reordered (refl : ∀ a, R a a) (here : m.get? k = some a) (related : R a b) :
    Reordered R m (m.set k b) := by
  intro key
  rw [get?_set]
  by_cases same : key = k
  · rw [if_pos same, same, here]
    exact .some related
  · rw [if_neg same]
    exact rel_self refl _

theorem set_first {f : String → α → Option β} {c : β} (answer : f k b = some c) :
    (m.set k b).first f = some c := by
  unfold first set
  rw [List.findSome?_cons, answer]

end GoMap

end Provisr.Foundation
