/-!
# Logs

A log is a sequence that grows at its end.  It keeps its items last one first, so that an addition
takes as long as what is added, and it knows how many items it has.  What a log says is its list of
items in order; every operation is described through that list.
-/

set_option autoImplicit false

namespace Receipt

/-- A sequence that grows at its end: its items, last one first, and their number. -/
structure Log (α : Type) where
  newest : List α
  size : Nat
  size_eq : size = newest.length
  deriving DecidableEq, Repr

namespace Log

variable {α : Type}

/-- The log without items. -/
def empty : Log α :=
  ⟨[], 0, rfl⟩

instance : Inhabited (Log α) :=
  ⟨empty⟩

/-- The items in order. -/
def toList (log : Log α) : List α :=
  log.newest.reverse

/-- The log with one more item. -/
def push (log : Log α) (item : α) : Log α :=
  ⟨item :: log.newest, log.size + 1, by simp [log.size_eq]⟩

/-- The log with more items. -/
def append (log : Log α) (items : List α) : Log α :=
  ⟨items.reverseAux log.newest, log.size + items.length, by
    simp [List.reverseAux_eq, log.size_eq, Nat.add_comm]⟩

/-- The last `count` items in order. -/
def last (log : Log α) (count : Nat) : List α :=
  (log.newest.take count).reverse

/-- The log without its last `count` items. -/
def dropLast (log : Log α) (count : Nat) : Log α :=
  ⟨log.newest.drop count, log.size - count, by simp [log.size_eq]⟩

/-- The log of a list of items. -/
def ofList (items : List α) : Log α :=
  empty.append items

/-- The log without items has none. -/
@[simp] theorem toList_empty : (empty : Log α).toList = [] :=
  rfl

/-- One more item stands behind the others. -/
@[simp] theorem toList_push (log : Log α) (item : α) :
    (log.push item).toList = log.toList ++ [item] := by
  simp [toList, push]

/-- More items stand behind the others in their order. -/
@[simp] theorem toList_append (log : Log α) (items : List α) :
    (log.append items).toList = log.toList ++ items := by
  simp [toList, append, List.reverseAux_eq]

/-- The log of a list has its items. -/
@[simp] theorem toList_ofList (items : List α) : (ofList items).toList = items := by
  simp [ofList]

/-- A log knows how many items it has. -/
@[simp] theorem length_toList (log : Log α) : log.toList.length = log.size := by
  simp [toList, log.size_eq]

/-- Without its last items a log has those in front of them. -/
@[simp] theorem toList_dropLast (log : Log α) (count : Nat) :
    (log.dropLast count).toList = log.toList.take (log.size - count) := by
  simp [toList, dropLast, log.size_eq, List.reverse_drop]

/-- The last items are those behind the others. -/
@[simp] theorem last_eq_drop (log : Log α) (count : Nat) :
    log.last count = log.toList.drop (log.size - count) := by
  simp [toList, last, log.size_eq, List.reverse_take]

/-- A log is known by its items. -/
theorem toList_inj {a b : Log α} (h : a.toList = b.toList) : a = b := by
  have same : a.newest = b.newest := List.reverse_inj.mp h
  have sizes : a.size = b.size := by rw [a.size_eq, b.size_eq, same]
  cases a
  cases b
  simp_all

end Log

end Receipt
