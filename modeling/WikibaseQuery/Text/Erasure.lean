import WikibaseQuery.Text.Bytes
import WikibaseQuery.Text.Cluster

/-!
# Erasures

A line that was typed may hold backspaces.  Each of them erases the cluster that stands before it
and is not erased yet.  The sizes of clusters are remembered in a byte each, so that of a cluster of
256 bytes and more only the remainder is erased.
-/

namespace WikibaseQuery

/-- The character that erases the cluster before it. -/
def backspace : Char := '\x08'

/-- What is left of a line so far. -/
structure Typed where
  /-- The characters, the last one first. -/
  reversed : List Char
  /-- The sizes of the clusters in bytes, modulo 256, the last one first. -/
  sizes : List Nat
  deriving DecidableEq, Repr

namespace Typed

/-- Nothing. -/
def empty : Typed := ⟨[], []⟩

/-- The line with one more cluster. -/
def add (t : Typed) (cluster : List Char) : Typed :=
  ⟨cluster.reverse ++ t.reversed, utf8Length cluster % 256 :: t.sizes⟩

/-- The line without its last cluster, if it has one. -/
def erase (t : Typed) : Typed :=
  match t.sizes with
  | [] => t
  | size :: sizes => ⟨dropBytes size t.reversed, sizes⟩

/-- The line after one more cluster of what was typed. -/
def next (t : Typed) (cluster : List Char) : Typed :=
  if cluster = [backspace] then t.erase else t.add cluster

end Typed

/-- Clusters without backspaces are all kept. -/
theorem Typed.reversed_foldl_next {typed : List (List Char)} (t : Typed)
    (h : [backspace] ∉ typed) :
    (typed.foldl Typed.next t).reversed = typed.flatten.reverse ++ t.reversed := by
  induction typed generalizing t with
  | nil => rfl
  | cons cluster typed ih =>
    obtain ⟨hc, ht⟩ := List.ne_and_not_mem_of_not_mem_cons h
    simp [ih _ ht, Typed.next, Typed.add, Ne.symm hc]

/-- The line that is left of one with backspaces. -/
def carryOut (cs : List Char) : List Char :=
  ((clusters cs).foldl Typed.next .empty).reversed.reverse

/-- A line without backspaces stays as it is. -/
theorem carryOut_of_not_mem {cs : List Char} (h : backspace ∉ cs) : carryOut cs = cs := by
  have hc : [backspace] ∉ clusters cs := fun hm => h <| by
    rw [← flatten_clusters cs]
    exact List.mem_flatten_of_mem hm (List.mem_singleton_self _)
  simp [carryOut, Typed.reversed_foldl_next _ hc, Typed.empty]

/-- The line after all its erasures.  Where there is none, no clusters have to be found. -/
def erased (cs : List Char) : List Char := if backspace ∈ cs then carryOut cs else cs

theorem erased_eq (cs : List Char) : erased cs = carryOut cs := by
  unfold erased
  split
  · rfl
  · next h => exact (carryOut_of_not_mem h).symm

end WikibaseQuery
