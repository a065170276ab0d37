/-!
# Sequences in blocks

A sequence that grows at its end and whose elements can be changed. It is kept in blocks of one
size, so that a change while an old state of the sequence is kept copies two short arrays and not
all of it.
-/

namespace SnippetRunner

/-- A sequence: blocks that are full, and one that is not. -/
structure Blocks (α : Type) where
  full : Array (Array α) := #[]
  last : Array α := #[]

namespace Blocks

variable {α : Type}

/-- The number of elements in a full block. -/
def blockSize : Nat := 256

/-- The number of elements. -/
def size (b : Blocks α) : Nat := b.full.size * blockSize + b.last.size

/-- The elements in order. -/
def toList (b : Blocks α) : List α := b.full.toList.flatMap Array.toList ++ b.last.toList

/-- The element at an index. -/
def get? (b : Blocks α) (i : Nat) : Option α :=
  let block := i / blockSize
  if block < b.full.size then b.full[block]?.bind (·[i % blockSize]?)
  else if block = b.full.size then b.last[i % blockSize]?
  else none

/-- Adds an element at the end. -/
def push (b : Blocks α) (x : α) : Blocks α :=
  match b with
  | ⟨full, last⟩ =>
    let last := last.push x
    if last.size < blockSize then ⟨full, last⟩ else ⟨full.push last, #[]⟩

/-- Changes the element at an index. -/
def modify (b : Blocks α) (i : Nat) (f : α → α) : Blocks α :=
  match b with
  | ⟨full, last⟩ =>
    let block := i / blockSize
    if block < full.size then ⟨full.modify block (·.modify (i % blockSize) f), last⟩
    else if block = full.size then ⟨full, last.modify (i % blockSize) f⟩
    else ⟨full, last⟩

/-- Replaces the element at an index. -/
def set (b : Blocks α) (i : Nat) (x : α) : Blocks α := b.modify i fun _ => x

@[simp] theorem toList_push (b : Blocks α) (x : α) : (b.push x).toList = b.toList ++ [x] := by
  unfold push toList
  split
  next full last =>
    dsimp only
    split <;> simp

end Blocks

end SnippetRunner
