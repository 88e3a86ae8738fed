/-!
# Buffer pools

A pool hands out empty buffers and takes them back.  A buffer that comes back is emptied and kept
for the next caller unless enough buffers are idle already; a buffer that is detached never comes
back.  `Loans` follows one pool and the buffers it has lent.
-/

namespace PassForge

/-- The buffers a pool holds for reuse, the one returned last first. -/
structure BufferPool (β : Type) where
  /-- Idle buffers. -/
  idle : List β
deriving Repr

namespace BufferPool

variable {β : Type}

/-- The most buffers a pool keeps idle. -/
def maxIdle : Nat := 8

/-- A pool without buffers. -/
def empty : BufferPool β := ⟨[]⟩

/-- Hands out the buffer returned last, or a new one. -/
def acquire [EmptyCollection β] (pool : BufferPool β) : β × BufferPool β :=
  match pool.idle with
  | [] => (∅, pool)
  | buffer :: rest => (buffer, ⟨rest⟩)

/-- Empties a buffer for its next use. -/
def recycle [EmptyCollection β] (_ : β) : β := ∅

/-- Takes a buffer back; beyond the bound it is thrown away. -/
def release [EmptyCollection β] (pool : BufferPool β) (buffer : β) : BufferPool β :=
  if pool.idle.length < maxIdle then ⟨recycle buffer :: pool.idle⟩ else pool

end BufferPool

/-- A pool and its loans, numbered in the order in which they were made. -/
structure Loans (β : Type) where
  /-- The pool. -/
  pool : BufferPool β
  /-- The buffer of each loan; `none` once it has ended. -/
  buffers : List (Option β)
deriving Repr

namespace Loans

variable {β : Type}

/-- A new pool, nothing lent. -/
def empty : Loans β := ⟨.empty, []⟩

/-- The buffer of a loan that has not ended. -/
def buffer? (loans : Loans β) (i : Nat) : Option β := loans.buffers[i]?.join

/-- Makes a new loan. -/
def acquire [EmptyCollection β] (loans : Loans β) : Loans β :=
  let (buffer, pool) := loans.pool.acquire
  ⟨pool, loans.buffers ++ [some buffer]⟩

/-- Changes the buffer of a loan that has not ended. -/
def write (loans : Loans β) (i : Nat) (f : β → β) : Loans β :=
  { loans with buffers := loans.buffers.modify i (Option.map f) }

/-- Ends a loan and gives its buffer back. -/
def drop [EmptyCollection β] (loans : Loans β) (i : Nat) : Loans β :=
  match loans.buffer? i with
  | none => loans
  | some buffer => ⟨loans.pool.release buffer, loans.buffers.set i none⟩

/-- Ends a loan and keeps its buffer. -/
def detach (loans : Loans β) (i : Nat) : Loans β :=
  { loans with buffers := loans.buffers.set i none }

/-- Ends a loan and hands over its buffer. -/
def take (loans : Loans β) (i : Nat) : Option β × Loans β := (loans.buffer? i, loans.detach i)

/-- Ends every loan. -/
def dropAll [EmptyCollection β] (loans : Loans β) : Loans β :=
  (List.range loans.buffers.length).foldl drop loans

end Loans

/-- What can be done with a pool and its loans. -/
inductive LoanStep (β : Type) where
  /-- Makes a loan. -/
  | acquire
  /-- Changes the buffer of a loan. -/
  | write (loan : Nat) (change : β → β)
  /-- Ends a loan and gives its buffer back. -/
  | drop (loan : Nat)
  /-- Ends a loan and keeps its buffer. -/
  | take (loan : Nat)

namespace Loans

variable {β : Type} [EmptyCollection β]

/-- Takes a step; one on a loan that has ended does nothing. -/
def apply (loans : Loans β) : LoanStep β → Loans β
  | .acquire => loans.acquire
  | .write i f => loans.write i f
  | .drop i => loans.drop i
  | .take i => (loans.take i).2

/-- Takes steps in turn. -/
def run (loans : Loans β) (steps : List (LoanStep β)) : Loans β := steps.foldl apply loans

end Loans

end PassForge
